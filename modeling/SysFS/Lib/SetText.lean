import Mathlib
import SysFS.Lib.CString

namespace SetText
open CString

def hexValue (b : UInt8) : Option ℕ :=
  if 48 ≤ b.toNat ∧ b.toNat ≤ 57 then some (b.toNat - 48)
  else if 97 ≤ b.toNat ∧ b.toNat ≤ 102 then some (b.toNat - 87)
  else none

def digitValue (base : ℕ) (b : UInt8) : Option ℕ := (hexValue b).filter (· < base)

def numberFrom (base : ℕ) : ℕ → List UInt8 → Option ℕ
  | v, [] => some v
  | v, b :: s => (digitValue base b).bind fun d => numberFrom base (base * v + d) s

def number (base : ℕ) (s : List UInt8) : Option ℕ := if s = [] then none else numberFrom base 0 s

def digits (base n : ℕ) : List UInt8 := (Nat.toDigits base n).map fun c => c.toNat.toUInt8

section Numbers

variable {base : ℕ}

theorem digitValue_digitChar (hbase : base ≤ 16) {d : ℕ} (hd : d < base) :
    digitValue base (d.digitChar.toNat.toUInt8) = some d := by
  have hall : ∀ d < 16, hexValue (d.digitChar.toNat.toUInt8) = some d := by decide
  rw [digitValue, hall d (by omega), Option.filter_some, if_pos (decide_eq_true hd)]

theorem numberFrom_append (v : ℕ) (s t : List UInt8) :
    numberFrom base v (s ++ t) = (numberFrom base v s).bind fun w => numberFrom base w t := by
  induction s generalizing v with
  | nil => rfl
  | cons b s ih =>
    rw [List.cons_append, numberFrom, numberFrom]
    cases digitValue base b with
    | none => rfl
    | some d => exact ih _

theorem numberFrom_digits (h1 : 1 < base) (h16 : base ≤ 16) (n : ℕ) :
    numberFrom base 0 (digits base n) = some n := by
  induction n using Nat.strongRecOn with
  | _ n ih =>
    rw [digits, Nat.toDigits_eq_if h1]
    split
    · next hlt =>
      rw [List.map_singleton, numberFrom, digitValue_digitChar h16 hlt, Option.bind_some,
        numberFrom, Nat.mul_zero, Nat.zero_add]
    · next hge =>
      have hquot := ih (n / base) (Nat.div_lt_self (by omega) h1)
      rw [digits] at hquot
      rw [List.map_append, numberFrom_append, hquot, Option.bind_some, List.map_singleton,
        numberFrom, digitValue_digitChar h16 (Nat.mod_lt n (by omega)), Option.bind_some,
        numberFrom, Nat.div_add_mod]

theorem numberFrom_zeros (h : 0 < base) (k : ℕ) (s : List UInt8) :
    numberFrom base 0 (List.replicate k 48 ++ s) = numberFrom base 0 s := by
  have hzero : digitValue base 48 = some 0 := if_pos (decide_eq_true h)
  induction k with
  | zero => rfl
  | succ k ih =>
    rw [List.replicate_succ, List.cons_append, numberFrom, hzero, Option.bind_some, Nat.mul_zero,
      Nat.zero_add, ih]

theorem digits_ne_nil (base n : ℕ) : digits base n ≠ [] := by
  simp [digits]

theorem number_digits (h1 : 1 < base) (h16 : base ≤ 16) (n : ℕ) :
    number base (digits base n) = some n := by
  rw [number, if_neg (digits_ne_nil base n), numberFrom_digits h1 h16]

theorem digitValue_of_mem {n : ℕ} (h1 : 1 < base) (h16 : base ≤ 16) {b : UInt8}
    (h : b ∈ digits base n) : ∃ d, digitValue base b = some d := by
  have hsome : ∀ (s : List UInt8) (v w : ℕ), numberFrom base v s = some w → b ∈ s →
      ∃ d, digitValue base b = some d := by
    intro s
    induction s with
    | nil => intro v w _ hb; cases hb
    | cons a s ih =>
      intro v w hs hb
      rw [numberFrom, Option.bind_eq_some_iff] at hs
      have ⟨d, hd, hrest⟩ := hs
      rcases List.mem_cons.mp hb with rfl | hb
      · exact ⟨d, hd⟩
      · exact ih _ w hrest hb
  exact hsome _ 0 n (numberFrom_digits h1 h16 n) h

theorem separator_notMem_digits {n : ℕ} (h1 : 1 < base) (h16 : base ≤ 16) {b : UInt8}
    (hb : hexValue b = none) : b ∉ digits base n := by
  intro hmem
  have ⟨d, hd⟩ := digitValue_of_mem h1 h16 hmem
  rw [digitValue, hb] at hd
  cases hd

theorem hexPadded_eq (width n : ℕ) :
    hexPadded width n = List.replicate (width - (digits 16 n).length) 48 ++ digits 16 n := rfl

theorem number_hexPadded (width n : ℕ) : number 16 (hexPadded width n) = some n := by
  rw [number, if_neg, hexPadded_eq, numberFrom_zeros (by decide),
    numberFrom_digits (by decide) (by decide)]
  intro hnil
  exact digits_ne_nil 16 n (List.append_eq_nil_iff.mp hnil).2

theorem hexPadded_length {width n : ℕ} (hw : 0 < width) (h : n < 16 ^ width) :
    (hexPadded width n).length = width := by
  have hle : (digits 16 n).length ≤ width := by
    simpa [digits] using (Nat.length_toDigits_le_iff (by decide) hw).mpr h
  rw [hexPadded_eq, List.length_append, List.length_replicate]
  omega

theorem separator_notMem_hexPadded (width n : ℕ) : (44 : UInt8) ∉ hexPadded width n := by
  rw [hexPadded_eq, List.mem_append, List.mem_replicate]
  rintro (⟨_, h⟩ | h)
  · cases h
  · exact separator_notMem_digits (by decide) (by decide) (by decide) h

end Numbers

def line (text : List UInt8) : Option (List UInt8) :=
  if text.getLast? = some 10 then some text.dropLast else none

/-- A number, or the first and the last of several with a hyphen between them. -/
def range (s : List UInt8) : Option (ℕ × ℕ) :=
  match s.splitOn 45 with
  | [a] => (number 10 a).map fun n => (n, n)
  | [a, b] => (number 10 a).bind fun m => (number 10 b).map fun n => (m, n)
  | _ => none

def ranges (text : List UInt8) : Option (List (ℕ × ℕ)) :=
  (line text).bind fun s => (s.splitOn 44).mapM range

/-- The set that a list denotes. -/
def listSet (text : List UInt8) : Option (Set ℕ) :=
  (ranges text).map fun rs => { i | ∃ r ∈ rs, r.1 ≤ i ∧ i ≤ r.2 }

def group (s : List UInt8) : Option ℕ := if s.length ≤ 8 then number 16 s else none

def maskValue (text : List UInt8) : Option ℕ :=
  (line text).bind fun s =>
    ((s.splitOn 44).mapM group).map (List.foldl (fun v g => v * 2 ^ 32 + g) 0)

/-- The set that a mask denotes. -/
def maskSet (text : List UInt8) : Option (Set ℕ) :=
  (maskValue text).map fun v => { i | v.testBit i = true }

theorem line_newline (s : List UInt8) : line (s ++ [10]) = some s := by
  simp [line]

theorem splitOn_pair {x : UInt8} {s t : List UInt8} (hs : x ∉ s) (ht : x ∉ t) :
    (s ++ x :: t).splitOn x = [s, t] := by
  have hsplit : ([x].intercalate [s, t]).splitOn x = [s, t] :=
    List.splitOn_intercalate x (by simp [hs, ht]) (by simp)
  simpa [List.intercalate] using hsplit

theorem splitOn_self {x : UInt8} {s : List UInt8} (hs : x ∉ s) : s.splitOn x = [s] := by
  have hsplit : ([x].intercalate [s]).splitOn x = [s] :=
    List.splitOn_intercalate x (by simp [hs]) (by simp)
  simpa [List.intercalate] using hsplit

theorem comma_notMem_decimal (n : ℕ) : (44 : UInt8) ∉ decimal n :=
  separator_notMem_digits (by decide) (by decide) (by decide)

theorem hyphen_notMem_decimal (n : ℕ) : (45 : UInt8) ∉ decimal n :=
  separator_notMem_digits (by decide) (by decide) (by decide)

theorem number_decimal (n : ℕ) : number 10 (decimal n) = some n :=
  number_digits (by decide) (by decide) n

theorem listSet_of_range {s : List UInt8} {m n : ℕ} (hcomma : (44 : UInt8) ∉ s)
    (hrange : range s = some (m, n)) : listSet (s ++ [10]) = some (Set.Icc m n) := by
  rw [listSet, ranges, line_newline, Option.bind_some, splitOn_self hcomma]
  simp only [List.mapM_cons, List.mapM_nil, hrange]
  apply congrArg some
  ext i
  simp

theorem listSet_decimal (n : ℕ) : listSet (decimal n ++ [10]) = some {n} := by
  rw [listSet_of_range (comma_notMem_decimal n) (m := n) (n := n), Set.Icc_self]
  rw [range, splitOn_self (hyphen_notMem_decimal n)]
  simp [number_decimal]

theorem listSet_interval (m n : ℕ) :
    listSet (decimal m ++ 45 :: decimal n ++ [10]) = some (Set.Icc m n) := by
  apply listSet_of_range
  · simp [comma_notMem_decimal]
  · rw [range, splitOn_pair (hyphen_notMem_decimal m) (hyphen_notMem_decimal n)]
    simp [number_decimal]

def maskText (groups : List ℕ) : List UInt8 :=
  [44].intercalate (groups.map (hexPadded 8)) ++ [10]

theorem maskText_cons (g : ℕ) (groups : List ℕ) :
    maskText (g :: groups) =
      hexPadded 8 g ++ (groups.map fun g => 44 :: hexPadded 8 g).flatten ++ [10] := by
  apply congrArg (· ++ [10])
  induction groups generalizing g with
  | nil => simp
  | cons g' groups ih =>
    rw [List.map_cons, List.map_cons, List.intercalate_cons_cons, ← List.map_cons, ih,
      List.map_cons, List.flatten_cons]
    simp

theorem maskValue_maskText {groups : List ℕ} (hne : groups ≠ []) (h : ∀ g ∈ groups, g < 2 ^ 32) :
    maskValue (maskText groups) = some (groups.foldl (fun v g => v * 2 ^ 32 + g) 0) := by
  have hsplit : ([44].intercalate (groups.map (hexPadded 8))).splitOn 44 =
      groups.map (hexPadded 8) := by
    apply List.splitOn_intercalate
    · intro l hl
      have ⟨g, _, hg⟩ := List.mem_map.mp hl
      rw [← hg]
      exact separator_notMem_hexPadded 8 g
    · simpa using hne
  have hgroups : (groups.map (hexPadded 8)).mapM group = some groups := by
    clear hsplit hne
    induction groups with
    | nil => rfl
    | cons g groups ih =>
      have hlen : (hexPadded 8 g).length = 8 :=
        hexPadded_length (by decide) ((h g (by simp)).trans_le (by decide))
      have hg : group (hexPadded 8 g) = some g := by
        rw [group, if_pos hlen.le, number_hexPadded]
      rw [List.map_cons, List.mapM_cons, hg, ih fun g' hg' => h g' (List.mem_cons_of_mem _ hg')]
      rfl
  rw [maskValue, maskText, line_newline, Option.bind_some, hsplit, hgroups, Option.map_some]

theorem foldl_full_groups (k m : ℕ) :
    (List.replicate m (2 ^ 32 - 1)).foldl (fun v g => v * 2 ^ 32 + g) (2 ^ k - 1) =
      2 ^ (k + 32 * m) - 1 := by
  induction m generalizing k with
  | zero => rfl
  | succ m ih =>
    have hstep : (2 ^ k - 1) * 2 ^ 32 + (2 ^ 32 - 1) = 2 ^ (k + 32) - 1 := by
      have hpos := Nat.two_pow_pos k
      rw [Nat.pow_add]
      omega
    rw [List.replicate_succ, List.foldl_cons, hstep, ih]
    congr 2
    omega

theorem maskSet_full {k m : ℕ} (hk : k ≤ 32) :
    maskSet (maskText ((2 ^ k - 1) :: List.replicate m (2 ^ 32 - 1))) =
      some (Set.Iio (k + 32 * m)) := by
  have hsmall : ∀ g ∈ (2 ^ k - 1) :: List.replicate m (2 ^ 32 - 1), g < 2 ^ 32 := by
    intro g hg
    rcases List.mem_cons.mp hg with rfl | hg
    · have := Nat.pow_le_pow_right (by decide : 0 < 2) hk
      omega
    · rw [List.eq_of_mem_replicate hg]
      decide
  rw [maskSet, maskValue_maskText (List.cons_ne_nil _ _) hsmall, Option.map_some,
    List.foldl_cons, Nat.zero_mul, Nat.zero_add, foldl_full_groups]
  apply congrArg some
  ext i
  simp [Nat.testBit_two_pow_sub_one]

end SetText
