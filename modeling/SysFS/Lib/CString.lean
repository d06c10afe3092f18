import Mathlib

namespace CString

/-- The bytes of a C string before its terminating NUL. -/
abbrev CStr := List UInt8

instance : LawfulBEq CStr := inferInstance

/-- A string literal of the C source. -/
def cstr (s : String) : CStr := s.toList.map fun c => c.toNat.toUInt8

/-- What a buffer of `size` bytes holds after `strlcpy(buf, src, size)`. -/
def strlcpy (src : CStr) (size : ℕ) : CStr := src.take (size - 1)

/-- The `%u` conversion. -/
def decimal (n : ℕ) : CStr := (Nat.toDigits 10 n).map fun c => c.toNat.toUInt8

/-- The `%0wx` conversion with the width `w`. -/
def hexPadded (width n : ℕ) : CStr :=
  ((Nat.toDigits 16 n).map fun c => c.toNat.toUInt8).leftpad width 48

/-- The `%wllu` conversion with the width `w`. -/
def decimalPadded (width n : ℕ) : CStr := (decimal n).leftpad width 32

/-- The `%s@%u` conversion; 64 is the byte of the separator. -/
def numbered (s : CStr) (n : ℕ) : CStr := s ++ 64 :: decimal n

theorem strlcpy_of_fits {s : CStr} {size : ℕ} (h : s.length < size) : strlcpy s size = s :=
  List.take_of_length_le (by omega)

theorem strlcpy_length_lt {s : CStr} {size : ℕ} (h : 0 < size) :
    (strlcpy s size).length < size := by
  simp only [strlcpy, List.length_take]
  omega

theorem digit_toNat {n : ℕ} {c : Char} (h : c ∈ Nat.toDigits 10 n) :
    48 ≤ c.toNat ∧ c.toNat ≤ 57 := by
  have hd := Char.isDigit_iff_toNat.mp (Nat.isDigit_of_mem_toDigits (by omega) (by omega) h)
  have h0 : '0'.toNat = 48 := by decide
  have h9 : '9'.toNat = 57 := by decide
  omega

theorem digit_byte_toNat {n : ℕ} {c : Char} (h : c ∈ Nat.toDigits 10 n) :
    (c.toNat.toUInt8).toNat = c.toNat := by
  have := digit_toNat h
  simp only [Nat.toUInt8_eq, UInt8.toNat_ofNat']
  omega

theorem decimal_decode (n : ℕ) :
    (decimal n).map (fun b => Char.ofNat b.toNat) = Nat.toDigits 10 n := by
  rw [decimal, List.map_map]
  conv_rhs => rw [← List.map_id (Nat.toDigits 10 n)]
  apply List.map_congr_left
  intro c hc
  rw [Function.comp_apply, digit_byte_toNat hc, Char.ofNat_toNat, id]

theorem decimal_injective : Function.Injective decimal := by
  intro m n h
  have hd : Nat.toDigits 10 m = Nat.toDigits 10 n := by
    rw [← decimal_decode, ← decimal_decode, h]
  have hp := congrArg (fun ds => Nat.ofDigitChars 10 ds 0) hd
  simpa using hp

theorem decimal_bytes {n : ℕ} {b : UInt8} (h : b ∈ decimal n) : 48 ≤ b.toNat ∧ b.toNat ≤ 57 := by
  obtain ⟨c, hc, rfl⟩ := List.mem_map.mp h
  rw [digit_byte_toNat hc]
  exact digit_toNat hc

theorem decimal_ne_nil (n : ℕ) : decimal n ≠ [] := by
  simp [decimal]

theorem decimal_length_le {n k : ℕ} (hk : 0 < k) (h : n < 10 ^ k) : (decimal n).length ≤ k := by
  simpa [decimal] using (Nat.length_toDigits_le_iff (by omega) hk).mpr h

theorem separator_notMem_decimal (n : ℕ) : (64 : UInt8) ∉ decimal n := by
  intro h
  have := decimal_bytes h
  simp at this

/-- The number after the last separator and the text before it can both be read back. -/
theorem numbered_inj {s t : CStr} {m n : ℕ} (h : numbered s m = numbered t n) :
    s = t ∧ m = n := by
  have hr := congrArg List.reverse h
  simp only [numbered, List.reverse_append, List.reverse_cons, List.append_assoc,
    List.singleton_append] at hr
  have hm : (64 : UInt8) ∉ (decimal m).reverse := by simpa using separator_notMem_decimal m
  have hn : (64 : UInt8) ∉ (decimal n).reverse := by simpa using separator_notMem_decimal n
  have hs := (List.append_eq_append_iff.mp hr)
  rcases hs with ⟨a, ha, hb⟩ | ⟨a, ha, hb⟩
  · cases a with
    | nil =>
      simp only [List.nil_append, List.cons.injEq, true_and, List.append_nil] at ha hb
      exact ⟨List.reverse_injective hb, decimal_injective (List.reverse_injective ha.symm)⟩
    | cons x xs =>
      simp only [List.cons_append, List.cons.injEq] at hb
      exact absurd (by rw [ha, ← hb.1]; simp) hn
  · cases a with
    | nil =>
      simp only [List.nil_append, List.cons.injEq, true_and, List.append_nil] at ha hb
      exact ⟨List.reverse_injective hb.symm, decimal_injective (List.reverse_injective ha)⟩
    | cons x xs =>
      simp only [List.cons_append, List.cons.injEq] at hb
      exact absurd (by rw [ha, ← hb.1]; simp) hm

theorem numbered_length (s : CStr) (n : ℕ) :
    (numbered s n).length = s.length + 1 + (decimal n).length := by
  simp [numbered]
  omega

end CString
