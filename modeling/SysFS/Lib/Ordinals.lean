import Mathlib

namespace Ordinals

variable {α : Type} [DecidableEq α] (suffix : α → ℕ → α) (name : ℕ → α)

def occurrences (n : ℕ) (a : α) : ℕ := (List.range n).countP fun j => name j = a

def ordinal (i : ℕ) : ℕ := occurrences name i (name i)

def display (i : ℕ) : α :=
  if ordinal name i = 0 then name i else suffix (name i) (ordinal name i)

variable {suffix}

theorem occurrences_succ (n : ℕ) (a : α) :
    occurrences name (n + 1) a = occurrences name n a + if name n = a then 1 else 0 := by
  simp [occurrences, List.range_succ, List.countP_append, List.countP_singleton]

theorem occurrences_mono (a : α) {m n : ℕ} (h : m ≤ n) :
    occurrences name m a ≤ occurrences name n a := by
  induction h with
  | refl => exact Nat.le_refl _
  | step _ ih =>
    rw [occurrences_succ]
    omega

theorem ordinal_lt_occurrences {i n : ℕ} (h : i < n) :
    ordinal name i < occurrences name n (name i) := by
  have hs : occurrences name (i + 1) (name i) = ordinal name i + 1 := by
    rw [occurrences_succ, if_pos rfl, ordinal]
  have := occurrences_mono name (name i) (show i + 1 ≤ n from h)
  omega

variable {name}

theorem eq_of_ordinal_eq {i j : ℕ} (hn : name i = name j) (ho : ordinal name i = ordinal name j) :
    i = j := by
  rcases Nat.lt_trichotomy i j with hlt | heq | hlt
  · have := ordinal_lt_occurrences name hlt
    rw [hn] at this
    exact absurd ho (Nat.ne_of_lt this)
  · exact heq
  · have := ordinal_lt_occurrences name hlt
    rw [← hn] at this
    exact absurd ho.symm (Nat.ne_of_lt this)

theorem exists_ordinal {n k : ℕ} {a : α} (h : k < occurrences name n a) :
    ∃ i < n, name i = a ∧ ordinal name i = k := by
  induction n with
  | zero => exact absurd h (Nat.not_lt_zero k)
  | succ n ih =>
    rw [occurrences_succ] at h
    by_cases hk : k < occurrences name n a
    · have ⟨i, hi, hrest⟩ := ih hk
      exact ⟨i, Nat.lt_succ_of_lt hi, hrest⟩
    · split at h
      · next hn =>
        refine ⟨n, Nat.lt_succ_self n, hn, ?_⟩
        rw [ordinal, hn]
        omega
      · exact absurd h hk

def Distinct (suffix : α → ℕ → α) (name : ℕ → α) (n : ℕ) : Prop :=
  ∀ i < n, ∀ j < n, display suffix name i = display suffix name j → i = j

theorem distinct_iff (hs : ∀ {a b m n}, suffix a m = suffix b n → a = b ∧ m = n) (n : ℕ) :
    Distinct suffix name n ↔
      ∀ i < n, ∀ a k, 0 < k → name i = suffix a k → occurrences name n a ≤ k := by
  constructor
  · intro hd i hi a k hk hname
    by_contra hmany
    -- the first item of this name and the item with ordinal k of the name a
    have ⟨i₀, hi₀, hn₀, ho₀⟩ := exists_ordinal (Nat.zero_lt_of_lt (ordinal_lt_occurrences name hi))
    have ⟨j, hj, hnj, hoj⟩ := exists_ordinal (Nat.lt_of_not_le hmany)
    have heq : display suffix name i₀ = display suffix name j := by
      rw [display, display, if_pos ho₀, if_neg (by omega), hn₀, hname, hnj, hoj]
    have := hd i₀ hi₀ j hj heq
    rw [this] at ho₀
    omega
  · intro hno i hi j hj heq
    have hclash : ∀ {i j}, i < n → j < n → ordinal name i = 0 → ordinal name j ≠ 0 →
        name i ≠ suffix (name j) (ordinal name j) := by
      intro i j hi hj _ hoj hname
      have hle := hno i hi (name j) (ordinal name j) (Nat.pos_of_ne_zero hoj) hname
      have := ordinal_lt_occurrences name hj
      omega
    rw [display, display] at heq
    split at heq
    · next hoi =>
      split at heq
      · next hoj => exact eq_of_ordinal_eq heq (hoi.trans hoj.symm)
      · next hoj => exact absurd heq (hclash hi hj hoi hoj)
    · next hoi =>
      split at heq
      · next hoj => exact absurd heq.symm (hclash hj hi hoj hoi)
      · have ⟨hn, ho⟩ := hs heq
        exact eq_of_ordinal_eq hn ho

end Ordinals
