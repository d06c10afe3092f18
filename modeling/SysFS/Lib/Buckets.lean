import Mathlib

namespace Buckets

variable {α : Type}

def entries (t : List (List α)) : List α := t.flatten

def bucket (t : List (List α)) (i : ℕ) : List α := t.getD i []

def insertHead (t : List (List α)) (i : ℕ) (a : α) : List (List α) := t.modify i (a :: ·)

def unlink [DecidableEq α] (t : List (List α)) (a : α) : List (List α) := t.map (·.erase a)

def Placed (home : α → ℕ) (t : List (List α)) : Prop := ∀ i, ∀ a ∈ bucket t i, home a = i

theorem entries_replicate_nil (n : ℕ) : entries (List.replicate n ([] : List α)) = [] := by
  simp [entries]

theorem mem_entries_iff {t : List (List α)} {a : α} : a ∈ entries t ↔ ∃ i, a ∈ bucket t i := by
  simp only [entries, bucket, List.getD_eq_getElem?_getD]
  rw [List.mem_flatten]
  constructor
  · intro ⟨l, hl, ha⟩
    have ⟨i, hi⟩ := List.mem_iff_getElem?.mp hl
    exact ⟨i, by rwa [hi]⟩
  · intro ⟨i, ha⟩
    cases hi : t[i]? with
    | none => simp [hi] at ha
    | some l => exact ⟨l, List.mem_of_getElem? hi, by simpa [hi] using ha⟩

theorem Placed.mem_bucket {home : α → ℕ} {t : List (List α)} (h : Placed home t) {a : α}
    (ha : a ∈ entries t) : a ∈ bucket t (home a) := by
  have ⟨i, hi⟩ := mem_entries_iff.mp ha
  rw [h i a hi]
  exact hi

theorem bucket_insertHead (t : List (List α)) {i : ℕ} (hi : i < t.length) (a : α) (j : ℕ) :
    bucket (insertHead t i a) j = if j = i then a :: bucket t i else bucket t j := by
  simp only [bucket, insertHead, List.getD_eq_getElem?_getD, List.getElem?_modify]
  by_cases hj : j = i
  · rw [hj, List.getElem?_eq_getElem hi]
    simp
  · simp [hj, Ne.symm hj]

theorem entries_insertHead_perm {t : List (List α)} {i : ℕ} (hi : i < t.length) (a : α) :
    (entries (insertHead t i a)).Perm (a :: entries t) := by
  have hsplit : t = t.take i ++ t[i] :: t.drop (i + 1) := by
    rw [← List.drop_eq_getElem_cons hi, List.take_append_drop]
  conv_rhs => rw [hsplit]
  rw [insertHead, List.modify_eq_take_cons_drop hi]
  simp only [entries, List.flatten_append, List.flatten_cons, List.cons_append]
  exact List.perm_middle

section Unlink
variable [DecidableEq α]

theorem bucket_unlink (t : List (List α)) (a : α) (j : ℕ) :
    bucket (unlink t a) j = (bucket t j).erase a := by
  simp only [bucket, unlink, List.getD_eq_getElem?_getD, List.getElem?_map]
  cases t[j]? <;> simp

theorem entries_unlink {t : List (List α)} (h : (entries t).Nodup) (a : α) :
    entries (unlink t a) = (entries t).erase a := by
  have hbuckets := (List.nodup_flatten.mp h).1
  rw [h.erase_eq_filter, entries, entries, List.filter_flatten, unlink]
  congr 1
  apply List.map_congr_left
  intro l hl
  exact (hbuckets l hl).erase_eq_filter a

end Unlink

section Find
variable {home : α → ℕ} {t : List (List α)} {p : α → Bool} {i : ℕ}

/-- A walk along the bucket of a key finds nothing only if the table has no entry with the key. -/
theorem find?_bucket_eq_none (h : Placed home t) (hp : ∀ a, p a = true → home a = i) :
    (bucket t i).find? p = none ↔ ∀ a ∈ entries t, p a = false := by
  rw [List.find?_eq_none]
  constructor
  · intro hnone a ha
    by_contra hpa
    rw [Bool.not_eq_false] at hpa
    have hmem := h.mem_bucket ha
    rw [hp a hpa] at hmem
    exact hnone a hmem hpa
  · intro hall a ha
    rw [hall a (mem_entries_iff.mpr ⟨i, ha⟩)]
    exact Bool.false_ne_true

theorem find?_bucket_mem {a : α} (hfind : (bucket t i).find? p = some a) :
    a ∈ entries t ∧ p a = true :=
  ⟨mem_entries_iff.mpr ⟨i, List.mem_of_find?_eq_some hfind⟩, List.find?_some hfind⟩

end Find

end Buckets
