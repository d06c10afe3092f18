import Mathlib

namespace Csr

variable (parent : ℕ → ℕ)

def counts (n : ℕ) (items : List ℕ) : List ℕ :=
  items.foldl (fun c i => c.modify (parent i) (· + 1)) (List.replicate n 0)

/-- The second pass: the sums of the counts before each one, from `off` on. -/
def offsetsFrom : ℕ → List ℕ → List ℕ
  | _, [] => []
  | off, c :: cs => off :: offsetsFrom (off + c) cs

def place (st : List ℕ × List ℕ) (i : ℕ) : List ℕ × List ℕ :=
  (st.1.modify (parent i) (· + 1), st.2.set (st.1.getD (parent i) 0) i)

def fill (cursor idx items : List ℕ) : List ℕ := (items.foldl (place parent) (cursor, idx)).2

def kids (items : List ℕ) (p : ℕ) : List ℕ := items.filter fun i => parent i = p

variable {parent} {n : ℕ} {items : List ℕ}

theorem kids_concat (done : List ℕ) (i p : ℕ) :
    kids parent (done ++ [i]) p = kids parent done p ++ if parent i = p then [i] else [] := by
  rw [kids, kids, List.filter_append]
  split
  · next hi => rw [List.filter_cons_of_pos (by simpa using hi), List.filter_nil]
  · next hi => rw [List.filter_cons_of_neg (by simpa using hi), List.filter_nil]

theorem length_kids_append_le (done rest : List ℕ) (p : ℕ) :
    (kids parent done p).length ≤ (kids parent (done ++ rest) p).length := by
  rw [kids, kids, List.filter_append, List.length_append]
  omega

theorem getD_modify_succ (c : List ℕ) (q p : ℕ) (hp : p < c.length) :
    (c.modify q (· + 1)).getD p 0 = c.getD p 0 + if q = p then 1 else 0 := by
  rw [List.getD_eq_getElem _ _ (by simpa using hp), List.getD_eq_getElem _ _ hp,
    List.getElem_modify]
  split <;> rfl

theorem counts_concat (done : List ℕ) (i : ℕ) :
    counts parent n (done ++ [i]) = (counts parent n done).modify (parent i) (· + 1) := by
  simp only [counts, List.foldl_append, List.foldl_cons, List.foldl_nil]

theorem length_counts : (counts parent n items).length = n := by
  induction items using List.reverseRecOn with
  | nil => simp [counts]
  | append_singleton done i ih => rw [counts_concat, List.length_modify, ih]

theorem getD_counts {p : ℕ} (hp : p < n) :
    (counts parent n items).getD p 0 = (kids parent items p).length := by
  induction items using List.reverseRecOn with
  | nil => simp [counts, kids, hp]
  | append_singleton done i ih =>
    rw [counts_concat, getD_modify_succ _ _ _ (length_counts.symm ▸ hp), ih, kids_concat,
      List.length_append]
    split <;> rfl

theorem sum_modify_succ (c : List ℕ) {q : ℕ} (hq : q < c.length) :
    (c.modify q (· + 1)).sum = c.sum + 1 := by
  induction c generalizing q with
  | nil => simp at hq
  | cons x c ih =>
    cases q with
    | zero =>
      simp only [List.modify_zero_cons, List.sum_cons]
      omega
    | succ q =>
      simp only [List.modify_succ_cons, List.sum_cons]
      rw [ih (by simpa using hq)]
      omega

theorem sum_counts (h : ∀ i ∈ items, parent i < n) :
    (counts parent n items).sum = items.length := by
  induction items using List.reverseRecOn with
  | nil => simp [counts]
  | append_singleton done i ih =>
    have hi : parent i < (counts parent n done).length :=
      length_counts.symm ▸ h i (by simp)
    have hdone : ∀ j ∈ done, parent j < n := fun j hj => h j (by simp [hj])
    rw [counts_concat, sum_modify_succ _ hi, ih hdone, List.length_append,
      List.length_singleton]

def offset (cs : List ℕ) (p : ℕ) : ℕ := (cs.take p).sum

theorem getD_offsetsFrom (off : ℕ) (cs : List ℕ) {p : ℕ} (hp : p < cs.length) :
    (offsetsFrom off cs).getD p 0 = off + offset cs p := by
  induction cs generalizing off p with
  | nil => simp at hp
  | cons c cs ih =>
    cases p with
    | zero => simp [offsetsFrom, offset]
    | succ p =>
      rw [offsetsFrom, List.getD_cons_succ, ih (off + c) (by simpa using hp), offset, offset,
        List.take_succ_cons, List.sum_cons, Nat.add_assoc]

theorem offset_succ (cs : List ℕ) {p : ℕ} (hp : p < cs.length) :
    offset cs (p + 1) = offset cs p + cs.getD p 0 := by
  rw [offset, offset, List.take_add_one, List.sum_append, List.getElem?_eq_getElem hp,
    List.getD_eq_getElem _ _ hp, Option.toList_some, List.sum_singleton]

theorem offset_mono (cs : List ℕ) {p q : ℕ} (h : p ≤ q) : offset cs p ≤ offset cs q := by
  have ⟨t, ht⟩ := List.take_prefix_take_left (l := cs) h
  rw [offset, offset, ← ht, List.sum_append]
  omega

theorem places_disjoint (cs : List ℕ) {p q j k : ℕ} (hp : p < cs.length) (hq : q < cs.length)
    (hj : j < cs.getD p 0) (hk : k < cs.getD q 0) (h : offset cs p + j = offset cs q + k) :
    p = q := by
  have hp' := offset_succ cs hp
  have hq' := offset_succ cs hq
  rcases Nat.lt_trichotomy p q with hlt | heq | hlt
  · have := offset_mono cs (show p + 1 ≤ q from hlt)
    omega
  · exact heq
  · have := offset_mono cs (show q + 1 ≤ p from hlt)
    omega

theorem place_lt_total (cs : List ℕ) {p k : ℕ} (hp : p < cs.length) (hk : k < cs.getD p 0) :
    offset cs p + k < cs.sum := by
  have hs := offset_succ cs hp
  have hm := offset_mono cs (show p + 1 ≤ cs.length from hp)
  have ht : offset cs cs.length = cs.sum := by rw [offset, List.take_length]
  omega

theorem exists_place {cs : List ℕ} {j : ℕ} (hj : j < cs.sum) :
    ∃ p < cs.length, ∃ k < cs.getD p 0, offset cs p + k = j := by
  induction cs generalizing j with
  | nil => cases hj
  | cons c cs ih =>
    by_cases hc : j < c
    · exact ⟨0, Nat.succ_pos _, j, hc, Nat.zero_add j⟩
    · rw [List.sum_cons] at hj
      have ⟨p, hp, k, hk, hat⟩ := ih (show j - c < cs.sum by omega)
      refine ⟨p + 1, Nat.succ_lt_succ hp, k, hk, ?_⟩
      rw [offset, List.take_succ_cons, List.sum_cons]
      rw [offset] at hat
      omega

/-- The state of the third pass after the items of `done`: every cursor stands behind the
children placed, and the children placed are in their order. -/
structure Placed (parent : ℕ → ℕ) (cs done : List ℕ) (st : List ℕ × List ℕ) : Prop where
  cursors : st.1.length = cs.length
  room : cs.sum ≤ st.2.length
  cursor : ∀ p < cs.length, st.1.getD p 0 = offset cs p + (kids parent done p).length
  kid : ∀ p < cs.length, ∀ k < (kids parent done p).length,
    st.2.getD (offset cs p + k) 0 = (kids parent done p).getD k 0

theorem length_kids_lt_counts (done rest : List ℕ) {i : ℕ} (hi : parent i < n) :
    (kids parent done (parent i)).length <
      (counts parent n (done ++ i :: rest)).getD (parent i) 0 := by
  rw [getD_counts hi, List.append_cons done i rest]
  refine Nat.lt_of_lt_of_le ?_ (length_kids_append_le _ _ _)
  rw [kids_concat, if_pos rfl, List.length_append, List.length_singleton]
  exact Nat.lt_succ_self _

theorem Placed.place_lt {done rest : List ℕ} {i : ℕ} {st : List ℕ × List ℕ} (hi : parent i < n)
    (h : Placed parent (counts parent n (done ++ i :: rest)) done st) :
    st.1.getD (parent i) 0 < st.2.length := by
  have hi' : parent i < (counts parent n (done ++ i :: rest)).length := by
    rw [length_counts]
    exact hi
  rw [h.cursor (parent i) hi']
  exact Nat.lt_of_lt_of_le (place_lt_total _ hi' (length_kids_lt_counts done rest hi)) h.room

theorem Placed.concat {done rest : List ℕ} {i : ℕ} {st : List ℕ × List ℕ}
    (hn : ∀ j ∈ done ++ i :: rest, parent j < n)
    (h : Placed parent (counts parent n (done ++ i :: rest)) done st) :
    Placed parent (counts parent n (done ++ i :: rest)) (done ++ [i])
      (place parent st i) := by
  have hlen : (counts parent n (done ++ i :: rest)).length = n := length_counts
  have hi : parent i < n := hn i (by simp)
  have hfit := length_kids_lt_counts done rest hi
  have hpos := h.place_lt hi
  generalize hcs : counts parent n (done ++ i :: rest) = cs at *
  have hcount : ∀ p < n, (kids parent (done ++ [i]) p).length ≤ cs.getD p 0 := by
    intro p hp
    rw [← hcs, getD_counts hp, List.append_cons done i rest]
    exact length_kids_append_le _ _ p
  have hcur := h.cursor (parent i) (hlen ▸ hi)
  refine ⟨?_, ?_, ?_, ?_⟩
  · rw [place, List.length_modify, h.cursors]
  · rw [place, List.length_set]
    exact h.room
  · intro p hp
    rw [place, getD_modify_succ _ _ _ (h.cursors ▸ hp), h.cursor p hp, kids_concat,
      List.length_append]
    split
    · rw [List.length_singleton, Nat.add_assoc]
    · rfl
  · intro p hp k hk
    have hk' : k < cs.getD p 0 := Nat.lt_of_lt_of_le hk (hcount p (hlen ▸ hp))
    rw [place, List.getD_eq_getElem?_getD, List.getElem?_set, hcur]
    by_cases hat : offset cs (parent i) + (kids parent done (parent i)).length = offset cs p + k
    · -- the place of the new item, which is the last of its parent so far
      have hpi : parent i = p := places_disjoint cs (hlen ▸ hi) hp hfit hk' hat
      subst hpi
      have hkk : k = (kids parent done (parent i)).length := by omega
      rw [if_pos hat, if_pos (hcur ▸ hpos), kids_concat, if_pos rfl, hkk,
        List.getD_append_right _ _ _ _ (Nat.le_refl _), Nat.sub_self]
      rfl
    · rw [if_neg hat, ← List.getD_eq_getElem?_getD]
      have hold : k < (kids parent done p).length := by
        rw [kids_concat, List.length_append] at hk
        by_cases hpi : parent i = p
        · subst hpi
          rw [if_pos rfl, List.length_singleton] at hk
          omega
        · rw [if_neg hpi, List.length_nil, Nat.add_zero] at hk
          exact hk
      rw [h.kid p hp k hold, kids_concat, List.getD_append _ _ _ _ hold]

theorem length_foldl_place (items : List ℕ) (st : List ℕ × List ℕ) :
    (items.foldl (place parent) st).2.length = st.2.length := by
  induction items generalizing st with
  | nil => rfl
  | cons i items ih => rw [List.foldl_cons, ih, place, List.length_set]

theorem placed_foldl (done mid rest : List ℕ) {st : List ℕ × List ℕ}
    (hn : ∀ j ∈ done ++ (mid ++ rest), parent j < n)
    (h : Placed parent (counts parent n (done ++ (mid ++ rest))) done st) :
    Placed parent (counts parent n (done ++ (mid ++ rest))) (done ++ mid)
      (mid.foldl (place parent) st) := by
  induction mid generalizing done st with
  | nil =>
    rw [List.append_nil]
    exact h
  | cons i mid ih =>
    rw [List.cons_append] at hn h ⊢
    have hnext := h.concat hn
    rw [List.append_cons] at hn hnext ⊢
    rw [List.append_cons done i mid]
    exact ih _ hn hnext

theorem length_offsetsFrom (off : ℕ) (cs : List ℕ) : (offsetsFrom off cs).length = cs.length := by
  induction cs generalizing off with
  | nil => rfl
  | cons c cs ih => exact congrArg (· + 1) (ih (off + c))

section Fill

variable {idx : List ℕ} (hn : ∀ i ∈ items, parent i < n) (hroom : items.length ≤ idx.length)
include hn hroom

theorem placed_start :
    Placed parent (counts parent n items) [] (offsetsFrom 0 (counts parent n items), idx) := by
  refine ⟨length_offsetsFrom 0 _, ?_, ?_, ?_⟩
  · rw [sum_counts hn]
    exact hroom
  · intro q hq
    rw [getD_offsetsFrom 0 _ hq, Nat.zero_add]
    rfl
  · intro q _ k hk
    exact absurd hk (Nat.not_lt_zero k)

theorem place_lt_length {done rest : List ℕ} {i : ℕ} (hitems : items = done ++ i :: rest) :
    (done.foldl (place parent) (offsetsFrom 0 (counts parent n items), idx)).1.getD (parent i) 0 <
      idx.length := by
  have h₀ := placed_start hn hroom
  rw [hitems] at hn h₀ ⊢
  have h := placed_foldl [] done (i :: rest) hn h₀
  have hlt := h.place_lt (hn i (by simp))
  rwa [length_foldl_place] at hlt

/-- After the three passes the children of `p` stand at its offset, in their order. -/
theorem getD_fill {p k : ℕ} (hp : p < n) (hk : k < (kids parent items p).length) :
    (fill parent (offsetsFrom 0 (counts parent n items)) idx items).getD
        (offset (counts parent n items) p + k) 0 = (kids parent items p).getD k 0 := by
  have h₀ := placed_start hn hroom
  have h := placed_foldl [] items [] (by simpa using hn) (by simpa using h₀)
  rw [List.nil_append, List.append_nil] at h
  exact h.kid p (length_counts.symm ▸ hp) k hk

end Fill

end Csr
