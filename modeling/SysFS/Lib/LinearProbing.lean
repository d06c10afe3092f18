import Mathlib

namespace LinearProbing

variable {K V : Type} (next : ℕ → ℕ)

abbrev Slots (K V : Type) := List (Option (K × V))

def slotAt (slots : Slots K V) (h : ℕ) : Option (K × V) := slots.getD h none

def findFrom [DecidableEq K] (slots : Slots K V) (k : K) : ℕ → ℕ → Option V
  | 0, _ => none
  | n + 1, h =>
    match slotAt slots h with
    | none => none
    | some (k', v) => if k' = k then some v else findFrom slots k n (next h)

def insertFrom [DecidableEq K] (slots : Slots K V) (k : K) (v : V) : ℕ → ℕ → Slots K V
  | 0, _ => slots
  | n + 1, h =>
    match slotAt slots h with
    | none => slots.set h (some (k, v))
    | some (k', _) => if k' = k then slots else insertFrom slots k v n (next h)

def OtherAt (slots : Slots K V) (k : K) (h : ℕ) : Prop :=
  ∃ k' v, slotAt slots h = some (k', v) ∧ k' ≠ k

/-- After `j` probes from `h` the place `h'` is reached, past other keys only. -/
def Path (slots : Slots K V) (k : K) (h j h' : ℕ) : Prop :=
  next^[j] h = h' ∧ ∀ i < j, OtherAt slots k (next^[i] h)

/-- Every stored key is met on its own probe sequence, in as many probes as there are slots. -/
def Wf (start : K → ℕ) (slots : Slots K V) : Prop :=
  ∀ h k v, slotAt slots h = some (k, v) → ∃ j < slots.length, Path next slots k (start k) j h

variable {next} {slots : Slots K V} {k : K} {v : V}

theorem Path.step {h j h' : ℕ} (hp : Path next slots k h (j + 1) h') :
    OtherAt slots k h ∧ Path next slots k (next h) j h' := by
  refine ⟨hp.2 0 (Nat.succ_pos j), ?_, ?_⟩
  · rw [← Function.iterate_succ_apply]
    exact hp.1
  · intro i hi
    rw [← Function.iterate_succ_apply]
    exact hp.2 (i + 1) (by omega)

theorem at_set {h h' : ℕ} {s : Option (K × V)} (hh : h < slots.length) :
    slotAt (slots.set h s) h' = if h = h' then s else slotAt slots h' := by
  simp only [slotAt, List.getD_eq_getElem?_getD, List.getElem?_set, hh, if_true]
  split <;> rfl

def used (slots : Slots K V) : ℕ := slots.countP Option.isSome

theorem exists_empty (h : used slots < slots.length) :
    ∃ i < slots.length, slotAt slots i = none := by
  by_contra hno
  have hall : ∀ e ∈ slots, Option.isSome e = true := by
    intro e he
    have ⟨i, hi, hei⟩ := List.mem_iff_getElem.mp he
    cases e with
    | some _ => rfl
    | none =>
      refine absurd ⟨i, hi, ?_⟩ hno
      rw [slotAt, List.getD_eq_getElem?_getD, List.getElem?_eq_getElem hi, hei, Option.getD_some]
  rw [used, List.countP_eq_length.mpr hall] at h
  exact Nat.lt_irrefl _ h

theorem used_set {h : ℕ} {e : K × V} (hh : h < slots.length) (hempty : slotAt slots h = none) :
    used (slots.set h (some e)) = used slots + 1 := by
  have hn : slots[h] = none := by
    rwa [slotAt, List.getD_eq_getElem?_getD, List.getElem?_eq_getElem hh,
      Option.getD_some] at hempty
  simp [used, List.countP_set, hh, hn]

variable [DecidableEq K]

theorem findFrom_of_other {n h : ℕ} (ho : OtherAt slots k h) :
    findFrom next slots k (n + 1) h = findFrom next slots k n (next h) := by
  have ⟨k', v, ha, hk⟩ := ho
  simp only [findFrom, ha, if_neg hk]

theorem insertFrom_of_other {n h : ℕ} (ho : OtherAt slots k h) :
    insertFrom next slots k v (n + 1) h = insertFrom next slots k v n (next h) := by
  have ⟨k', v', ha, hk⟩ := ho
  simp only [insertFrom, ha, if_neg hk]

theorem findFrom_of_path {n h j h' : ℕ} (hp : Path next slots k h j h') (hn : j ≤ n) :
    findFrom next slots k n h = findFrom next slots k (n - j) h' := by
  induction j generalizing n h with
  | zero => rw [show h = h' from hp.1, Nat.sub_zero]
  | succ j ih =>
    have ⟨ho, hp'⟩ := hp.step
    have hn' : n = n - 1 + 1 := by omega
    rw [hn', findFrom_of_other ho, ih hp' (by omega)]
    congr 1
    omega

theorem insertFrom_of_path {n h j h' : ℕ} (hp : Path next slots k h j h') (hn : j ≤ n) :
    insertFrom next slots k v n h = insertFrom next slots k v (n - j) h' := by
  induction j generalizing n h with
  | zero => rw [show h = h' from hp.1, Nat.sub_zero]
  | succ j ih =>
    have ⟨ho, hp'⟩ := hp.step
    have hn' : n = n - 1 + 1 := by omega
    rw [hn', insertFrom_of_other ho, ih hp' (by omega)]
    congr 1
    omega

theorem findFrom_mem {n h : ℕ} (hf : findFrom next slots k n h = some v) :
    ∃ h', slotAt slots h' = some (k, v) := by
  induction n generalizing h with
  | zero => cases hf
  | succ n ih =>
    rw [findFrom] at hf
    split at hf
    · cases hf
    · next k' v' ha =>
      split at hf
      · next hk => exact ⟨h, by rw [ha, hk, ← Option.some_inj.mp hf]⟩
      · exact ih hf

/-- In a well-formed table a lookup finds exactly what is stored. -/
theorem find_iff {start : K → ℕ} (hw : Wf next start slots) :
    findFrom next slots k slots.length (start k) = some v ↔ ∃ h, slotAt slots h = some (k, v) := by
  refine ⟨findFrom_mem, ?_⟩
  intro ⟨h, hs⟩
  have ⟨j, hj, hp⟩ := hw h k v hs
  have hn : slots.length - j = slots.length - j - 1 + 1 := by omega
  rw [findFrom_of_path hp (Nat.le_of_lt hj), hn, findFrom, hs]
  exact if_pos rfl

theorem find_eq_none {start : K → ℕ} (hw : Wf next start slots)
    (hn : findFrom next slots k slots.length (start k) = none) (h : ℕ) (v : V) :
    slotAt slots h ≠ some (k, v) := by
  intro hs
  rw [(find_iff hw).mpr ⟨h, hs⟩] at hn
  cases hn

theorem exists_first_empty {start : K → ℕ} (hw : Wf next start slots)
    (hnone : findFrom next slots k slots.length (start k) = none)
    (hfree : ∃ j < slots.length, slotAt slots (next^[j] (start k)) = none) :
    ∃ j < slots.length, slotAt slots (next^[j] (start k)) = none ∧
      Path next slots k (start k) j (next^[j] (start k)) := by
  classical
  have hspec := Nat.find_spec hfree
  refine ⟨Nat.find hfree, hspec.1, hspec.2, rfl, ?_⟩
  intro i hi
  have hmin := Nat.find_min hfree hi
  cases ha : slotAt slots (next^[i] (start k)) with
  | none => exact absurd ⟨Nat.lt_trans hi hspec.1, ha⟩ hmin
  | some e =>
    refine ⟨e.1, e.2, ha, ?_⟩
    intro he
    exact find_eq_none hw hnone (next^[i] (start k)) e.2 (by rw [ha, ← he])

/-- What an insertion of a new key does: one empty slot of the key's probe sequence is filled. -/
theorem insert_new {start : K → ℕ} (hw : Wf next start slots)
    (hlt : ∀ j, next^[j] (start k) < slots.length)
    (hnone : findFrom next slots k slots.length (start k) = none)
    (hfree : ∃ j < slots.length, slotAt slots (next^[j] (start k)) = none) :
    ∃ h < slots.length, slotAt slots h = none ∧
      insertFrom next slots k v slots.length (start k) = slots.set h (some (k, v)) ∧
      Wf next start (slots.set h (some (k, v))) := by
  have ⟨j, hj, hempty, hp⟩ := exists_first_empty hw hnone hfree
  refine ⟨next^[j] (start k), hlt j, hempty, ?_, ?_⟩
  · have hn : slots.length - j = slots.length - j - 1 + 1 := by omega
    rw [insertFrom_of_path hp (Nat.le_of_lt hj), hn, insertFrom, hempty]
  · intro h' k' v' ha
    rw [List.length_set]
    -- a path of the old table is one of the new table, since only an empty slot is filled
    have hold : ∀ {k₁ i h₁}, Path next slots k₁ (start k₁) i h₁ →
        Path next (slots.set (next^[j] (start k)) (some (k, v))) k₁ (start k₁) i h₁ := by
      intro k₁ i h₁ hp₁
      refine ⟨hp₁.1, fun i' hi' => ?_⟩
      have ⟨k₂, v₂, ha₂, hk₂⟩ := hp₁.2 i' hi'
      refine ⟨k₂, v₂, ?_, hk₂⟩
      rw [at_set (hlt j), if_neg, ha₂]
      intro he
      rw [← he, hempty] at ha₂
      cases ha₂
    rw [at_set (hlt j)] at ha
    split at ha
    · next he =>
      cases ha
      exact ⟨j, hj, he ▸ hold hp⟩
    · have ⟨i, hi, hp'⟩ := hw h' k' v' ha
      exact ⟨i, hi, hold hp'⟩

theorem insert_present {start : K → ℕ} (hw : Wf next start slots) {v' : V}
    (hfound : findFrom next slots k slots.length (start k) = some v') :
    insertFrom next slots k v slots.length (start k) = slots := by
  have ⟨h, hs⟩ := findFrom_mem hfound
  have ⟨j, hj, hp⟩ := hw h k v' hs
  have hn : slots.length - j = slots.length - j - 1 + 1 := by omega
  rw [insertFrom_of_path hp (Nat.le_of_lt hj), hn, insertFrom, hs]
  exact if_pos rfl

/-- After the insertion of a new key the table maps it to its value, and nothing else changed. -/
theorem find_insert_new {start : K → ℕ} (hw : Wf next start slots)
    (hlt : ∀ j, next^[j] (start k) < slots.length)
    (hnone : findFrom next slots k slots.length (start k) = none)
    (hfree : ∃ j < slots.length, slotAt slots (next^[j] (start k)) = none) (k' : K) (v' : V) :
    findFrom next (insertFrom next slots k v slots.length (start k)) k' slots.length (start k') =
        some v' ↔
      (k' = k ∧ v' = v) ∨ findFrom next slots k' slots.length (start k') = some v' := by
  have ⟨h, hh, hempty, hins, hw'⟩ := insert_new (v := v) hw hlt hnone hfree
  rw [hins, find_iff hw]
  have hfind := find_iff (k := k') (v := v') hw'
  rw [List.length_set] at hfind
  rw [hfind]
  constructor
  · intro ⟨h', ha⟩
    rw [at_set hh] at ha
    split at ha
    · cases ha
      exact Or.inl ⟨rfl, rfl⟩
    · exact Or.inr ⟨h', ha⟩
  · intro hor
    rcases hor with ⟨hk, hv⟩ | ⟨h', ha⟩
    · exact ⟨h, by rw [at_set hh, if_pos rfl, hk, hv]⟩
    · refine ⟨h', ?_⟩
      rw [at_set hh, if_neg, ha]
      intro he
      rw [← he, hempty] at ha
      cases ha

theorem iterate_succ_mod {m : ℕ} (h j : ℕ) (hh : h < m) :
    (fun i => (i + 1) % m)^[j] h = (h + j) % m := by
  induction j with
  | zero => rw [Function.iterate_zero_apply, Nat.add_zero, Nat.mod_eq_of_lt hh]
  | succ j ih => rw [Function.iterate_succ_apply', ih, Nat.mod_add_mod, Nat.add_assoc]

theorem exists_probe {m : ℕ} (h i : ℕ) (hh : h < m) (hi : i < m) :
    ∃ j < m, (fun i => (i + 1) % m)^[j] h = i := by
  by_cases hle : h ≤ i
  · refine ⟨i - h, by omega, ?_⟩
    rw [iterate_succ_mod h _ hh, show h + (i - h) = i by omega, Nat.mod_eq_of_lt hi]
  · refine ⟨i + m - h, by omega, ?_⟩
    rw [iterate_succ_mod h _ hh, show h + (i + m - h) = i + m by omega, Nat.add_mod_right,
      Nat.mod_eq_of_lt hi]

end LinearProbing
