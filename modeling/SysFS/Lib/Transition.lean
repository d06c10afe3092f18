import Mathlib

namespace Transition

variable {σ ι : Type} (step : σ → ι → Option σ)

def run : σ → List ι → Option σ
  | s, [] => some s
  | s, i :: labels => (step s i).bind fun s' => run s' labels

/-- The state `s` is met along the run of `labels` from `s₀`. -/
def Reached (s₀ : σ) (labels : List ι) (s : σ) : Prop :=
  ∃ k, run step s₀ (labels.take k) = some s

/-- The step from `s` to `s'` with label `i` is taken along the run. -/
def StepTaken (s₀ : σ) (labels : List ι) (s : σ) (i : ι) (s' : σ) : Prop :=
  ∃ k, run step s₀ (labels.take k) = some s ∧ labels[k]? = some i ∧ step s i = some s'

variable {step} {s₀ : σ} {labels : List ι}

theorem run_concat (s : σ) (labels : List ι) (i : ι) :
    run step s (labels ++ [i]) = (run step s labels).bind fun s' => step s' i := by
  induction labels generalizing s with
  | nil => simp [run]
  | cons j labels ih =>
    simp only [List.cons_append, run]
    cases step s j with
    | none => rfl
    | some s' => exact ih s'

theorem StepTaken.step_eq {s s' : σ} {i : ι} (h : StepTaken step s₀ labels s i s') :
    step s i = some s' := by
  have ⟨_, _, _, hs⟩ := h
  exact hs

theorem StepTaken.reached {s s' : σ} {i : ι} (h : StepTaken step s₀ labels s i s') :
    Reached step s₀ labels s := by
  obtain ⟨k, hk, -⟩ := h
  exact ⟨k, hk⟩

theorem StepTaken.reached_next {s s' : σ} {i : ι} (h : StepTaken step s₀ labels s i s') :
    Reached step s₀ labels s' := by
  obtain ⟨k, hk, hi, hs⟩ := h
  refine ⟨k + 1, ?_⟩
  rw [List.take_add_one, hi, Option.toList_some, run_concat, hk]
  exact hs

theorem reached_of_run {s : σ} (h : run step s₀ labels = some s) : Reached step s₀ labels s :=
  ⟨labels.length, by rw [List.take_length, h]⟩

theorem StepTaken.mem {s s' : σ} {i : ι} (h : StepTaken step s₀ labels s i s') : i ∈ labels := by
  obtain ⟨_, _, hi, -⟩ := h
  exact List.mem_of_getElem? hi

theorem StepTaken.of_concat {s s' : σ} {i j : ι} (h : StepTaken step s₀ (labels ++ [i]) s j s') :
    StepTaken step s₀ labels s j s' ∨ run step s₀ labels = some s ∧ j = i := by
  obtain ⟨k, hk, hj, hs⟩ := h
  by_cases hlt : k < labels.length
  · left
    rw [List.take_append_of_le_length hlt.le] at hk
    rw [List.getElem?_append_left hlt] at hj
    exact ⟨k, hk, hj, hs⟩
  · right
    have hkl : k = labels.length := by
      have hlen := (List.getElem?_eq_some_iff.mp hj).1
      rw [List.length_append, List.length_singleton] at hlen
      omega
    rw [hkl, List.take_left'] at hk
    · rw [hkl, List.getElem?_concat_length] at hj
      exact ⟨hk, (Option.some_inj.mp hj).symm⟩
    · rfl

def checkRun (step : σ → ι → Option σ) (ok : σ → ι → Bool) : σ → List ι → Bool
  | _, [] => true
  | s, i :: labels =>
    ok s i &&
      match step s i with
      | none => true
      | some s' => checkRun step ok s' labels

theorem ok_of_checkRun {ok : σ → ι → Bool} {s s' : σ} {i : ι} (hc : checkRun step ok s₀ labels)
    (h : StepTaken step s₀ labels s i s') : ok s i := by
  obtain ⟨k, hrun, hi, -⟩ := h
  induction k generalizing s₀ labels with
  | zero =>
    cases labels with
    | nil => cases hi
    | cons j labels =>
      rw [checkRun, Bool.and_eq_true] at hc
      cases hrun
      cases hi
      exact hc.1
  | succ k ih =>
    cases labels with
    | nil => cases hi
    | cons j labels =>
      rw [checkRun, Bool.and_eq_true] at hc
      rw [List.take_succ_cons, run, Option.bind_eq_some_iff] at hrun
      have ⟨s₁, hs₁, hrun₁⟩ := hrun
      have hc₁ := hc.2
      rw [hs₁] at hc₁
      exact ih hc₁ hrun₁ hi

/-- What holds at the start and is kept by every step taken holds all along the run. -/
theorem invariant_along {P : σ → Prop} (h₀ : P s₀)
    (hstep : ∀ s i s', StepTaken step s₀ labels s i s' → P s → P s') {s : σ}
    (h : Reached step s₀ labels s) : P s := by
  obtain ⟨k, hk⟩ := h
  induction k generalizing s with
  | zero =>
    rw [List.take_zero, run, Option.some_inj] at hk
    exact hk ▸ h₀
  | succ k ih =>
    rw [List.take_add_one] at hk
    cases hi : labels[k]? with
    | none =>
      rw [hi, Option.toList_none, List.append_nil] at hk
      exact ih hk
    | some i =>
      rw [hi, Option.toList_some, run_concat, Option.bind_eq_some_iff] at hk
      obtain ⟨s', hs', hs⟩ := hk
      exact hstep s' i s ⟨k, hs', hi, hs⟩ (ih hs')

def total (step : σ → ι → Option σ) (cost : σ → ι → ℕ) : σ → List ι → ℕ
  | _, [] => 0
  | s, i :: labels =>
    cost s i +
      match step s i with
      | none => 0
      | some s' => total step cost s' labels

/-- A rank that every step lowers, up to a cost, bounds the length of a run. -/
theorem length_add_rank_le {P : σ → Prop} {allowed : ι → Prop} {rank : σ → ℕ} {cost : σ → ι → ℕ}
    (hstep : ∀ s i s', P s → allowed i → step s i = some s' →
      P s' ∧ rank s' + 1 ≤ rank s + cost s i) {s s' : σ} (h : P s)
    (hall : ∀ i ∈ labels, allowed i) (hrun : run step s labels = some s') :
    labels.length + rank s' ≤ rank s + total step cost s labels := by
  induction labels generalizing s with
  | nil =>
    cases hrun
    simp [total]
  | cons i labels ih =>
    rw [run, Option.bind_eq_some_iff] at hrun
    obtain ⟨s₁, hs₁, hrest⟩ := hrun
    obtain ⟨h₁, hrank⟩ := hstep s i s₁ h (hall i List.mem_cons_self) hs₁
    have hle := ih h₁ (fun j hj => hall j (List.mem_cons_of_mem i hj)) hrest
    have htotal : total step cost s (i :: labels) = cost s i + total step cost s₁ labels := by
      rw [total, hs₁]
    rw [htotal, List.length_cons]
    omega

end Transition
