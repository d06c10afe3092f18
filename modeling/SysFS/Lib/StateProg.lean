import Mathlib

namespace StateProg

variable {σ τ : Type} {α β α' β' ι : Type}

/-- From a state with `P`, the run ends with a value and a state in `Q`. -/
structure Triple (P : σ → Prop) (m : StateM σ α) (Q : α → σ → Prop) : Prop where
  run : ∀ s, P s → Q (m s).1 (m s).2

theorem Triple.bind {P : σ → Prop} {Q : α → σ → Prop} {R : β → σ → Prop} {m : StateM σ α}
    {f : α → StateM σ β} (hm : Triple P m Q) (hf : ∀ a, Triple (Q a) (f a) R) :
    Triple P (m >>= f) R := ⟨fun s hs => (hf _).run _ (hm.run s hs)⟩

theorem Triple.pure {P : σ → Prop} (a : α) : Triple P (Pure.pure a : StateM σ α) fun _ => P :=
  ⟨fun _ hs => hs⟩

theorem Triple.forM {P : σ → Prop} {f : ι → StateM σ PUnit} (l : List ι)
    (h : ∀ i ∈ l, Triple P (f i) fun _ => P) : Triple P (l.forM f) fun _ => P := by
  induction l with
  | nil => exact Triple.pure _
  | cons i l ih =>
    have htail := ih fun j hj => h j (List.mem_cons_of_mem _ hj)
    exact Triple.bind (h i List.mem_cons_self) fun _ => htail

/-- From related states the two runs end in related states, with values in `Q`. -/
structure Sim (R : σ → τ → Prop) (m : StateM σ α) (m' : StateM τ α') (Q : α → α' → Prop) :
    Prop where
  run : ∀ s t, R s t → R (m s).2 (m' t).2 ∧ Q (m s).1 (m' t).1

theorem Sim.bind {R : σ → τ → Prop} {m : StateM σ α} {m' : StateM τ α'} {Q : α → α' → Prop}
    {f : α → StateM σ β} {f' : α' → StateM τ β'} {Q' : β → β' → Prop} (hm : Sim R m m' Q)
    (hf : ∀ a a', Q a a' → Sim R (f a) (f' a') Q') : Sim R (m >>= f) (m' >>= f') Q' := by
  constructor
  intro s t h
  obtain ⟨h₁, hq⟩ := hm.run s t h
  exact (hf _ _ hq).run _ _ h₁

theorem Sim.pure {R : σ → τ → Prop} {Q : α → α' → Prop} {a : α} {a' : α'} (h : Q a a') :
    Sim R (Pure.pure a : StateM σ α) (Pure.pure a' : StateM τ α') Q :=
  ⟨fun _ _ hs => ⟨hs, h⟩⟩

theorem Sim.forM {R : σ → τ → Prop} {f : ι → StateM σ PUnit} {f' : ι → StateM τ PUnit}
    (l : List ι) (h : ∀ i ∈ l, Sim R (f i) (f' i) fun _ _ => True) :
    Sim R (l.forM f) (l.forM f') fun _ _ => True := by
  induction l with
  | nil => exact Sim.pure trivial
  | cons i l ih =>
    have htail := ih fun j hj => h j (List.mem_cons_of_mem _ hj)
    exact Sim.bind (h i List.mem_cons_self) fun _ _ _ => htail

theorem forM_concat (f : ι → StateM σ PUnit) (l : List ι) (i : ι) (s : σ) :
    (l ++ [i]).forM f s = f i (l.forM f s).2 := by
  induction l generalizing s with
  | nil => rfl
  | cons j l ih => exact ih (f j s).2

/-- From a state with `P` there is no fault, and the run ends in `Q`. -/
structure Returns (P : σ → Prop) (m : StateT σ Option α) (Q : α → σ → Prop) : Prop where
  run : ∀ s, P s → ∃ a s', m s = some (a, s') ∧ Q a s'

theorem Returns.bind {P : σ → Prop} {Q : α → σ → Prop} {R : β → σ → Prop}
    {m : StateT σ Option α} {f : α → StateT σ Option β} (hm : Returns P m Q)
    (hf : ∀ a, Returns (Q a) (f a) R) : Returns P (m >>= f) R := by
  constructor
  intro s hs
  have ⟨a, s₁, hrun, ha⟩ := hm.run s hs
  have ⟨b, s₂, hrun', hb⟩ := (hf a).run s₁ ha
  refine ⟨b, s₂, ?_, hb⟩
  show ((m s).bind fun p => f p.1 p.2) = _
  rw [hrun, Option.bind_some, hrun']

theorem Returns.pure {P : σ → Prop} {Q : α → σ → Prop} {a : α} (h : ∀ s, P s → Q a s) :
    Returns P (Pure.pure a : StateT σ Option α) Q :=
  ⟨fun s hs => ⟨a, s, rfl, h s hs⟩⟩

theorem Returns.before {P P' : σ → Prop} {m : StateT σ Option α} {Q : α → σ → Prop}
    (hm : Returns P m Q) (h : ∀ s, P' s → P s) : Returns P' m Q :=
  ⟨fun s hs => hm.run s (h s hs)⟩

theorem Returns.after {P : σ → Prop} {m : StateT σ Option α} {Q Q' : α → σ → Prop}
    (hm : Returns P m Q) (h : ∀ a s, Q a s → Q' a s) : Returns P m Q' := by
  constructor
  intro s hs
  have ⟨a, s', hrun, ha⟩ := hm.run s hs
  exact ⟨a, s', hrun, h a s' ha⟩

theorem Returns.assume {p : Prop} {P : σ → Prop} {m : StateT σ Option α} {Q : α → σ → Prop}
    (h : p → Returns P m Q) : Returns (fun s => p ∧ P s) m Q :=
  ⟨fun s hs => (h hs.1).run s hs.2⟩

end StateProg
