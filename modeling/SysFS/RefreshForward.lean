import SysFS.RefreshThrottle

namespace SysFS
open Transition

def RefreshPc.sampled : RefreshPc → Option ℕ
  | .sizing gen | .counting gen _ | .sized gen _ | .walking gen _ _ | .publishing gen _ _ =>
    some gen
  | _ => none

def RefreshPc.built : RefreshPc → Option Snapshot
  | .publishing _ _ newSnap => newSnap
  | _ => none

theorem RefreshPc.pends_of_sampled {pc : RefreshPc} (h : pc.sampled.isSome) : pc.pends := by
  cases pc with
  | sizing | counting | sized | walking | publishing => rfl
  | _ => cases h

theorem RefreshPc.sampled_of_built {pc : RefreshPc} (h : pc.built.isSome) : pc.sampled.isSome := by
  cases pc with
  | publishing => rfl
  | _ => cases h

theorem snapFinish_uptime {inp : BuildInput} {snap snap' : Snapshot}
    (h : snapFinish inp snap = some snap') : snap'.uptime = inp.uptime := by
  rw [snapFinish] at h
  split at h
  · cases h
    rfl
  · split at h
    · cases h
    · cases h
      rfl

theorem snapBuildSized_uptime {cap lastNodeCount : ℕ} {inp : BuildInput} {snap : Snapshot}
    (h : (snapBuildSized cap lastNodeCount inp).1 = some snap) : snap.uptime = inp.uptime := by
  rw [snapBuildSized] at h
  split at h
  · cases h
  · exact snapFinish_uptime h

def NotOlder (s s' : RefreshState) : Prop :=
  ∀ snap, s.snapshot = some snap → ∃ snap', s'.snapshot = some snap' ∧
    s.snapGen ≤ s'.snapGen ∧ snap.uptime ≤ snap'.uptime

theorem NotOlder.refl (s : RefreshState) : NotOlder s s :=
  fun snap hsnap => ⟨snap, hsnap, le_rfl, le_rfl⟩

theorem NotOlder.trans {s s' s'' : RefreshState} (h : NotOlder s s') (h' : NotOlder s' s'') :
    NotOlder s s'' := by
  intro snap hsnap
  obtain ⟨snap', hsnap', hgen, hup⟩ := h snap hsnap
  obtain ⟨snap'', hsnap'', hgen', hup'⟩ := h' snap' hsnap'
  exact ⟨snap'', hsnap'', hgen.trans hgen', hup.trans hup'⟩

/-- What is published is from the past, and a refresh that is executing has sampled and walked
since. -/
structure ForwardInv (s : RefreshState) : Prop where
  published : ∀ snap, s.snapshot = some snap → s.snapGen ≤ s.generation ∧ snap.uptime ≤ s.clock
  sampled : ∀ t gen, (s.threads t).sampled = some gen →
    gen ≤ s.generation ∧ (s.snapshot.isSome → s.snapGen ≤ gen)
  built : ∀ t new, (s.threads t).built = some new →
    new.uptime ≤ s.clock ∧ ∀ snap, s.snapshot = some snap → snap.uptime ≤ new.uptime

namespace ForwardInv
variable {s s' : RefreshState} {t : ℕ} {pc : RefreshPc}

structure PcOk (s : RefreshState) (pc : RefreshPc) : Prop where
  sampled : ∀ gen, pc.sampled = some gen →
    gen ≤ s.generation ∧ (s.snapshot.isSome → s.snapGen ≤ gen)
  built : ∀ new, pc.built = some new →
    new.uptime ≤ s.clock ∧ ∀ snap, s.snapshot = some snap → snap.uptime ≤ new.uptime

theorem pcOk (h : ForwardInv s) (t : ℕ) : PcOk s (s.threads t) := ⟨h.sampled t, h.built t⟩

theorem pcOk_of_none (hs : pc.sampled = none) (hb : pc.built = none) : PcOk s pc := by
  refine ⟨fun gen hgen => ?_, fun new hnew => ?_⟩
  · rw [hs] at hgen
    cases hgen
  · rw [hb] at hnew
    cases hnew

theorem pcOk_goesOn (h : ForwardInv s) {pc' : RefreshPc} (ht : s.threads t = pc')
    (hs : pc.sampled = pc'.sampled) (hb : pc.built = none) : PcOk s pc := by
  refine ⟨fun gen hgen => h.sampled t gen ?_, fun new hnew => ?_⟩
  · rw [ht, ← hs, hgen]
  · rw [hb] at hnew
    cases hnew

theorem later (h : ForwardInv s) (hthreads : s'.threads = s.threads)
    (hsnap : s'.snapshot = s.snapshot) (hgen : s'.snapGen = s.snapGen)
    (hgeneration : s.generation ≤ s'.generation) (hclock : s.clock ≤ s'.clock) :
    ForwardInv s' := by
  refine ⟨?_, ?_, ?_⟩
  · intro snap hs
    rw [hsnap] at hs
    rw [hgen]
    exact ⟨(h.published snap hs).1.trans hgeneration, (h.published snap hs).2.trans hclock⟩
  · intro t gen ht
    rw [hthreads] at ht
    rw [hsnap, hgen]
    exact ⟨(h.sampled t gen ht).1.trans hgeneration, (h.sampled t gen ht).2⟩
  · intro t new ht
    rw [hthreads] at ht
    rw [hsnap]
    exact ⟨(h.built t new ht).1.trans hclock, (h.built t new ht).2⟩

theorem move (h : ForwardInv s) (hthreads : s'.threads = Function.update s.threads t pc)
    (hsnap : s'.snapshot = s.snapshot) (hgen : s'.snapGen = s.snapGen)
    (hgeneration : s'.generation = s.generation) (hclock : s'.clock = s.clock)
    (hpc : PcOk s pc) : ForwardInv s' := by
  have hother : ∀ u, PcOk s (s'.threads u) := by
    intro u
    rw [hthreads]
    by_cases hu : u = t
    · rw [hu, Function.update_self]
      exact hpc
    · rw [Function.update_of_ne hu]
      exact h.pcOk u
  refine ⟨?_, ?_, ?_⟩
  · rw [hsnap, hgen, hgeneration, hclock]
    exact h.published
  · rw [hsnap, hgen, hgeneration]
    exact fun u => (hother u).sampled
  · rw [hsnap, hclock]
    exact fun u => (hother u).built

theorem buildWalked (h : ForwardInv s) {gen cap start : ℕ}
    (ht : s.threads t = .walking gen cap start) (inp : BuildInput) :
    ForwardInv (s.buildWalked t gen cap inp) := by
  -- at the end of the walk the clock is read, after the published snapshot was built
  refine h.move rfl rfl rfl rfl rfl ?_
  refine ⟨fun gen' hgen' => h.sampled t gen' ?_, fun new hnew => ?_⟩
  · rw [ht]
    exact hgen'
  · have huptime : new.uptime = s.clock := snapBuildSized_uptime hnew
    rw [huptime]
    exact ⟨le_rfl, fun snap hsnap => (h.published snap hsnap).2⟩

theorem publish (h : ForwardInv s) (hsingle : SingleInv s) {gen walked : ℕ}
    {newSnap : Option Snapshot} (ht : s.threads t = .publishing gen walked newSnap) :
    ForwardInv (s.publish t gen newSnap) ∧ NotOlder s (s.publish t gen newSnap) := by
  cases newSnap with
  | none =>
    refine ⟨?_, NotOlder.refl s⟩
    exact h.move rfl rfl rfl rfl rfl (pcOk_of_none rfl rfl)
  | some new =>
    obtain ⟨hgen, hold⟩ := h.sampled t gen (by rw [ht]; rfl)
    obtain ⟨hup, hnew⟩ := h.built t new (by rw [ht]; rfl)
    have hno : ∀ u, ((s.publish t gen (some new)).threads u).sampled = none := by
      intro u
      show (Function.update s.threads t _ u).sampled = none
      by_cases hu : u = t
      · rw [hu, Function.update_self]
        rfl
      · rw [Function.update_of_ne hu]
        by_contra hsome
        have hpends := RefreshPc.pends_of_sampled (Option.isSome_iff_ne_none.mpr hsome)
        exact hu (hsingle.unique u t hpends (by rw [ht]; rfl))
    refine ⟨⟨?_, ?_, ?_⟩, ?_⟩
    · rintro snap ⟨⟩
      exact ⟨hgen, hup⟩
    · intro u gen' hu
      rw [hno u] at hu
      cases hu
    · intro u new' hu
      have hsome := RefreshPc.sampled_of_built (Option.isSome_iff_exists.mpr ⟨new', hu⟩)
      rw [hno u] at hsome
      cases hsome
    · intro snap hsnap
      exact ⟨new, rfl, hold (by rw [hsnap]; rfl), hnew snap hsnap⟩

theorem clear (h : ForwardInv s) : ForwardInv s.clear := by
  rw [RefreshState.clear]
  split
  · refine ⟨by rintro snap ⟨⟩, fun t gen ht => ⟨(h.sampled t gen ht).1, by rintro ⟨⟩⟩, ?_⟩
    exact fun t new ht => ⟨(h.built t new ht).1, by rintro snap ⟨⟩⟩
  · exact h.later rfl rfl rfl le_rfl le_rfl

end ForwardInv

section Steps
variable {s s' : RefreshState} {op : RefreshOp}

theorem teardown_step (hs : RefreshStep s op s') :
    (s.teardown = .notStarted → op ≠ .teardown → s'.teardown = .notStarted) ∧
      (s.teardown = .done → s'.teardown = .done) := by
  cases hs with
  | @check t gen =>
    obtain ⟨_, _, pc, heq, -⟩ := s.ensureCheck_eq t gen
    rw [heq]
    exact ⟨fun h _ => h, fun h => h⟩
  | @primeLock t =>
    obtain ⟨_, pc, heq, -⟩ := s.primeCheck_eq t
    rw [heq]
    exact ⟨fun h _ => h, fun h => h⟩
  | @size t gen _ allocated =>
    obtain ⟨pc, heq, -⟩ := s.buildSize_eq t gen allocated
    rw [heq]
    exact ⟨fun h _ => h, fun h => h⟩
  | publish =>
    rw [DrainInv.publish_teardown]
    refine ⟨fun h _ => ?_, fun h => ?_⟩ <;> simp [h]
  | teardown htd =>
    refine ⟨fun _ hne => absurd rfl hne, fun h => ?_⟩
    cases htd.symm.trans h
  | drain htd | freeCall htd | clear htd =>
    refine ⟨fun h => ?_, fun h => ?_⟩
    · cases htd.symm.trans h
    · cases htd.symm.trans h
  | _ => exact ⟨fun h _ => h, fun h => h⟩

theorem notOlder_of_eq (hsnap : s'.snapshot = s.snapshot) (hgen : s'.snapGen = s.snapGen) :
    NotOlder s s' := by
  intro snap hs
  exact ⟨snap, by rw [hsnap, hs], hgen.ge, le_rfl⟩

/-- The invariant goes on, and the snapshot with it unless the teardown is over. -/
def Forward (s s' : RefreshState) : Prop :=
  ForwardInv s' ∧ (NotOlder s s' ∨ s'.teardown = .done)

theorem forward_move (h : ForwardInv s) {t : ℕ} {pc : RefreshPc}
    (hthreads : s'.threads = Function.update s.threads t pc) (hsnap : s'.snapshot = s.snapshot)
    (hgen : s'.snapGen = s.snapGen) (hgeneration : s'.generation = s.generation)
    (hclock : s'.clock = s.clock) (hpc : ForwardInv.PcOk s pc) : Forward s s' :=
  ⟨h.move hthreads hsnap hgen hgeneration hclock hpc, Or.inl (notOlder_of_eq hsnap hgen)⟩

theorem forward_later (h : ForwardInv s) (hthreads : s'.threads = s.threads)
    (hsnap : s'.snapshot = s.snapshot) (hgen : s'.snapGen = s.snapGen)
    (hgeneration : s.generation ≤ s'.generation) (hclock : s.clock ≤ s'.clock) : Forward s s' :=
  ⟨h.later hthreads hsnap hgen hgeneration hclock, Or.inl (notOlder_of_eq hsnap hgen)⟩

theorem forward_step (h : ForwardInv s) (hsingle : SingleInv s) (hs : RefreshStep s op s') :
    Forward s s' := by
  have hout : ∀ {pc : RefreshPc}, pc.sampled = none → pc.built = none → ForwardInv.PcOk s pc :=
    ForwardInv.pcOk_of_none
  cases hs with
  | mutate => exact forward_later h rfl rfl rfl (Nat.le_add_right ..) le_rfl
  | tick => exact forward_later h rfl rfl rfl le_rfl (Nat.le_add_right ..)
  | drain | freeCall => exact forward_later h rfl rfl rfl le_rfl le_rfl
  | ensure | prime | free | enter | start =>
    exact forward_move h rfl rfl rfl rfl rfl (hout rfl rfl)
  | @check t gen =>
    obtain ⟨_, _, pc, heq, hpc⟩ := s.ensureCheck_eq t gen
    rw [heq]
    refine forward_move h rfl rfl rfl rfl rfl ?_
    rcases hpc with rfl | rfl
    · exact hout rfl rfl
    · exact hout rfl rfl
  | @primeLock t =>
    obtain ⟨_, pc, heq, hpc⟩ := s.primeCheck_eq t
    rw [heq]
    refine forward_move h rfl rfl rfl rfl rfl ?_
    rcases hpc with rfl | rfl
    · exact hout rfl rfl
    · exact hout rfl rfl
  | sample ht =>
    -- the generation is read after the published snapshot's
    refine forward_move h rfl rfl rfl rfl rfl ⟨?_, by rintro new ⟨⟩⟩
    rintro gen ⟨⟩
    refine ⟨le_rfl, fun hsome => ?_⟩
    obtain ⟨snap, hsnap⟩ := Option.isSome_iff_exists.mp hsome
    exact (h.published snap hsnap).1
  | @size t gen ht allocated =>
    obtain ⟨pc, heq, hpc⟩ := s.buildSize_eq t gen allocated
    rw [heq]
    refine forward_move h rfl rfl rfl rfl rfl ?_
    rcases hpc with rfl | rfl | rfl
    · exact h.pcOk_goesOn ht rfl rfl
    · exact h.pcOk_goesOn ht rfl rfl
    · exact h.pcOk_goesOn ht rfl rfl
  | count ht | walk ht => exact forward_move h rfl rfl rfl rfl rfl (h.pcOk_goesOn ht rfl rfl)
  | walkEnd ht inp => exact ⟨h.buildWalked ht inp, Or.inl (notOlder_of_eq rfl rfl)⟩
  | publish ht => exact ⟨(h.publish hsingle ht).1, Or.inl (h.publish hsingle ht).2⟩
  | teardown =>
    obtain ⟨_, _, heq⟩ := s.startTeardown_eq
    rw [heq]
    exact forward_later h rfl rfl rfl le_rfl le_rfl
  | clear =>
    refine ⟨h.clear, Or.inr ?_⟩
    rw [RefreshState.clear]
    split
    · rfl
    · rfl

theorem teardown_done_run {ops : List RefreshOp} (hdone : s.teardown = .done)
    (hrun : run refreshStep s ops = some s') : s'.teardown = .done := by
  induction ops generalizing s with
  | nil =>
    cases hrun
    exact hdone
  | cons op ops ih =>
    rw [run, Option.bind_eq_some_iff] at hrun
    obtain ⟨s₁, hstep, hrest⟩ := hrun
    exact ih ((teardown_step (refreshStep_spec hstep)).2 hdone) hrest

theorem forward_run {ops : List RefreshOp} (h : ForwardInv s) (hsingle : SingleInv s)
    (hrun : run refreshStep s ops = some s') : NotOlder s s' ∨ s'.teardown = .done := by
  induction ops generalizing s with
  | nil =>
    cases hrun
    exact Or.inl (NotOlder.refl _)
  | cons op ops ih =>
    rw [run, Option.bind_eq_some_iff] at hrun
    obtain ⟨s₁, hstep, hrest⟩ := hrun
    obtain ⟨h₁, hfirst | hdone⟩ := forward_step h hsingle (refreshStep_spec hstep)
    · exact (ih h₁ (singleInv_step hsingle hstep) hrest).imp_left hfirst.trans
    · exact Or.inr (teardown_done_run hdone hrest)

theorem forwardInv_init (lock refreshCall : Bool) (registry : List RegEntry) :
    ForwardInv (.init lock refreshCall registry) :=
  ⟨by rintro snap ⟨⟩, by rintro t gen ⟨⟩, by rintro t new ⟨⟩⟩

theorem forwardInv_reached {lock refreshCall : Bool} {registry : List RegEntry}
    {labels : List RefreshOp}
    (h : Reached refreshStep (.init lock refreshCall registry) labels s) : ForwardInv s := by
  have hboth : ForwardInv s ∧ SingleInv s := by
    refine invariant_along (P := fun s => ForwardInv s ∧ SingleInv s) ?_ ?_ h
    · exact ⟨forwardInv_init .., singleInv_init ..⟩
    · rintro s op s' hstep ⟨hinv, hsingle⟩
      have hs := hstep.step_eq
      exact ⟨(forward_step hinv hsingle (refreshStep_spec hs)).1, singleInv_step hsingle hs⟩
  exact hboth.1

end Steps

/-- What a step can do to the published snapshot and its generation. -/
inductive SnapshotStep (s : RefreshState) : RefreshOp → RefreshState → Prop where
  | kept {op : RefreshOp} {s' : RefreshState} (hsnap : s'.snapshot = s.snapshot)
      (hgen : s'.snapGen = s.snapGen) : SnapshotStep s op s'
  | published {t gen walked : ℕ} {new : Snapshot} {s' : RefreshState}
      (ht : s.threads t = .publishing gen walked (some new)) (hsnap : s'.snapshot = some new)
      (hgen : s'.snapGen = gen) : SnapshotStep s (.publish t) s'
  | cleared {s' : RefreshState} (hsnap : s'.snapshot = none) : SnapshotStep s .clear s'

theorem snapshotStep {s s' : RefreshState} {op : RefreshOp} (hs : RefreshStep s op s') :
    SnapshotStep s op s' := by
  cases buildEffect_step hs with
  | same h | scheduled _ _ h | primed _ h | failed h => exact .kept h.snapshot h.snapGen
  | published hop ht hgen _ hsnap =>
    rw [hop]
    exact .published ht hsnap hgen
  | cleared hop hsnap =>
    rw [hop]
    exact .cleared hsnap

/-- From every state that is reached, by any further steps: a snapshot that is published is
still there or replaced by one that is not older, until the end of the teardown, and nothing but
the publication of a snapshot that was built and the end of the teardown changes it. -/
theorem snapshots_in_order {lock refreshCall : Bool} {registry : List RegEntry}
    {labels rest : List RefreshOp} {s s' : RefreshState}
    (h : Reached refreshStep (.init lock refreshCall registry) labels s)
    (hrun : run refreshStep s rest = some s') :
    (s'.teardown ≠ .done → ∀ snap, s.snapshot = some snap → ∃ snap', s'.snapshot = some snap' ∧
      s.snapGen ≤ s'.snapGen ∧ snap.uptime ≤ snap'.uptime) ∧
    ∀ s₁ op s₂, StepTaken refreshStep s rest s₁ op s₂ → SnapshotStep s₁ op s₂ := by
  have hforward := forward_run (forwardInv_reached h) (singleInv_reached h) hrun
  refine ⟨fun hup => hforward.resolve_right hup, fun s₁ op s₂ hstep => ?_⟩
  exact snapshotStep (refreshStep_spec hstep.step_eq)

/-- The steps of a refresh on thread `t` that finds an empty registry. -/
def emptyRefresh (t : ℕ) (counts : List RefreshOp) : List RefreshOp :=
  List.flatten [[.sample t, .size t true], counts,
    [.walk t, .walkEnd t { yields := some [], kexts := none, uptime := 0 }, .publish t, .free t]]

def primedEmpty : List RefreshOp :=
  [.prime 0, .primeLock 0] ++ emptyRefresh 0 [.count 0 (some [])]

/-- The registry changes, and half a minute later a refresh is scheduled that gets no memory,
and then one that builds another snapshot. -/
def rebuiltLater : List RefreshOp :=
  let scheduled : List RefreshOp := [.ensure 1, .check 1, .enter 1, .start 2]
  List.flatten [[.mutate [], .tick sysfsSnapMinRebuildNs], scheduled,
    [.sample 2, .size 2 false, .publish 2, .free 2], scheduled, emptyRefresh 2 []]

/-- The snapshot that replaces the first one is of the later generation. -/
theorem rebuilt_in_order :
    ∃ s s', run refreshStep (.init true true []) primedEmpty = some s ∧
      run refreshStep s rebuiltLater = some s' ∧ s.snapshot.isSome ∧ s'.snapGen = 1 ∧
      (∀ snap, s.snapshot = some snap → ∃ snap', s'.snapshot = some snap' ∧
        s.snapGen ≤ s'.snapGen ∧ snap.uptime ≤ snap'.uptime) ∧
      ∀ s₁ op s₂, StepTaken refreshStep s rebuiltLater s₁ op s₂ → SnapshotStep s₁ op s₂ := by
  have hrun : (run refreshStep (.init true true []) primedEmpty).any (fun s =>
      s.snapshot.isSome ∧ (run refreshStep s rebuiltLater).any fun s' =>
        s'.teardown = .notStarted ∧ s'.snapGen = 1) := by
    decide +kernel
  obtain ⟨s, hs, hok⟩ := (Option.any_eq_true _ _).mp hrun
  obtain ⟨hsome, hrest⟩ := of_decide_eq_true hok
  obtain ⟨s', hs', hend⟩ := (Option.any_eq_true _ _).mp hrest
  obtain ⟨htd, hgen⟩ := of_decide_eq_true hend
  obtain ⟨hnext, hsteps⟩ := snapshots_in_order (reached_of_run hs) hs'
  exact ⟨s, s', hs, hs', hsome, hgen, hnext (by rw [htd]; simp), hsteps⟩

end SysFS
