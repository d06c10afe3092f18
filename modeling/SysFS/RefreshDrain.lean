import SysFS.Refresh

namespace SysFS
open Transition

namespace RefreshPc

/-- In `sysfs_snap_ensure`. -/
def inEnsure : RefreshPc → Bool
  | ensureSampled _ | ensureEnter => true
  | _ => false

/-- In `sysfs_snap_refresh` and not yet past its section under the lock. -/
def refreshing : RefreshPc → Bool
  | refresh | sizing _ | counting _ _ | sized _ _ | walking _ _ _ | publishing _ _ _ => true
  | _ => false

def pends (pc : RefreshPc) : Bool :=
  pc.refreshing || (match pc with | ensureEnter => true | _ => false)

end RefreshPc

def Remaining (s : RefreshState) : Prop := s.queued ∨ ∃ t, (s.threads t).pends

/-- The steps of one refresh, on thread `t` and enqueued by thread `u`, with the answers it
gets from outside. -/
def refreshOps (t u : ℕ) (allocated : Bool) (counted : Option (List RegEntry))
    (inp : BuildInput) : List RefreshOp :=
  [.enter u, .start t, .sample t, .size t allocated, .count t counted, .walk t, .walkEnd t inp,
    .publish t]

/-- Whatever answers it gets, a refresh can clear `g_building` by its own steps. -/
def CanClear (s : RefreshState) : Prop :=
  ∀ allocated counted inp, ∃ t u ops s', ops ⊆ refreshOps t u allocated counted inp ∧
    run refreshStep s ops = some s' ∧ s'.building = false

/-- While `g_building` is set a refresh remains that clears it, and a teardown that sleeps
on it has one to wake it. -/
def Drains (s : RefreshState) : Prop :=
  (s.building → Remaining s ∧ CanClear s) ∧
    (s.teardown = .asleep → s.building ∧ Remaining s)

structure DrainInv (s : RefreshState) : Prop where
  locked : s.building → s.lock
  remaining : s.building → Remaining s
  asleep : s.teardown = .asleep → s.building
  finite : ∃ n, ∀ t ≥ n, s.threads t = .idle
  ensures : s.teardown ≠ .notStarted → ∀ t, (s.threads t).inEnsure = false
  enters : ∀ t, s.threads t = .ensureEnter → s.refreshCall

/-- Thread `t` goes on to `pc`, and neither the locks nor the teardown change. -/
structure Moves (s s' : RefreshState) (t : ℕ) (pc : RefreshPc) : Prop where
  threads : s'.threads = Function.update s.threads t pc
  lock : s'.lock = s.lock
  refreshCall : s'.refreshCall = s.refreshCall
  teardown : s'.teardown = s.teardown

theorem moves_setPc (s : RefreshState) (t : ℕ) (pc : RefreshPc) : Moves s (s.setPc t pc) t pc :=
  ⟨rfl, rfl, rfl, rfl⟩

namespace DrainInv

variable {s s' : RefreshState} {t : ℕ} {pc : RefreshPc}

theorem finite_update (h : DrainInv s) (t : ℕ) (pc : RefreshPc) :
    ∃ n, ∀ u ≥ n, Function.update s.threads t pc u = .idle := by
  have ⟨n, hn⟩ := h.finite
  refine ⟨max n (t + 1), fun u hu => ?_⟩
  rw [Function.update_of_ne (by omega)]
  exact hn u (by omega)

theorem move (h : DrainInv s) (hm : Moves s s' t pc)
    (hbuild : s'.building → s.building ∨ pc.pends ∧ s.lock)
    (hkept : s.building → s'.building)
    (hpends : (s.threads t).pends → pc.pends ∨ s'.queued)
    (hqueued : s.queued → pc.pends ∨ s'.queued)
    (hensure : pc.inEnsure → s.teardown = .notStarted)
    (henter : pc = .ensureEnter → s.refreshCall) : DrainInv s' where
  locked hb := by
    rw [hm.lock]
    rcases hbuild hb with hb | hb
    · exact h.locked hb
    · exact hb.2
  remaining hb := by
    have hpc : pc.pends → Remaining s' := fun hp =>
      Or.inr ⟨t, by rw [hm.threads, Function.update_self]; exact hp⟩
    rcases hbuild hb with hb | hb
    · rcases h.remaining hb with hq | ⟨u, hu⟩
      · exact (hqueued hq).elim hpc Or.inl
      · by_cases htu : u = t
        · exact (hpends (htu ▸ hu)).elim hpc Or.inl
        · exact Or.inr ⟨u, by rw [hm.threads, Function.update_of_ne htu]; exact hu⟩
    · exact hpc hb.1
  asleep ht := hkept (h.asleep (hm.teardown ▸ ht))
  finite := hm.threads ▸ h.finite_update t pc
  ensures ht u := by
    rw [hm.teardown] at ht
    rw [hm.threads]
    by_cases htu : u = t
    · rw [htu, Function.update_self]
      cases hpc : pc.inEnsure with
      | false => rfl
      | true => exact absurd (hensure hpc) ht
    · rw [Function.update_of_ne htu]
      exact h.ensures ht u
  enters u hu := by
    rw [hm.threads] at hu
    rw [hm.refreshCall]
    by_cases htu : u = t
    · rw [htu, Function.update_self] at hu
      exact henter hu
    · rw [Function.update_of_ne htu] at hu
      exact h.enters u hu

theorem setPc (h : DrainInv s) (hpends : (s.threads t).pends → pc.pends)
    (hensure : pc.inEnsure → s.teardown = .notStarted)
    (henter : pc = .ensureEnter → s.refreshCall) : DrainInv (s.setPc t pc) :=
  h.move (moves_setPc s t pc) Or.inl id (fun hp => Or.inl (hpends hp)) Or.inr hensure henter

theorem ensureCheck {gen : ℕ} (h : DrainInv s) (ht : s.threads t = .ensureSampled gen)
    (hlock : s.lock) : DrainInv (s.ensureCheck t gen) := by
  have hidle : DrainInv (s.setPc t .idle) := h.setPc (by rw [ht]; nofun) nofun nofun
  have hstart : s.teardown = .notStarted := by
    by_contra hne
    have := h.ensures hne t
    rw [ht] at this
    cases this
  rw [RefreshState.ensureCheck]
  split
  · exact hidle
  · split
    · exact hidle
    · split
      · next hfree =>
        simp only [Bool.and_eq_true] at hfree
        refine h.move ⟨rfl, rfl, rfl, rfl⟩ (fun _ => Or.inr ⟨rfl, hlock⟩) (fun _ => rfl)
          (fun _ => Or.inl rfl) (fun _ => Or.inl rfl) (fun _ => hstart) (fun _ => hfree.2)
      · exact hidle

theorem primeCheck (h : DrainInv s) (ht : s.threads t = .primeLock) (hlock : s.lock) :
    DrainInv (s.primeCheck t) := by
  rw [RefreshState.primeCheck]
  split
  · exact h.setPc (by rw [ht]; rintro ⟨⟩) (by rintro ⟨⟩) (by simp)
  · exact h.move ⟨rfl, rfl, rfl, rfl⟩ (fun _ => Or.inr ⟨rfl, hlock⟩) (fun _ => rfl)
      (fun _ => Or.inl rfl) (fun _ => Or.inl rfl) (by rintro ⟨⟩) (by simp)

theorem buildSize {gen : ℕ} (h : DrainInv s) (allocated : Bool) :
    DrainInv (s.buildSize t gen allocated) := by
  rw [RefreshState.buildSize]
  split
  · exact h.setPc (fun _ => rfl) (by rintro ⟨⟩) (by simp)
  · split
    · exact h.setPc (fun _ => rfl) (by rintro ⟨⟩) (by simp)
    · exact h.setPc (fun _ => rfl) (by rintro ⟨⟩) (by simp)

theorem buildWalked {gen cap : ℕ} (h : DrainInv s) (inp : BuildInput) :
    DrainInv (s.buildWalked t gen cap inp) :=
  h.move ⟨rfl, rfl, rfl, rfl⟩ Or.inl id (fun _ => Or.inl rfl) (fun _ => Or.inl rfl) nofun nofun

theorem publish_teardown (s : RefreshState) (t gen : ℕ) (newSnap : Option Snapshot) :
    (s.publish t gen newSnap).teardown =
      if s.teardown = .asleep then .draining else s.teardown := by
  cases newSnap <;> rfl

theorem publish_building (s : RefreshState) (t gen : ℕ) (newSnap : Option Snapshot) :
    (s.publish t gen newSnap).building = false := by
  cases newSnap <;> rfl

theorem publish {gen : ℕ} (h : DrainInv s) (newSnap : Option Snapshot) :
    DrainInv (s.publish t gen newSnap) := by
  have ⟨old, hthreads⟩ := s.publish_threads t gen newSnap
  have htd := publish_teardown s t gen newSnap
  have hb := publish_building s t gen newSnap
  have hcall : (s.publish t gen newSnap).refreshCall = s.refreshCall := by
    cases newSnap <;> rfl
  refine ⟨?_, ?_, ?_, ?_, ?_, ?_⟩
  · rw [hb]
    nofun
  · rw [hb]
    nofun
  · rw [htd]
    intro hasleep
    split at hasleep
    · cases hasleep
    · next hne => exact absurd hasleep hne
  · rw [hthreads]
    exact h.finite_update t _
  · intro ht u
    have hne : s.teardown ≠ .notStarted := by
      intro hns
      rw [htd, hns] at ht
      exact ht rfl
    rw [hthreads]
    by_cases htu : u = t
    · rw [htu, Function.update_self]
      rfl
    · rw [Function.update_of_ne htu]
      exact h.ensures hne u
  · intro u hu
    rw [hthreads] at hu
    rw [hcall]
    by_cases htu : u = t
    · rw [htu, Function.update_self] at hu
      cases hu
    · rw [Function.update_of_ne htu] at hu
      exact h.enters u hu

theorem startTeardown (h : DrainInv s)
    (hvnops : ∀ t, (s.threads t).inEnsure = false) (hq : s.refreshCall → s.queued = false) :
    DrainInv s.startTeardown := by
  have hnb : s.startTeardown.teardown ≠ .asleep := by
    rw [RefreshState.startTeardown]
    split
    · show (if s.lock then TeardownPc.draining else .freeingCall) ≠ .asleep
      split <;> simp
    · simp
  have hsame : s.startTeardown.building = s.building ∧ s.startTeardown.lock = s.lock ∧
      s.startTeardown.threads = s.threads ∧ s.startTeardown.refreshCall = s.refreshCall := by
    rw [RefreshState.startTeardown]
    split <;> exact ⟨rfl, rfl, rfl, rfl⟩
  obtain ⟨hb, hl, ht, hc⟩ := hsame
  refine ⟨?_, ?_, fun ha => absurd ha hnb, ht ▸ h.finite, fun _ => ht ▸ hvnops, ?_⟩
  · rw [hb, hl]
    exact h.locked
  · rw [hb]
    intro hbuild
    rcases h.remaining hbuild with hq' | hp
    · rw [RefreshState.startTeardown]
      split
      · next hcall =>
        rw [hq hcall] at hq'
        cases hq'
      · exact Or.inl hq'
    · exact Or.inr (ht ▸ hp)
  · rw [ht, hc]
    exact h.enters

theorem drain (h : DrainInv s) (htd : s.teardown = .draining) :
    DrainInv { s with teardown := if s.building then .asleep else .freeingCall } where
  locked := h.locked
  remaining := h.remaining
  asleep ha := by
    change (if s.building then TeardownPc.asleep else .freeingCall) = .asleep at ha
    split at ha
    · next hb => exact hb
    · cases ha
  finite := h.finite
  ensures _ := h.ensures (by rw [htd]; nofun)
  enters := h.enters

theorem freeCall (h : DrainInv s) (htd : s.teardown = .freeingCall) :
    DrainInv { s with refreshCall := false, teardown := .clearing } where
  locked := h.locked
  remaining := h.remaining
  asleep := nofun
  finite := h.finite
  ensures _ := h.ensures (by rw [htd]; nofun)
  enters t ht := by
    have hne : s.teardown ≠ .notStarted := by rw [htd]; nofun
    have hin := h.ensures hne t
    rw [show s.threads t = .ensureEnter from ht] at hin
    cases hin

theorem clear (h : DrainInv s) (htd : s.teardown = .clearing) : DrainInv s.clear := by
  have hens := h.ensures (by rw [htd]; simp)
  rw [RefreshState.clear]
  split
  · exact ⟨by simp, by simp, by simp, h.finite, fun _ => hens, h.enters⟩
  · exact ⟨h.locked, h.remaining, by simp, h.finite, fun _ => hens, h.enters⟩

end DrainInv

/-- Every step keeps the invariant, if a teardown starts without vnode operations and with
no run queued. -/
theorem drainInv_step {s s' : RefreshState} {op : RefreshOp} (h : DrainInv s)
    (hvnops : op = .teardown → ∀ t, (s.threads t).inEnsure = false)
    (hqueued : op = .teardown → s.refreshCall → s.queued = false)
    (hs : refreshStep s op = some s') :
    DrainInv s' := by
  cases refreshStep_spec hs with
  | mutate | tick => exact ⟨h.locked, h.remaining, h.asleep, h.finite, h.ensures, h.enters⟩
  | ensure ht _ hstart => exact h.setPc (by rw [ht]; nofun) (fun _ => hstart) nofun
  | check ht hlock => exact h.ensureCheck ht hlock
  | enter ht _ =>
    exact h.move ⟨rfl, rfl, rfl, rfl⟩ Or.inl id (fun _ => Or.inr rfl) (fun _ => Or.inr rfl)
      nofun nofun
  | start ht _ =>
    exact h.move ⟨rfl, rfl, rfl, rfl⟩ Or.inl id (fun _ => Or.inl rfl) (fun _ => Or.inl rfl)
      nofun nofun
  | prime ht _ => exact h.setPc (by rw [ht]; nofun) nofun nofun
  | primeLock ht hlock => exact h.primeCheck ht hlock
  | sample | count | walk => exact h.setPc (fun _ => rfl) nofun nofun
  | size ht allocated => exact h.buildSize allocated
  | walkEnd ht inp => exact h.buildWalked inp
  | publish => exact h.publish _
  | free ht => exact h.setPc (by rw [ht]; nofun) nofun nofun
  | teardown => exact h.startTeardown (hvnops rfl) (hqueued rfl)
  | drain htd => exact h.drain htd
  | freeCall htd => exact h.freeCall htd
  | clear htd => exact h.clear htd

theorem drainInv_init (lock refreshCall : Bool) (registry : List RegEntry) :
    DrainInv (.init lock refreshCall registry) :=
  ⟨nofun, nofun, nofun, ⟨0, fun _ _ => rfl⟩, fun h => absurd rfl h, nofun⟩

section CanClear

variable {t u : ℕ} {allocated : Bool} {counted : Option (List RegEntry)} {inp : BuildInput}

/-- From `s` the remaining steps of the refresh clear `g_building`. -/
def Clears (t u : ℕ) (allocated : Bool) (counted : Option (List RegEntry)) (inp : BuildInput)
    (s : RefreshState) : Prop :=
  ∃ ops s', ops ⊆ refreshOps t u allocated counted inp ∧ run refreshStep s ops = some s' ∧
    s'.building = false

theorem Clears.step {s : RefreshState} (op : RefreshOp) (s₁ : RefreshState)
    (hop : op ∈ refreshOps t u allocated counted inp) (hs : refreshStep s op = some s₁)
    (h : Clears t u allocated counted inp s₁) : Clears t u allocated counted inp s := by
  have ⟨ops, s', hsub, hrun, hb⟩ := h
  refine ⟨op :: ops, s', List.cons_subset.mpr ⟨hop, hsub⟩, ?_, hb⟩
  rw [run, hs]
  exact hrun

theorem clears_publishing {s : RefreshState} {gen walked : ℕ} {newSnap : Option Snapshot}
    (ht : s.threads t = .publishing gen walked newSnap) (hlock : s.lock) :
    Clears t u allocated counted inp s := by
  refine ⟨[.publish t], s.publish t gen newSnap, by simp [refreshOps], ?_,
    DrainInv.publish_building s t gen newSnap⟩
  simp [run, refreshStep, ht, hlock]

theorem clears_walking {s : RefreshState} {gen cap start : ℕ}
    (ht : s.threads t = .walking gen cap start) (hlock : s.lock) :
    Clears t u allocated counted inp s := by
  apply Clears.step (.walkEnd t inp) (s.buildWalked t gen cap inp)
  · simp [refreshOps]
  · simp [refreshStep, ht]
  · exact clears_publishing (Function.update_self t _ _) hlock

theorem clears_sized {s : RefreshState} {gen cap : ℕ}
    (ht : s.threads t = .sized gen cap) (hlock : s.lock) :
    Clears t u allocated counted inp s := by
  apply Clears.step (.walk t) (s.setPc t (.walking gen cap s.generation))
  · simp [refreshOps]
  · simp [refreshStep, ht]
  · exact clears_walking (Function.update_self t _ _) hlock

theorem clears_counting {s : RefreshState} {gen start : ℕ}
    (ht : s.threads t = .counting gen start) (hlock : s.lock) :
    Clears t u allocated counted inp s := by
  apply Clears.step (.count t counted)
    (s.setPc t (.sized gen (buildCap (sysfsCountEntries counted))))
  · simp [refreshOps]
  · simp [refreshStep, ht]
  · exact clears_sized (Function.update_self t _ _) hlock

theorem clears_sizing {s : RefreshState} {gen : ℕ}
    (ht : s.threads t = .sizing gen) (hlock : s.lock) :
    Clears t u allocated counted inp s := by
  apply Clears.step (.size t allocated) (s.buildSize t gen allocated)
  · simp [refreshOps]
  · simp [refreshStep, ht]
  · rw [RefreshState.buildSize]
    split
    · exact clears_publishing (Function.update_self t _ _) hlock
    · split
      · exact clears_sized (Function.update_self t _ _) hlock
      · exact clears_counting (Function.update_self t _ _) hlock

theorem clears_refresh {s : RefreshState} (ht : s.threads t = .refresh) (hlock : s.lock) :
    Clears t u allocated counted inp s := by
  apply Clears.step (.sample t) (s.setPc t (.sizing s.generation))
  · simp [refreshOps]
  · simp [refreshStep, ht]
  · exact clears_sizing (Function.update_self t _ _) hlock

theorem clears_queued {s : RefreshState} (ht : s.threads t = .idle) (hq : s.queued)
    (hlock : s.lock) : Clears t u allocated counted inp s := by
  apply Clears.step (.start t) ({ s with queued := false }.setPc t .refresh)
  · simp [refreshOps]
  · simp [refreshStep, ht, hq]
  · exact clears_refresh (Function.update_self t _ _) hlock

theorem clears_enter {s : RefreshState} (hu : s.threads u = .ensureEnter)
    (ht : s.threads t = .idle) (hcall : s.refreshCall) (hlock : s.lock) :
    Clears t u allocated counted inp s := by
  apply Clears.step (.enter u) ({ s with queued := true }.setPc u .idle)
  · simp [refreshOps]
  · simp [refreshStep, hu, hcall]
  · have hne : t ≠ u := by
      intro htu
      rw [htu, hu] at ht
      cases ht
    exact clears_queued ((Function.update_of_ne hne _ _).trans ht) rfl hlock

end CanClear

theorem DrainInv.canClear {s : RefreshState} (h : DrainInv s) (hb : s.building) : CanClear s := by
  intro allocated counted inp
  have hlock := h.locked hb
  have ⟨n, hn⟩ := h.finite
  have hidle := hn n (Nat.le_refl n)
  rcases h.remaining hb with hq | ⟨t, hp⟩
  · exact ⟨n, n, clears_queued hidle hq hlock⟩
  · cases ht : s.threads t with
    | idle | ensureSampled | primeLock | freeing =>
      rw [ht] at hp
      cases hp
    | ensureEnter => exact ⟨n, t, clears_enter ht hidle (h.enters t ht) hlock⟩
    | refresh => exact ⟨t, t, clears_refresh ht hlock⟩
    | sizing => exact ⟨t, t, clears_sizing ht hlock⟩
    | counting => exact ⟨t, t, clears_counting ht hlock⟩
    | sized => exact ⟨t, t, clears_sized ht hlock⟩
    | walking => exact ⟨t, t, clears_walking ht hlock⟩
    | publishing => exact ⟨t, t, clears_publishing ht hlock⟩

theorem DrainInv.drains {s : RefreshState} (h : DrainInv s) : Drains s :=
  ⟨fun hb => ⟨h.remaining hb, h.canClear hb⟩, fun ha => ⟨h.asleep ha, h.remaining (h.asleep ha)⟩⟩

/-- At most one refresh is executing, queued or about to be enqueued, and until the end of
the teardown `g_building` is set for it. -/
structure SingleInv (s : RefreshState) : Prop where
  unique : ∀ t u, (s.threads t).pends → (s.threads u).pends → t = u
  queued : s.queued → ∀ t, (s.threads t).pends = false
  owned : Remaining s → s.building ∨ s.teardown = .done
  done : s.teardown = .done → s.lock = false

namespace SingleInv

variable {s s' : RefreshState} {t : ℕ} {pc : RefreshPc}

theorem not_remaining (h : SingleInv s) (hlock : s.lock) (hb : s.building = false) :
    ¬Remaining s := by
  intro hr
  rcases h.owned hr with hb' | hd
  · rw [hb] at hb'
    cases hb'
  · rw [h.done hd] at hlock
    cases hlock

theorem move (h : SingleInv s) (hm : Moves s s' t pc) (hkept : s.building → s'.building)
    (hpc : pc.pends → (s.threads t).pends ∨ s.queued ∧ s'.queued = false ∨
      ¬Remaining s ∧ s'.queued = false ∧ s'.building)
    (hq : s'.queued → pc.pends = false ∧ (s.queued ∨ (s.threads t).pends)) : SingleInv s' := by
  have hother : ∀ u, u ≠ t → s'.threads u = s.threads u := fun u hu => by
    rw [hm.threads, Function.update_of_ne hu]
  have hself : s'.threads t = pc := by rw [hm.threads, Function.update_self]
  -- where thread t has a refresh, no other thread has one
  have hexcl : pc.pends → ∀ u, u ≠ t → (s.threads u).pends = false := by
    intro hp u hu
    by_contra hup
    rw [Bool.not_eq_false] at hup
    rcases hpc hp with ht | ⟨hsq, -⟩ | ⟨hr, -⟩
    · exact hu (h.unique u t hup ht)
    · rw [h.queued hsq u] at hup
      cases hup
    · exact hr (Or.inr ⟨u, hup⟩)
  refine ⟨?_, ?_, ?_, ?_⟩
  · intro u v hu hv
    by_cases htu : u = t <;> by_cases htv : v = t
    · rw [htu, htv]
    · rw [htu, hself] at hu
      rw [hother v htv, hexcl hu v htv] at hv
      cases hv
    · rw [htv, hself] at hv
      rw [hother u htu, hexcl hv u htu] at hu
      cases hu
    · rw [hother u htu] at hu
      rw [hother v htv] at hv
      exact h.unique u v hu hv
  · intro hsq u
    have ⟨hnp, hold⟩ := hq hsq
    by_cases htu : u = t
    · rw [htu, hself, hnp]
    · rw [hother u htu]
      rcases hold with hold | hold
      · exact h.queued hold u
      · by_contra hup
        rw [Bool.not_eq_false] at hup
        exact htu (h.unique u t hup hold)
  · intro hr
    have howned : Remaining s → s'.building ∨ s'.teardown = .done := fun hr =>
      (h.owned hr).imp hkept (hm.teardown.trans)
    rcases hr with hsq | ⟨u, hu⟩
    · exact howned ((hq hsq).2.imp_right fun hp => ⟨t, hp⟩)
    · by_cases htu : u = t
      · rw [htu, hself] at hu
        rcases hpc hu with ht | ⟨hsq, -⟩ | ⟨-, -, hb⟩
        · exact howned (Or.inr ⟨t, ht⟩)
        · exact howned (Or.inl hsq)
        · exact Or.inl hb
      · rw [hother u htu] at hu
        exact howned (Or.inr ⟨u, hu⟩)
  · rw [hm.teardown, hm.lock]
    exact h.done

theorem setPc (h : SingleInv s) (hp : pc.pends = (s.threads t).pends) :
    SingleInv (s.setPc t pc) := by
  refine h.move (moves_setPc s t pc) id (fun hpc => Or.inl (hp ▸ hpc)) fun hsq => ?_
  exact ⟨hp.trans (h.queued hsq t), Or.inl hsq⟩

theorem ensureCheck {gen : ℕ} (h : SingleInv s) (ht : s.threads t = .ensureSampled gen)
    (hlock : s.lock) : SingleInv (s.ensureCheck t gen) := by
  have hidle : SingleInv (s.setPc t .idle) := h.setPc (by rw [ht]; rfl)
  rw [RefreshState.ensureCheck]
  split
  · exact hidle
  · split
    · exact hidle
    · split
      · next hfree =>
        simp only [Bool.and_eq_true, Bool.not_eq_true'] at hfree
        have hr := h.not_remaining hlock hfree.1.2
        have hsq : s.queued = false := by
          by_contra hsq
          exact hr (Or.inl (by simpa using hsq))
        refine h.move ⟨rfl, rfl, rfl, rfl⟩ (fun _ => rfl) (fun _ => Or.inr (Or.inr ⟨hr, hsq, rfl⟩))
          (fun hq => absurd (Or.inl hq) hr)
      · exact hidle

theorem primeCheck (h : SingleInv s) (ht : s.threads t = .primeLock) (hlock : s.lock) :
    SingleInv (s.primeCheck t) := by
  rw [RefreshState.primeCheck]
  split
  · exact h.setPc (by rw [ht]; rfl)
  · next hfree =>
    simp only [Bool.or_eq_true, not_or, Bool.not_eq_true] at hfree
    have hr := h.not_remaining hlock hfree.2
    have hsq : s.queued = false := by
      by_contra hsq
      exact hr (Or.inl (by simpa using hsq))
    exact h.move ⟨rfl, rfl, rfl, rfl⟩ (fun _ => rfl) (fun _ => Or.inr (Or.inr ⟨hr, hsq, rfl⟩))
      (fun hq => absurd (Or.inl hq) hr)

theorem publish {gen walked : ℕ} {newSnap : Option Snapshot} (h : SingleInv s)
    (ht : s.threads t = .publishing gen walked newSnap) :
    SingleInv (s.publish t gen newSnap) := by
  have ⟨old, hthreads⟩ := s.publish_threads t gen newSnap
  have hpt : (s.threads t).pends := by rw [ht]; rfl
  have hnone : ∀ u, ((s.publish t gen newSnap).threads u).pends = false := by
    intro u
    rw [hthreads]
    by_cases htu : u = t
    · rw [htu, Function.update_self]
      rfl
    · rw [Function.update_of_ne htu]
      by_contra hup
      rw [Bool.not_eq_false] at hup
      exact htu (h.unique u t hup hpt)
  have hq : (s.publish t gen newSnap).queued = s.queued := by cases newSnap <;> rfl
  have hnq : s.queued = false := by
    by_contra hsq
    rw [Bool.not_eq_false] at hsq
    rw [h.queued hsq t] at hpt
    cases hpt
  refine ⟨?_, fun _ => hnone, ?_, ?_⟩
  · intro u v hu
    rw [hnone u] at hu
    cases hu
  · intro hr
    rcases hr with hr | ⟨u, hu⟩
    · rw [hq, hnq] at hr
      cases hr
    · rw [hnone u] at hu
      cases hu
  · rw [DrainInv.publish_teardown]
    intro hd
    have hl : (s.publish t gen newSnap).lock = s.lock := by cases newSnap <;> rfl
    rw [hl]
    split at hd
    · cases hd
    · exact h.done hd

theorem startTeardown (h : SingleInv s) (hns : s.teardown = .notStarted) :
    SingleInv s.startTeardown := by
  have hown : ∀ q, (q ∨ ∃ t, (s.threads t).pends) → (q → s.queued) → s.building := by
    intro q hr hq
    rcases h.owned (hr.imp_left hq) with hb | hd
    · exact hb
    · rw [hns] at hd
      cases hd
  rw [RefreshState.startTeardown]
  split
  · refine ⟨h.unique, by simp, fun hr => Or.inl (hown _ hr (by simp)), ?_⟩
    show (if s.lock then TeardownPc.draining else .freeingCall) = .done → _
    split <;> simp
  · exact ⟨h.unique, h.queued, fun hr => Or.inl (hown _ hr id), by simp⟩

theorem setTeardown (h : SingleInv s) (td : TeardownPc) (call : Bool)
    (hnd : s.teardown ≠ .done) (htd : td ≠ .done) :
    SingleInv { s with refreshCall := call, teardown := td } :=
  ⟨h.unique, h.queued, fun hr => (h.owned hr).imp_right (absurd · hnd), fun hd => absurd hd htd⟩

theorem clear (h : SingleInv s) : SingleInv s.clear := by
  rw [RefreshState.clear]
  split
  · exact ⟨h.unique, h.queued, fun _ => Or.inr rfl, fun _ => rfl⟩
  · next hl => exact ⟨h.unique, h.queued, fun _ => Or.inr rfl, fun _ => by simpa using hl⟩

end SingleInv

theorem singleInv_step {s s' : RefreshState} {op : RefreshOp} (h : SingleInv s)
    (hs : refreshStep s op = some s') : SingleInv s' := by
  cases refreshStep_spec hs with
  | mutate | tick => exact ⟨h.unique, h.queued, h.owned, h.done⟩
  | ensure ht | prime ht | sample ht | count ht | walk ht | free ht =>
    exact h.setPc (by rw [ht]; rfl)
  | check ht hlock => exact h.ensureCheck ht hlock
  | enter ht =>
    exact h.move ⟨rfl, rfl, rfl, rfl⟩ id (by rintro ⟨⟩) (fun _ => ⟨rfl, Or.inr (by rw [ht]; rfl)⟩)
  | start ht hq =>
    exact h.move ⟨rfl, rfl, rfl, rfl⟩ id (fun _ => Or.inr (Or.inl ⟨hq, rfl⟩)) (by rintro ⟨⟩)
  | primeLock ht hlock => exact h.primeCheck ht hlock
  | size ht allocated =>
    rw [RefreshState.buildSize]
    repeat' split
    all_goals exact h.setPc (by rw [ht]; rfl)
  | walkEnd ht inp =>
    have hp := congrArg RefreshPc.pends ht
    exact h.move ⟨rfl, rfl, rfl, rfl⟩ id (fun _ => Or.inl hp)
      (fun hq => absurd ((h.queued hq _).symm.trans hp) (by rintro ⟨⟩))
  | publish ht => exact h.publish ht
  | teardown hns => exact h.startTeardown hns
  | drain htd =>
    refine h.setTeardown _ s.refreshCall (by rw [htd]; simp) ?_
    split <;> simp
  | freeCall htd => exact h.setTeardown .clearing false (by rw [htd]; simp) (by simp)
  | clear => exact h.clear

theorem singleInv_init (lock refreshCall : Bool) (registry : List RegEntry) :
    SingleInv (.init lock refreshCall registry) :=
  ⟨nofun, nofun, fun hr => hr.elim nofun (fun ⟨_, ht⟩ => nomatch ht), nofun⟩

theorem SingleInv.cancelled {s : RefreshState} (h : SingleInv s) (hns : s.teardown = .notStarted)
    (hcall : s.refreshCall) (hq : s.queued) :
    s.startTeardown.building ∧ ¬Remaining s.startTeardown := by
  -- the run that the teardown finds queued is the only refresh that would clear `g_building`
  rw [RefreshState.startTeardown, if_pos hcall]
  constructor
  · rcases h.owned (Or.inl hq) with hb | hd
    · exact hb
    · rw [hns] at hd
      cases hd
  · intro hr
    rcases hr with hr | ⟨t, ht⟩
    · cases hr
    · rw [show (s.threads t).pends = false from h.queued hq t] at ht
      cases ht

structure Hung (s : RefreshState) : Prop where
  asleep : s.teardown = .asleep
  building : s.building
  lost : ¬Remaining s
  ensures : ∀ t, (s.threads t).inEnsure = false

theorem Hung.setPc {s : RefreshState} (h : Hung s) {t : ℕ} {pc : RefreshPc}
    (hp : pc.pends = false) (he : pc.inEnsure = false) : Hung (s.setPc t pc) := by
  have hupdate : ∀ u, (s.setPc t pc).threads u = pc ∨ (s.setPc t pc).threads u = s.threads u := by
    intro u
    rw [(moves_setPc s t pc).threads]
    by_cases htu : u = t
    · exact Or.inl (by rw [htu, Function.update_self])
    · exact Or.inr (Function.update_of_ne htu _ _)
  refine ⟨h.asleep, h.building, ?_, ?_⟩
  · intro hr
    rcases hr with hq | ⟨u, hu⟩
    · exact h.lost (Or.inl hq)
    · rcases hupdate u with heq | heq
      · rw [heq, hp] at hu
        cases hu
      · exact h.lost (Or.inr ⟨u, heq ▸ hu⟩)
  · intro u
    rcases hupdate u with heq | heq
    · rw [heq, he]
    · rw [heq, h.ensures u]

/-- No step of any thread ends it. -/
theorem hung_step {s s' : RefreshState} {op : RefreshOp} (h : Hung s)
    (hs : refreshStep s op = some s') : Hung s' := by
  have hlost : ∀ {t}, (s.threads t).pends → Hung s' := fun ht => absurd (Or.inr ⟨_, ht⟩) h.lost
  cases refreshStep_spec hs with
  | mutate | tick => exact ⟨h.asleep, h.building, h.lost, h.ensures⟩
  | ensure _ _ hstart =>
    rw [h.asleep] at hstart
    cases hstart
  | @check t _ ht _ =>
    have := h.ensures t
    rw [ht] at this
    cases this
  | prime | free => exact h.setPc rfl rfl
  | primeLock =>
    rw [RefreshState.primeCheck, if_pos (by rw [h.building, Bool.or_true])]
    exact h.setPc rfl rfl
  | start _ hq => exact absurd (Or.inl hq) h.lost
  | enter ht | sample ht | size ht | count ht | walk ht | walkEnd ht | publish ht =>
    exact hlost (by rw [ht]; rfl)
  | teardown htd | drain htd | freeCall htd | clear htd =>
    rw [h.asleep] at htd
    cases htd

theorem Hung.forever {s s' : RefreshState} (h : Hung s) (labels : List RefreshOp)
    (hs : run refreshStep s labels = some s') : s'.teardown = .asleep := by
  have hr : Reached refreshStep s labels s' := ⟨labels.length, by rw [List.take_length, hs]⟩
  exact (invariant_along h (fun _ _ _ hstep hh => hung_step hh hstep.step_eq) hr).asleep

section Runs

variable {lock refreshCall : Bool} {registry : List RegEntry} {labels : List RefreshOp}

theorem singleInv_reached {s : RefreshState}
    (h : Reached refreshStep (.init lock refreshCall registry) labels s) : SingleInv s :=
  invariant_along (singleInv_init lock refreshCall registry)
    (fun _ _ _ hstep hinv => singleInv_step hinv hstep.step_eq) h

/-- In a run whose teardown starts without vnode operations, a refresh remains for
`g_building` in every state exactly if the teardown cancels no queued run. -/
theorem building_drains_iff
    (hvnops : ∀ s s',
      StepTaken refreshStep (.init lock refreshCall registry) labels s .teardown s' →
      ∀ t, (s.threads t).inEnsure = false) :
    (∀ s, Reached refreshStep (.init lock refreshCall registry) labels s → Drains s) ↔
      ∀ s s', StepTaken refreshStep (.init lock refreshCall registry) labels s .teardown s' →
        s.refreshCall → s.queued = false := by
  constructor
  · intro hall s s' hstep hcall
    by_contra hq
    rw [Bool.not_eq_false] at hq
    have hs := hstep.step_eq
    rw [refreshStep] at hs
    obtain ⟨hns, hs'⟩ := Option.ite_none_right_eq_some.mp hs
    obtain ⟨hb, hr⟩ := (singleInv_reached hstep.reached).cancelled hns hcall hq
    rw [Option.some_inj.mp hs'] at hb hr
    exact hr ((hall s' hstep.reached_next).1 hb).1
  · intro hcancel s hs
    apply DrainInv.drains
    apply invariant_along (drainInv_init lock refreshCall registry) _ hs
    intro s op s' hstep hinv
    apply drainInv_step hinv _ _ hstep.step_eq
    · intro hop
      exact hvnops s s' (hop ▸ hstep)
    · intro hop
      exact hcancel s s' (hop ▸ hstep)

end Runs

/-- A refresh is enqueued, and the kext is unloaded before it starts. -/
theorem teardown_hangs_after_cancel :
    ∃ s, run refreshStep (.init true true []) [.ensure 0, .check 0, .enter 0, .teardown, .drain] =
        some s ∧ s.teardown = .asleep ∧ s.building ∧ ¬Remaining s ∧
      ∀ labels s', run refreshStep s labels = some s' → s'.teardown = .asleep := by
  have hhung : ∃ s, run refreshStep (.init true true [])
      [.ensure 0, .check 0, .enter 0, .teardown, .drain] = some s ∧ Hung s := by
    refine ⟨_, rfl, rfl, rfl, ?_, ?_⟩
    · intro hr
      rcases hr with hq | ⟨t, ht⟩
      · cases hq
      · match t with
        | 0 => cases ht
        | t + 1 => cases ht
    · intro t
      match t with
      | 0 => rfl
      | t + 1 => rfl
  have ⟨s, hs, h⟩ := hhung
  exact ⟨s, hs, h.asleep, h.building, h.lost, fun labels _ => h.forever labels⟩

/-- A teardown that waits for a refresh already started; the refresh fails to allocate. -/
def drainsAfterRefresh : List RefreshOp :=
  [.ensure 0, .check 0, .enter 0, .start 1, .sample 1, .teardown, .size 1 false, .drain,
    .publish 1, .drain, .freeCall, .clear]

theorem building_drains_after_refresh :
    (∃ s, run refreshStep (.init true true []) drainsAfterRefresh = some s ∧
      s.teardown = .done) ∧
      ∀ s, Reached refreshStep (.init true true []) drainsAfterRefresh s → Drains s := by
  have hteardown : ∀ s s',
      StepTaken refreshStep (.init true true []) drainsAfterRefresh s .teardown s' →
      s.queued = false ∧ ∀ t, (s.threads t).inEnsure = false := by
    intro s s' h
    have ⟨k, hrun, hk, _⟩ := h
    match k with
    | 0 | 1 | 2 | 3 | 4 | 6 | 7 | 8 | 9 | 10 | 11 => cases hk
    | 5 =>
      cases hrun
      refine ⟨rfl, fun t => ?_⟩
      match t with
      | 0 | 1 => rfl
      | t + 2 => rfl
    | k + 12 => cases hk
  refine ⟨⟨_, rfl, rfl⟩, (building_drains_iff ?_).mpr ?_⟩
  · intro s s' h
    exact (hteardown s s' h).2
  · intro s s' h _
    exact (hteardown s s' h).1

end SysFS
