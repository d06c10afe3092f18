import SysFS.Lib.Ledger
import SysFS.RefreshDrain

namespace SysFS
open Transition

namespace RefreshPc

/-- `sysfs_snap_refresh` has left its section under the lock and not returned. -/
def isFreeing : RefreshPc → Bool
  | freeing _ => true
  | _ => false

def outside : RefreshPc → Bool
  | ensureSampled _ | ensureEnter | primeLock => true
  | _ => false

def carries : RefreshPc → Bool
  | publishing _ _ _ | freeing _ => true
  | _ => false

theorem pends_of_refreshing {pc : RefreshPc} (h : pc.refreshing) : pc.pends :=
  (Bool.or_eq_true _ _).mpr (Or.inl h)

theorem eq_idle {pc : RefreshPc} (ho : pc.outside = false) (hr : pc.refreshing = false)
    (hf : pc.isFreeing = false) : pc = .idle := by
  cases pc with
  | idle => rfl
  | ensureSampled | ensureEnter | primeLock => cases ho
  | freeing => cases hf
  | _ => cases hr

end RefreshPc

def sizeofSnapshot : ℕ := 72
def sizeofSnapNode : ℕ := 200
def sizeofChildIdx : ℕ := 4
def sizeofHashSlot : ℕ := 16
def sizeofSnapModule : ℕ := 184

/-- `snap->bytes` when the table is allocated. -/
def tableBytes (cap : ℕ) : ℕ :=
  sizeofSnapshot + cap * sizeofSnapNode + cap * sizeofChildIdx + buildHashSize cap * sizeofHashSlot

/-- What `sysfs_snap_build_modules` adds to `snap->bytes`. -/
def moduleBytes (allocs : BuildAllocs) (kexts : Option (List KextEntry)) : ℕ :=
  if !allocs.moduleKeys then 0
  else
    match kexts with
    | none => 0
    | some info =>
      if !allocs.modules ∨ !allocs.moduleIter then 0
      else min info.length sysfsIokitMaxmodules * sizeofSnapModule

/-- Who has a snapshot: `g_snapshot`, or a thread in `new_snap` or `old_snap`. -/
inductive SnapOwner where
  | global
  | thread (t : ℕ)
  deriving DecidableEq, Repr

/-- The state with the snapshots in memory. The total of `snaps` is
`sysfs_stat_snap_bytes`. -/
structure RefreshMemory where
  state : RefreshState
  snaps : Ledger SnapOwner

def RefreshMemory.init (lock refreshCall : Bool) (registry : List RegEntry) : RefreshMemory :=
  ⟨.init lock refreshCall registry, .empty⟩

/-- What a build does to the counter, in one step at the end of its walk. A snapshot freed
before its table is complete has no bytes yet. -/
def accountBuild (snaps : Ledger SnapOwner) (t cap : ℕ) (inp : BuildInput)
    (built : Option Snapshot) : Ledger SnapOwner :=
  if !inp.allocs.nodes ∨ !inp.allocs.childIdx ∨ !inp.allocs.hash then snaps
  else
    match built with
    | none => (snaps.alloc (.thread t) (tableBytes cap)).release (.thread t)
    | some _ =>
      snaps.alloc (.thread t)
        (tableBytes cap +
          if !inp.allocs.childCounts then 0 else moduleBytes inp.allocs inp.kexts)

def RefreshMemory.account (m : RefreshMemory) : RefreshOp → Ledger SnapOwner
  | .walkEnd t inp =>
    match m.state.threads t with
    | .walking _ cap _ =>
      accountBuild m.snaps t cap inp
        (snapBuildSized cap m.state.lastNodeCount { inp with uptime := m.state.clock }).1
    | _ => m.snaps
  | .publish t =>
    match m.state.threads t with
    | .publishing _ _ (some _) => m.snaps.exchange .global (.thread t)
    | _ => m.snaps
  | .free t => m.snaps.release (.thread t)
  | .clear => if m.state.lock then m.snaps.release .global else m.snaps
  | _ => m.snaps

def memoryStep (m : RefreshMemory) (op : RefreshOp) : Option RefreshMemory :=
  (refreshStep m.state op).map fun s' => ⟨s', m.account op⟩

theorem memoryStep_spec {m m' : RefreshMemory} {op : RefreshOp} (h : memoryStep m op = some m') :
    RefreshStep m.state op m'.state ∧ m'.snaps = m.account op := by
  have ⟨s', hs, hm⟩ := Option.map_eq_some_iff.mp h
  rw [← hm]
  exact ⟨refreshStep_spec hs, rfl⟩

structure MemoryInv (m : RefreshMemory) : Prop where
  balanced : m.snaps.Balanced
  carried : ∀ t, (m.snaps.owned (.thread t)).isSome → (m.state.threads t).carries
  published : (m.snaps.owned .global).isSome → m.state.lock

theorem accountBuild_balanced {snaps : Ledger SnapOwner} {t cap : ℕ} {inp : BuildInput}
    {built : Option Snapshot} (h : snaps.Balanced) (ht : snaps.owned (.thread t) = none) :
    (accountBuild snaps t cap inp built).Balanced := by
  unfold accountBuild
  split
  · exact h
  · split
    · exact (h.alloc ht _).release _
    · exact h.alloc ht _

theorem accountBuild_owned {snaps : Ledger SnapOwner} {t cap : ℕ} {inp : BuildInput}
    {built : Option Snapshot} {o : SnapOwner} (ho : o ≠ .thread t) :
    (accountBuild snaps t cap inp built).owned o = snaps.owned o := by
  unfold accountBuild
  split
  · rfl
  · split
    · rw [Ledger.release_owned, Function.update_of_ne ho, Ledger.alloc_owned,
        Function.update_of_ne ho]
    · rw [Ledger.alloc_owned, Function.update_of_ne ho]

namespace MemoryInv

variable {m : RefreshMemory} {s' : RefreshState} {t : ℕ}

theorem owned_none (h : MemoryInv m) (ht : (m.state.threads t).carries = false) :
    m.snaps.owned (.thread t) = none := by
  by_contra hne
  rw [h.carried t (Option.isSome_iff_ne_none.mpr hne)] at ht
  cases ht

theorem move {pc : RefreshPc} (h : MemoryInv m) (ht : (m.state.threads t).carries = false)
    (hthreads : s'.threads = Function.update m.state.threads t pc)
    (hlock : s'.lock = m.state.lock) : MemoryInv ⟨s', m.snaps⟩ where
  balanced := h.balanced
  carried u hu := by
    have hut : u ≠ t := by
      rintro rfl
      rw [h.owned_none ht] at hu
      cases hu
    show (s'.threads u).carries
    rw [hthreads, Function.update_of_ne hut]
    exact h.carried u hu
  published hg := hlock ▸ h.published hg

theorem ensureCheck {gen : ℕ} (h : MemoryInv m) (ht : m.state.threads t = .ensureSampled gen) :
    MemoryInv ⟨m.state.ensureCheck t gen, m.snaps⟩ := by
  have hc := congrArg RefreshPc.carries ht
  rw [RefreshState.ensureCheck]
  repeat' split
  all_goals exact h.move hc rfl rfl

theorem primeCheck (h : MemoryInv m) (ht : m.state.threads t = .primeLock) :
    MemoryInv ⟨m.state.primeCheck t, m.snaps⟩ := by
  have hc := congrArg RefreshPc.carries ht
  rw [RefreshState.primeCheck]
  split
  all_goals exact h.move hc rfl rfl

theorem buildSize {gen : ℕ} {allocated : Bool} (h : MemoryInv m)
    (ht : m.state.threads t = .sizing gen) :
    MemoryInv ⟨m.state.buildSize t gen allocated, m.snaps⟩ := by
  have hc := congrArg RefreshPc.carries ht
  rw [RefreshState.buildSize]
  repeat' split
  all_goals exact h.move hc rfl rfl

theorem buildWalked {gen cap start : ℕ} {inp : BuildInput} (h : MemoryInv m)
    (ht : m.state.threads t = .walking gen cap start) :
    MemoryInv ⟨m.state.buildWalked t gen cap inp, m.account (.walkEnd t inp)⟩ := by
  have hnone : m.snaps.owned (.thread t) = none := h.owned_none (congrArg RefreshPc.carries ht)
  rw [RefreshMemory.account, ht]
  refine ⟨accountBuild_balanced h.balanced hnone, ?_, ?_⟩
  · intro u hu
    show (Function.update m.state.threads t _ u).carries
    by_cases hut : u = t
    · rw [hut, Function.update_self]
      rfl
    · rw [Function.update_of_ne hut]
      exact h.carried u (accountBuild_owned (mt SnapOwner.thread.inj hut) ▸ hu)
  · intro hg
    exact h.published (accountBuild_owned (o := .global) (by nofun) ▸ hg)

theorem publish {gen walked : ℕ} {newSnap : Option Snapshot} (h : MemoryInv m)
    (ht : m.state.threads t = .publishing gen walked newSnap) (hlock : m.state.lock) :
    MemoryInv ⟨m.state.publish t gen newSnap, m.account (.publish t)⟩ := by
  have ⟨old, hthreads⟩ := m.state.publish_threads t gen newSnap
  have hother : ∀ u, u ≠ t →
      (m.account (.publish t)).owned (.thread u) = m.snaps.owned (.thread u) := by
    intro u hu
    rw [RefreshMemory.account, ht]
    cases newSnap with
    | none => rfl
    | some snap =>
      show m.snaps.owned (Equiv.swap _ _ (.thread u)) = _
      rw [Equiv.swap_apply_of_ne_of_ne (by nofun) (mt SnapOwner.thread.inj hu)]
  refine ⟨?_, ?_, ?_⟩
  · rw [RefreshMemory.account, ht]
    cases newSnap with
    | none => exact h.balanced
    | some snap => exact h.balanced.exchange _ _
  · intro u hu
    show ((m.state.publish t gen newSnap).threads u).carries
    rw [hthreads]
    by_cases hut : u = t
    · rw [hut, Function.update_self]
      rfl
    · rw [Function.update_of_ne hut]
      rw [hother u hut] at hu
      exact h.carried u hu
  · intro _
    show (m.state.publish t gen newSnap).lock
    cases newSnap <;> exact hlock

theorem free (h : MemoryInv m) :
    MemoryInv ⟨m.state.setPc t .idle, m.account (.free t)⟩ := by
  have howned := Ledger.release_owned m.snaps (.thread t)
  refine ⟨h.balanced.release _, ?_, ?_⟩
  · intro u hu
    change ((m.snaps.release (.thread t)).owned (.thread u)).isSome at hu
    have hut : u ≠ t := by
      rintro rfl
      rw [howned, Function.update_self] at hu
      cases hu
    rw [howned, Function.update_of_ne (mt SnapOwner.thread.inj hut)] at hu
    show (Function.update m.state.threads t _ u).carries
    rw [Function.update_of_ne hut]
    exact h.carried u hu
  · intro hg
    change ((m.snaps.release (.thread t)).owned .global).isSome at hg
    rw [howned, Function.update_of_ne (by nofun)] at hg
    exact h.published hg

theorem startTeardown (h : MemoryInv m) : MemoryInv ⟨m.state.startTeardown, m.snaps⟩ := by
  rw [RefreshState.startTeardown]
  split
  all_goals exact ⟨h.balanced, h.carried, h.published⟩

theorem clear (h : MemoryInv m) : MemoryInv ⟨m.state.clear, m.account .clear⟩ := by
  rw [RefreshState.clear, RefreshMemory.account]
  have howned := Ledger.release_owned m.snaps .global
  split
  · refine ⟨h.balanced.release _, ?_, ?_⟩
    · intro u hu
      change ((m.snaps.release .global).owned (.thread u)).isSome at hu
      rw [howned, Function.update_of_ne (by simp)] at hu
      exact h.carried u hu
    · intro hg
      change ((m.snaps.release .global).owned .global).isSome at hg
      rw [howned, Function.update_self] at hg
      cases hg
  · exact ⟨h.balanced, h.carried, h.published⟩

end MemoryInv

theorem memoryInv_step {m m' : RefreshMemory} {op : RefreshOp} (h : MemoryInv m)
    (hs : memoryStep m op = some m') : MemoryInv m' := by
  obtain ⟨s', snaps'⟩ := m'
  obtain ⟨hstep, rfl⟩ := memoryStep_spec hs
  cases hstep with
  | mutate | tick | drain | freeCall => exact ⟨h.balanced, h.carried, h.published⟩
  | ensure ht | enter ht | start ht | prime ht | sample ht | count ht | walk ht =>
    exact h.move (congrArg RefreshPc.carries ht) rfl rfl
  | check ht => exact h.ensureCheck ht
  | primeLock ht => exact h.primeCheck ht
  | size ht => exact h.buildSize ht
  | walkEnd ht => exact h.buildWalked ht
  | publish ht hlock => exact h.publish ht hlock
  | free => exact h.free
  | teardown => exact h.startTeardown
  | clear => exact h.clear

theorem memoryInv_init (lock refreshCall : Bool) (registry : List RegEntry) :
    MemoryInv (.init lock refreshCall registry) :=
  ⟨Ledger.balanced_empty, nofun, nofun⟩

/-- Only the thread call is running: no vnode operation and no mount. -/
def OnlyWorker (s : RefreshState) : Prop :=
  ∀ t, s.threads t = .idle ∨
    s.refreshCall ∧ ((s.threads t).refreshing ∨ (s.threads t).isFreeing)

/-- The teardown has seen `g_building` clear. -/
def TeardownPc.drained : TeardownPc → Bool
  | freeingCall | clearing | done => true
  | _ => false

structure TeardownInv (s : RefreshState) : Prop where
  started : s.teardown ≠ .notStarted → s.queued = false ∧ ∀ t, (s.threads t).outside = false
  drained : s.teardown.drained → ∀ t, (s.threads t).refreshing = false
  waits : s.teardown = .draining ∨ s.teardown = .asleep → s.lock
  unlocked : s.lock = false → s.teardown ≠ .done → s.queued = false ∧ ∀ t, s.threads t = .idle
  call : s.queued → s.refreshCall

namespace TeardownInv

variable {s s' : RefreshState} {t : ℕ} {pc : RefreshPc}

theorem notStarted_of_queued (h : TeardownInv s) (hq : s.queued) : s.teardown = .notStarted := by
  by_contra hne
  rw [(h.started hne).1] at hq
  cases hq

theorem notStarted_of_outside (h : TeardownInv s) (ht : (s.threads t).outside) :
    s.teardown = .notStarted := by
  by_contra hne
  rw [(h.started hne).2 t] at ht
  cases ht

theorem move (h : TeardownInv s) (hm : Moves s s' t pc)
    (houtside : pc.outside → s.teardown = .notStarted)
    (hrefresh : pc.refreshing → s.teardown.drained = false)
    (hqueued : s'.queued → s.teardown = .notStarted ∧ s.refreshCall)
    (hidle : s.lock = false → s.teardown ≠ .done → s'.queued = false ∧ pc = .idle) :
    TeardownInv s' := by
  have hall : ∀ P : RefreshPc → Prop, P pc → (∀ u, P (s.threads u)) → ∀ u, P (s'.threads u) := by
    intro P hpc hu
    rw [hm.threads]
    exact (Function.forall_update_iff s.threads fun _ => P).mpr ⟨hpc, fun u _ => hu u⟩
  refine ⟨?_, ?_, ?_, ?_, ?_⟩
  · rw [hm.teardown]
    intro hne
    constructor
    · by_contra hq
      rw [Bool.not_eq_false] at hq
      exact hne (hqueued hq).1
    · apply hall (·.outside = false) _ (h.started hne).2
      by_contra ho
      rw [Bool.not_eq_false] at ho
      exact hne (houtside ho)
  · rw [hm.teardown]
    intro hd
    apply hall (·.refreshing = false) _ (h.drained hd)
    by_contra hr
    rw [Bool.not_eq_false] at hr
    cases (hrefresh hr).symm.trans hd
  · rw [hm.teardown, hm.lock]
    exact h.waits
  · rw [hm.teardown, hm.lock]
    intro hl hd
    have ⟨hq, hpc⟩ := hidle hl hd
    exact ⟨hq, hall (· = .idle) hpc (h.unlocked hl hd).2⟩
  · rw [hm.refreshCall]
    exact fun hq => (hqueued hq).2

theorem advance (h : TeardownInv s) (hm : Moves s s' t pc) (ht : s.threads t ≠ .idle)
    (houtside : pc.outside = false) (hrefresh : pc.refreshing → (s.threads t).refreshing)
    (hqueued : s'.queued = s.queued) : TeardownInv s' := by
  refine h.move hm (fun ho => ?_) (fun hr => ?_) (fun hq => ?_) (fun hl hd => ?_)
  · rw [houtside] at ho
    cases ho
  · by_contra hd
    rw [Bool.not_eq_false] at hd
    cases (h.drained hd t).symm.trans (hrefresh hr)
  · rw [hqueued] at hq
    exact ⟨h.notStarted_of_queued hq, h.call hq⟩
  · exact absurd ((h.unlocked hl hd).2 t) ht

theorem ensureCheck {gen : ℕ} (h : TeardownInv s) (ht : s.threads t = .ensureSampled gen)
    (hlock : s.lock) : TeardownInv (s.ensureCheck t gen) := by
  have hidle : TeardownInv (s.setPc t .idle) :=
    h.advance (moves_setPc s t .idle) (by rw [ht]; simp) rfl (by rintro ⟨⟩) rfl
  have hns := h.notStarted_of_outside (t := t) (by rw [ht]; rfl)
  rw [RefreshState.ensureCheck]
  split
  · exact hidle
  · split
    · exact hidle
    · split
      · refine h.move ⟨rfl, rfl, rfl, rfl⟩ (fun _ => hns) (by rintro ⟨⟩)
          (fun hq => ⟨hns, h.call hq⟩) (fun hl => ?_)
        cases hl.symm.trans hlock
      · exact hidle

theorem primeCheck (h : TeardownInv s) (ht : s.threads t = .primeLock) (hlock : s.lock) :
    TeardownInv (s.primeCheck t) := by
  have hns := h.notStarted_of_outside (t := t) (by rw [ht]; rfl)
  rw [RefreshState.primeCheck]
  split
  · exact h.advance (moves_setPc s t .idle) (by rw [ht]; simp) rfl (by rintro ⟨⟩) rfl
  · refine h.move ⟨rfl, rfl, rfl, rfl⟩ (by rintro ⟨⟩) (fun _ => by rw [hns]; rfl)
      (fun hq => ⟨hns, h.call hq⟩) (fun hl => ?_)
    cases hl.symm.trans hlock

theorem publish {gen walked : ℕ} {newSnap : Option Snapshot} (h : TeardownInv s)
    (ht : s.threads t = .publishing gen walked newSnap) (hlock : s.lock) :
    TeardownInv (s.publish t gen newSnap) := by
  have ⟨old, hthreads⟩ := s.publish_threads t gen newSnap
  have hsame : (s.publish t gen newSnap).queued = s.queued ∧
      (s.publish t gen newSnap).lock = s.lock ∧
      (s.publish t gen newSnap).refreshCall = s.refreshCall := by
    cases newSnap <;> exact ⟨rfl, rfl, rfl⟩
  have ⟨hq, hl, hc⟩ := hsame
  have hnd : s.teardown.drained = false := by
    by_contra hd
    rw [Bool.not_eq_false] at hd
    have := h.drained hd t
    rw [ht] at this
    cases this
  refine ⟨?_, ?_, ?_, ?_, ?_⟩
  · rw [DrainInv.publish_teardown, hq, hthreads]
    intro hne
    have hne' : s.teardown ≠ .notStarted := by
      intro hns
      rw [hns] at hne
      exact hne rfl
    refine ⟨(h.started hne').1, ?_⟩
    exact (Function.forall_update_iff s.threads fun _ pc => pc.outside = false).mpr
      ⟨rfl, fun u _ => (h.started hne').2 u⟩
  · rw [DrainInv.publish_teardown]
    intro hd
    split at hd
    · cases hd
    · cases hnd.symm.trans hd
  · rw [hl]
    exact fun _ => hlock
  · rw [hl, hlock]
    nofun
  · rw [hq, hc]
    exact h.call

theorem startTeardown (h : TeardownInv s) (hns : s.teardown = .notStarted)
    (honly : OnlyWorker s) : TeardownInv s.startTeardown := by
  have hout : ∀ t, (s.threads t).outside = false := by
    intro t
    rcases honly t with hi | ⟨-, hr⟩
    · rw [hi]
      rfl
    · cases hpc : s.threads t with
      | ensureSampled | ensureEnter | primeLock =>
        rw [hpc] at hr
        rcases hr with hr | hr <;> cases hr
      | _ => rfl
  have hunlocked : s.lock = false → ∀ t, s.threads t = .idle := fun hl =>
    (h.unlocked hl (by rw [hns]; simp)).2
  rw [RefreshState.startTeardown]
  split
  · refine ⟨fun _ => ⟨rfl, hout⟩, ?_, ?_, fun hl _ => ⟨rfl, hunlocked hl⟩, by simp⟩
    · intro hd t
      change (if s.lock then TeardownPc.draining else .freeingCall).drained at hd
      show (s.threads t).refreshing = false
      split at hd
      · cases hd
      · next hl =>
        rw [hunlocked (by simpa using hl) t]
        rfl
    · show (if s.lock then TeardownPc.draining else .freeingCall) = .draining ∨
        (if s.lock then TeardownPc.draining else .freeingCall) = .asleep → _
      split
      · next hl => exact fun _ => hl
      · simp
  · next hcall =>
    have hidle : ∀ t, s.threads t = .idle := fun t =>
      (honly t).resolve_right fun hw => hcall hw.1
    have hnq : s.queued = false := by
      by_contra hq
      rw [Bool.not_eq_false] at hq
      exact hcall (h.call hq)
    refine ⟨fun _ => ⟨hnq, hout⟩, fun _ t => ?_, by simp, fun _ _ => ⟨hnq, hidle⟩, h.call⟩
    show (s.threads t).refreshing = false
    rw [hidle t]
    rfl

theorem drain (h : TeardownInv s) (hsingle : SingleInv s) (htd : s.teardown = .draining) :
    TeardownInv { s with teardown := if s.building then .asleep else .freeingCall } := by
  have hlock := h.waits (Or.inl htd)
  have hstarted := h.started (by rw [htd]; nofun)
  refine ⟨fun _ => hstarted, ?_, fun _ => hlock, fun hl => ?_, h.call⟩
  · intro hd t
    change (if s.building then TeardownPc.asleep else .freeingCall).drained at hd
    split at hd
    · cases hd
    · next hb =>
      have hr := hsingle.not_remaining hlock (by simpa using hb)
      by_contra hrefresh
      rw [Bool.not_eq_false] at hrefresh
      exact hr (Or.inr ⟨t, RefreshPc.pends_of_refreshing hrefresh⟩)
  · cases hl.symm.trans hlock

theorem clear (h : TeardownInv s) (htd : s.teardown = .clearing) : TeardownInv s.clear := by
  have hstarted := h.started (by rw [htd]; simp)
  have hdrained := h.drained (by rw [htd]; rfl)
  rw [RefreshState.clear]
  split
  · exact ⟨fun _ => hstarted, fun _ => hdrained, by simp, fun _ hd => absurd rfl hd, h.call⟩
  · exact ⟨fun _ => hstarted, fun _ => hdrained, by simp, fun _ hd => absurd rfl hd, h.call⟩

end TeardownInv

theorem teardownInv_step {s s' : RefreshState} {op : RefreshOp} (h : TeardownInv s)
    (hsingle : SingleInv s) (honly : op = .teardown → OnlyWorker s)
    (hprime : ∀ t, op = .prime t → s.teardown = .notStarted) (hs : RefreshStep s op s') :
    TeardownInv s' := by
  cases hs with
  | mutate | tick => exact ⟨h.started, h.drained, h.waits, h.unlocked, h.call⟩
  | ensure ht hlock hns =>
    refine h.move (moves_setPc ..) (fun _ => hns) (by rintro ⟨⟩) (fun hq => ⟨hns, h.call hq⟩)
      (fun hl => ?_)
    cases hl.symm.trans hlock
  | prime ht hlock =>
    have hns := hprime _ rfl
    refine h.move (moves_setPc ..) (fun _ => hns) (by rintro ⟨⟩) (fun hq => ⟨hns, h.call hq⟩)
      (fun hl => ?_)
    cases hl.symm.trans hlock
  | check ht hlock => exact h.ensureCheck ht hlock
  | enter ht hcall =>
    have hns := h.notStarted_of_outside (by rw [ht]; rfl)
    refine h.move ⟨rfl, rfl, rfl, rfl⟩ (by rintro ⟨⟩) (by rintro ⟨⟩) (fun _ => ⟨hns, hcall⟩)
      (fun hl hd => ?_)
    cases ht.symm.trans ((h.unlocked hl hd).2 _)
  | start ht hq =>
    have hns := h.notStarted_of_queued hq
    refine h.move ⟨rfl, rfl, rfl, rfl⟩ (by rintro ⟨⟩) (fun _ => by rw [hns]; rfl) (by rintro ⟨⟩)
      (fun hl hd => ?_)
    cases hq.symm.trans (h.unlocked hl hd).1
  | primeLock ht hlock => exact h.primeCheck ht hlock
  | sample ht | count ht | walk ht =>
    exact h.advance (moves_setPc ..) (by rw [ht]; simp) rfl (fun _ => by rw [ht]; rfl) rfl
  | size ht =>
    rw [RefreshState.buildSize]
    repeat' split
    all_goals
      exact h.advance (moves_setPc ..) (by rw [ht]; simp) rfl (fun _ => by rw [ht]; rfl) rfl
  | walkEnd ht =>
    exact h.advance ⟨rfl, rfl, rfl, rfl⟩ (by rw [ht]; simp) rfl (fun _ => by rw [ht]; rfl) rfl
  | publish ht hlock => exact h.publish ht hlock
  | free ht => exact h.advance (moves_setPc ..) (by rw [ht]; simp) rfl (by rintro ⟨⟩) rfl
  | teardown hns => exact h.startTeardown hns (honly rfl)
  | drain htd => exact h.drain hsingle htd
  | freeCall htd =>
    have hne : s.teardown ≠ .notStarted := by rw [htd]; simp
    have hstarted := h.started hne
    exact ⟨fun _ => hstarted, fun _ => h.drained (by rw [htd]; rfl), by simp,
      fun hl _ => h.unlocked hl (by rw [htd]; simp),
      fun hq => absurd (h.notStarted_of_queued hq) hne⟩
  | clear htd => exact h.clear htd

theorem teardownInv_init (lock refreshCall : Bool) (registry : List RegEntry) :
    TeardownInv (.init lock refreshCall registry) :=
  ⟨fun h => absurd rfl h, nofun, nofun, fun _ _ => ⟨rfl, fun _ => rfl⟩, nofun⟩

theorem done_of_step {s s' : RefreshState} {op : RefreshOp} (hs : RefreshStep s op s')
    (hd : s'.teardown = .done) : s.teardown = .done ∨ op = .clear := by
  cases hs with
  | clear => exact Or.inr rfl
  | check =>
    left
    rw [RefreshState.ensureCheck] at hd
    repeat' split at hd
    all_goals exact hd
  | primeLock =>
    left
    rw [RefreshState.primeCheck] at hd
    split at hd
    all_goals exact hd
  | size =>
    left
    rw [RefreshState.buildSize] at hd
    repeat' split at hd
    all_goals exact hd
  | publish =>
    rw [DrainInv.publish_teardown] at hd
    split at hd
    · cases hd
    · exact Or.inl hd
  | teardown =>
    have hne : s.startTeardown.teardown ≠ .done := by
      rw [RefreshState.startTeardown]
      split
      · show (if s.lock then TeardownPc.draining else .freeingCall) ≠ .done
        split <;> simp
      · simp
    exact absurd hd hne
  | drain =>
    change (if s.building then TeardownPc.asleep else .freeingCall) = .done at hd
    split at hd <;> cases hd
  | freeCall => cases hd
  | _ => exact Or.inl hd

theorem clear_threads {s s' : RefreshState} (hs : RefreshStep s .clear s') :
    s.teardown = .clearing ∧ s'.teardown = .done ∧ s'.threads = s.threads := by
  cases hs with
  | clear htd =>
    refine ⟨htd, ?_⟩
    rw [RefreshState.clear]
    split <;> exact ⟨rfl, rfl⟩

theorem idle_step {s s' : RefreshState} {op : RefreshOp} (h : TeardownInv s)
    (hidle : s.teardown = .done → ∀ t, s.threads t = .idle)
    (hprime : ∀ t, op = .prime t → s.teardown = .notStarted)
    (hclear : op = .clear → ∀ t, (s.threads t).isFreeing = false) (hs : RefreshStep s op s')
    (hd : s'.teardown = .done) : ∀ t, s'.threads t = .idle := by
  rcases done_of_step hs hd with hdone | rfl
  · have hall := hidle hdone
    cases hs with
    | mutate | tick => exact hall
    | ensure _ _ hns => cases hns.symm.trans hdone
    | prime => cases (hprime _ rfl).symm.trans hdone
    | start _ hq => cases (h.notStarted_of_queued hq).symm.trans hdone
    | teardown htd | drain htd | freeCall htd | clear htd => cases htd.symm.trans hdone
    | @check t _ ht | @enter t ht | @primeLock t ht | @sample t ht | @size t _ ht | @count t _ _ ht
    | @walk t _ _ ht | @walkEnd t _ _ _ ht | @publish t _ _ _ ht | @free t _ ht =>
      cases ht.symm.trans (hall t)
  · have ⟨htd, _, hsame⟩ := clear_threads hs
    intro t
    rw [hsame]
    exact RefreshPc.eq_idle ((h.started (by rw [htd]; nofun)).2 t)
      (h.drained (by rw [htd]; rfl) t) (hclear rfl t)

/-- No step of `sysfs_snap_refresh` is left, and every snapshot built has been freed. -/
structure Returned (m : RefreshMemory) : Prop where
  steps : ∀ t, (m.state.threads t).refreshing = false ∧ (m.state.threads t).isFreeing = false
  queued : m.state.queued = false
  freed : ∀ b ∈ m.snaps.blocks, b = none
  bytes : m.snaps.total = 0

section Runs

variable {lock refreshCall : Bool} {registry : List RegEntry} {labels : List RefreshOp}

theorem memory_reached
    (honly : ∀ m m', StepTaken memoryStep (.init lock refreshCall registry) labels m .teardown m' →
      OnlyWorker m.state)
    (hprime : ∀ m m' t,
      StepTaken memoryStep (.init lock refreshCall registry) labels m (.prime t) m' →
      m.state.teardown = .notStarted)
    {m : RefreshMemory} (h : Reached memoryStep (.init lock refreshCall registry) labels m) :
    MemoryInv m ∧ SingleInv m.state ∧ TeardownInv m.state := by
  refine invariant_along
    (P := fun m => MemoryInv m ∧ SingleInv m.state ∧ TeardownInv m.state) ?_ ?_ h
  · exact ⟨memoryInv_init .., singleInv_init .., teardownInv_init ..⟩
  · intro m op m' hstep ⟨hmem, hsingle, htd⟩
    have ⟨s', hs, hm⟩ := Option.map_eq_some_iff.mp hstep.step_eq
    have hspec := (memoryStep_spec hstep.step_eq).1
    refine ⟨memoryInv_step hmem hstep.step_eq, ?_, ?_⟩
    · rw [← hm]
      exact singleInv_step hsingle hs
    · apply teardownInv_step htd hsingle _ _ hspec
      · rintro rfl
        exact honly m m' hstep
      · rintro t rfl
        exact hprime m m' t hstep

/-- In a run whose teardown finds no vnode operation or mount, and in which none starts
afterwards, the refresh has returned and all snapshots are freed when the teardown
returns, exactly if no refresh is releasing a replaced snapshot at its end. -/
theorem teardown_returns_drained_iff
    (honly : ∀ m m', StepTaken memoryStep (.init lock refreshCall registry) labels m .teardown m' →
      OnlyWorker m.state)
    (hprime : ∀ m m' t,
      StepTaken memoryStep (.init lock refreshCall registry) labels m (.prime t) m' →
      m.state.teardown = .notStarted) :
    (∀ m, Reached memoryStep (.init lock refreshCall registry) labels m →
        m.state.teardown = .done → Returned m) ↔
      ∀ m m', StepTaken memoryStep (.init lock refreshCall registry) labels m .clear m' →
        ∀ t, (m.state.threads t).isFreeing = false := by
  constructor
  · intro hall m m' hstep t
    have ⟨_, hdone, hsame⟩ := clear_threads (memoryStep_spec hstep.step_eq).1
    rw [← hsame]
    exact ((hall m' hstep.reached_next hdone).steps t).2
  · intro hclear m hm hdone
    have hinv := fun {m} => memory_reached honly hprime (m := m)
    have hidle : m.state.teardown = .done → ∀ t, m.state.threads t = .idle := by
      apply invariant_along
        (P := fun m => m.state.teardown = .done → ∀ t, m.state.threads t = .idle)
        (fun _ _ => rfl) _ hm
      intro m op m' hstep hidle
      apply idle_step (hinv hstep.reached).2.2 hidle _ _ (memoryStep_spec hstep.step_eq).1
      · rintro t rfl
        exact hprime m m' t hstep
      · rintro rfl
        exact hclear m m' hstep
    have ⟨hmem, hsingle, htd⟩ := hinv hm
    have hnone : ∀ o, m.snaps.owned o = none := by
      intro o
      cases o with
      | global =>
        by_contra hne
        have hlock := hmem.published (Option.isSome_iff_ne_none.mpr hne)
        cases (hsingle.done hdone).symm.trans hlock
      | thread t => exact hmem.owned_none (by rw [hidle hdone t]; rfl)
    have ⟨hfreed, htotal⟩ := hmem.balanced.all_released hnone
    refine ⟨fun t => ?_, (htd.started (by rw [hdone]; nofun)).1, hfreed, htotal⟩
    rw [hidle hdone t]
    exact ⟨rfl, rfl⟩

end Runs

def emptyBuild : BuildInput := { yields := some [], kexts := none, uptime := 0 }

/-- The first snapshot is published, and later a thread call publishes another one. -/
def replaced : List RefreshOp :=
  [.prime 0, .primeLock 0, .sample 0, .size 0 true, .count 0 (some []), .walk 0,
    .walkEnd 0 emptyBuild, .publish 0, .free 0, .tick sysfsSnapMinRebuildNs, .mutate [],
    .ensure 0, .check 0, .enter 0, .start 1, .sample 1, .size 1 true, .walk 1,
    .walkEnd 1 emptyBuild, .publish 1]

/-- The teardown returns before the thread call has freed the first snapshot. -/
theorem teardown_overtakes_release :
    ∃ m m', run memoryStep (.init true true []) replaced = some m ∧ OnlyWorker m.state ∧
      run memoryStep m [.teardown, .drain, .freeCall, .clear] = some m' ∧
      m'.state.teardown = .done ∧ (m'.state.threads 1).isFreeing ∧ m'.snaps.total = 17428 := by
  refine ⟨_, _, rfl, ?_, rfl, rfl, rfl, rfl⟩
  intro t
  match t with
  | 0 => exact Or.inl rfl
  | 1 => exact Or.inr ⟨rfl, Or.inr rfl⟩
  | t + 2 => exact Or.inl rfl

/-- A thread call publishes a snapshot and returns before the teardown goes on. -/
def returnsFirst : List RefreshOp :=
  [.ensure 0, .check 0, .enter 0, .start 1, .sample 1, .size 1 true, .count 1 none, .walk 1,
    .walkEnd 1 emptyBuild, .publish 1, .teardown, .free 1, .drain, .freeCall, .clear]

theorem returnsFirst_drained :
    ∃ m, run memoryStep (.init true true []) returnsFirst = some m ∧
      m.state.teardown = .done ∧ Returned m := by
  have hreturned : ∀ m, Reached memoryStep (.init true true []) returnsFirst m →
      m.state.teardown = .done → Returned m := by
    refine (teardown_returns_drained_iff ?_ ?_).mpr ?_
    · intro m m' ⟨k, hrun, hk, _⟩
      match k with
      | 0 | 1 | 2 | 3 | 4 | 5 | 6 | 7 | 8 | 9 | 11 | 12 | 13 | 14 => cases hk
      | 10 =>
        cases hrun
        intro t
        match t with
        | 0 => exact Or.inl rfl
        | 1 => exact Or.inr ⟨rfl, Or.inr rfl⟩
        | t + 2 => exact Or.inl rfl
      | k + 15 => cases hk
    · intro m m' t ⟨k, hrun, hk, _⟩
      match k with
      | 0 | 1 | 2 | 3 | 4 | 5 | 6 | 7 | 8 | 9 | 10 | 11 | 12 | 13 | 14 => cases hk
      | k + 15 => cases hk
    · intro m m' ⟨k, hrun, hk, _⟩
      match k with
      | 0 | 1 | 2 | 3 | 4 | 5 | 6 | 7 | 8 | 9 | 10 | 11 | 12 | 13 => cases hk
      | 14 =>
        cases hrun
        intro t
        match t with
        | 0 | 1 => rfl
        | t + 2 => rfl
      | k + 15 => cases hk
  exact ⟨_, rfl, rfl, hreturned _ ⟨15, rfl⟩ rfl⟩

end SysFS
