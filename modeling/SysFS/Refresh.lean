import Mathlib
import SysFS.Lib.Transition
import SysFS.SnapBuild

namespace SysFS
open Transition

/-- Where a thread is. `gen` is the generation the thread has sampled; `start` and
`walked` are the generations at the beginning and at the end of a walk, which no code
reads. -/
inductive RefreshPc where
  | idle
  | ensureSampled (gen : ℕ)
  | ensureEnter
  | primeLock
  | refresh
  | sizing (gen : ℕ)
  | counting (gen start : ℕ)
  | sized (gen cap : ℕ)
  | walking (gen cap start : ℕ)
  | publishing (gen walked : ℕ) (newSnap : Option Snapshot)
  | freeing (oldSnap : Option Snapshot)

/-- Where `sysfs_iokit_teardown` is. -/
inductive TeardownPc where
  | notStarted
  | draining
  | asleep
  | freeingCall
  | clearing
  | done
  deriving DecidableEq, Repr

/-- The globals of the snapshot code, the registry and the threads. `registryAt` has the
entries of the registry at each generation, and `clock` is the uptime in nanoseconds.
`queued` says that a run of the thread call is queued and not started. -/
structure RefreshState where
  generation : ℕ
  registryAt : ℕ → List RegEntry
  clock : ℕ
  lock : Bool
  refreshCall : Bool
  queued : Bool
  snapshot : Option Snapshot
  building : Bool
  refreshPending : Bool
  snapGen : ℕ
  snapGenValid : Bool
  lastBuildUptime : ℕ
  lastBuildValid : Bool
  lastNodeCount : ℕ
  threads : ℕ → RefreshPc
  teardown : TeardownPc

/-- The globals after `sysfs_iokit_init`, whose two allocations may fail. -/
def RefreshState.init (lock refreshCall : Bool) (registry : List RegEntry) : RefreshState where
  generation := 0
  registryAt := fun _ => registry
  clock := 0
  lock := lock
  refreshCall := refreshCall
  queued := false
  snapshot := none
  building := false
  refreshPending := false
  snapGen := 0
  snapGenValid := false
  lastBuildUptime := 0
  lastBuildValid := false
  lastNodeCount := 0
  threads := fun _ => .idle
  teardown := .notStarted

def sysfsSnapTtlNs : ℕ := 2000000000
def sysfsSnapMinRebuildNs : ℕ := 30000000000

namespace RefreshState

variable (s : RefreshState)

def registry : List RegEntry := s.registryAt s.generation

def setPc (t : ℕ) (pc : RefreshPc) : RefreshState :=
  { s with threads := Function.update s.threads t pc }

/-- The published snapshot is taken as current for a sampled generation. -/
def current (gen : ℕ) : Bool := s.snapshot.isSome && s.snapGenValid && s.snapGen == gen

def withinTtl : Bool := s.snapshot.any fun snap => s.clock - snap.uptime ≤ sysfsSnapTtlNs

/-- There is a snapshot, and the last build is too recent for another one. -/
def builtRecently : Bool :=
  s.snapshot.isSome && s.lastBuildValid &&
    decide (s.clock - s.lastBuildUptime < sysfsSnapMinRebuildNs)

/-- The section of `sysfs_snap_ensure` under the lock. -/
def ensureCheck (t gen : ℕ) : RefreshState :=
  if s.current gen || s.withinTtl then s.setPc t .idle
  else if s.builtRecently then s.setPc t .idle
  else if !s.refreshPending && !s.building && s.refreshCall then
    { s with refreshPending := true, building := true }.setPc t .ensureEnter
  else s.setPc t .idle

/-- The section of `sysfs_iokit_prime` under the lock. -/
def primeCheck (t : ℕ) : RefreshState :=
  if s.snapshot.isSome || s.building then s.setPc t .idle
  else { s with building := true }.setPc t .refresh

/-- The start of `sysfs_snap_build`. -/
def buildSize (t gen : ℕ) (allocated : Bool) : RefreshState :=
  if !allocated then s.setPc t (.publishing gen s.generation none)
  else if s.lastNodeCount ≠ 0 then s.setPc t (.sized gen (buildCap s.lastNodeCount))
  else s.setPc t (.counting gen s.generation)

/-- The rest of `sysfs_snap_build`, when the walk has ended. -/
def buildWalked (t gen cap : ℕ) (inp : BuildInput) : RefreshState :=
  let built := snapBuildSized cap s.lastNodeCount { inp with uptime := s.clock }
  { s with lastNodeCount := built.2 }.setPc t (.publishing gen s.generation built.1)

/-- The wakeup of a teardown that waits for `g_building`. -/
def wakeTeardown : RefreshState :=
  { s with teardown := if s.teardown = .asleep then .draining else s.teardown }

/-- The section of `sysfs_snap_refresh` under the lock. -/
def publish (t gen : ℕ) (newSnap : Option Snapshot) : RefreshState :=
  let s' :=
    match newSnap with
    | none => s.setPc t (.freeing none)
    | some snap =>
      { s with
        snapshot := some snap
        snapGen := gen
        snapGenValid := true
        lastNodeCount := snap.nodeCount
        lastBuildUptime := s.clock
        lastBuildValid := true }.setPc t (.freeing s.snapshot)
  { s' with building := false, refreshPending := false }.wakeTeardown

/-- The start of `sysfs_iokit_teardown`. `thread_call_cancel` takes a queued run away. -/
def startTeardown : RefreshState :=
  if s.refreshCall then
    { s with queued := false, teardown := if s.lock then .draining else .freeingCall }
  else { s with teardown := .clearing }

/-- The end of `sysfs_iokit_teardown`. -/
def clear : RefreshState :=
  if s.lock then
    { s with
      lock := false
      snapshot := none
      snapGenValid := false
      building := false
      lastBuildValid := false
      lastBuildUptime := 0
      lastNodeCount := 0
      refreshPending := false
      teardown := .done }
  else { s with teardown := .done }

end RefreshState

inductive RefreshOp where
  | mutate (registry : List RegEntry)
  | tick (ns : ℕ)
  | ensure (t : ℕ)
  | check (t : ℕ)
  | enter (t : ℕ)
  | start (t : ℕ)
  | prime (t : ℕ)
  | primeLock (t : ℕ)
  | sample (t : ℕ)
  | size (t : ℕ) (allocated : Bool)
  | count (t : ℕ) (yields : Option (List RegEntry))
  | walk (t : ℕ)
  | walkEnd (t : ℕ) (inp : BuildInput)
  | publish (t : ℕ)
  | free (t : ℕ)
  | teardown
  | drain
  | freeCall
  | clear

/-- One step: a section under `g_lock`, or a part of a function between two reads of state that
other threads may change. No call of `sysfs_snap_ensure` begins once the teardown has started,
and a section under a lock that was freed is not a step. -/
def refreshStep (s : RefreshState) : RefreshOp → Option RefreshState
  | .mutate registry =>
    some { s with
      generation := s.generation + 1
      registryAt := Function.update s.registryAt (s.generation + 1) registry }
  | .tick ns => some { s with clock := s.clock + ns }
  | .ensure t =>
    match s.threads t with
    | .idle =>
      if s.lock ∧ s.teardown = .notStarted then some (s.setPc t (.ensureSampled s.generation))
      else none
    | _ => none
  | .check t =>
    match s.threads t with
    | .ensureSampled gen => if s.lock then some (s.ensureCheck t gen) else none
    | _ => none
  | .enter t =>
    match s.threads t with
    | .ensureEnter => if s.refreshCall then some ({ s with queued := true }.setPc t .idle) else none
    | _ => none
  | .start t =>
    match s.threads t with
    | .idle => if s.queued then some ({ s with queued := false }.setPc t .refresh) else none
    | _ => none
  | .prime t =>
    match s.threads t with
    | .idle => if s.lock then some (s.setPc t .primeLock) else none
    | _ => none
  | .primeLock t =>
    match s.threads t with
    | .primeLock => if s.lock then some (s.primeCheck t) else none
    | _ => none
  | .sample t =>
    match s.threads t with
    | .refresh => some (s.setPc t (.sizing s.generation))
    | _ => none
  | .size t allocated =>
    match s.threads t with
    | .sizing gen => some (s.buildSize t gen allocated)
    | _ => none
  | .count t yields =>
    match s.threads t with
    | .counting gen _ => some (s.setPc t (.sized gen (buildCap (sysfsCountEntries yields))))
    | _ => none
  | .walk t =>
    match s.threads t with
    | .sized gen cap => some (s.setPc t (.walking gen cap s.generation))
    | _ => none
  | .walkEnd t inp =>
    match s.threads t with
    | .walking gen cap _ => some (s.buildWalked t gen cap inp)
    | _ => none
  | .publish t =>
    match s.threads t with
    | .publishing gen _ newSnap => if s.lock then some (s.publish t gen newSnap) else none
    | _ => none
  | .free t =>
    match s.threads t with
    | .freeing _ => some (s.setPc t .idle)
    | _ => none
  | .teardown => if s.teardown = .notStarted then some s.startTeardown else none
  | .drain =>
    if s.teardown = .draining then
      some { s with teardown := if s.building then .asleep else .freeingCall }
    else none
  | .freeCall =>
    if s.teardown = .freeingCall then some { s with refreshCall := false, teardown := .clearing }
    else none
  | .clear => if s.teardown = .clearing then some s.clear else none

inductive RefreshStep (s : RefreshState) : RefreshOp → RefreshState → Prop where
  | mutate (registry : List RegEntry) :
    RefreshStep s (.mutate registry) { s with
      generation := s.generation + 1
      registryAt := Function.update s.registryAt (s.generation + 1) registry }
  | tick (ns : ℕ) : RefreshStep s (.tick ns) { s with clock := s.clock + ns }
  | ensure {t : ℕ} (ht : s.threads t = .idle) (hlock : s.lock)
      (hstart : s.teardown = .notStarted) :
    RefreshStep s (.ensure t) (s.setPc t (.ensureSampled s.generation))
  | check {t gen : ℕ} (ht : s.threads t = .ensureSampled gen) (hlock : s.lock) :
    RefreshStep s (.check t) (s.ensureCheck t gen)
  | enter {t : ℕ} (ht : s.threads t = .ensureEnter) (hcall : s.refreshCall) :
    RefreshStep s (.enter t) ({ s with queued := true }.setPc t .idle)
  | start {t : ℕ} (ht : s.threads t = .idle) (hqueued : s.queued) :
    RefreshStep s (.start t) ({ s with queued := false }.setPc t .refresh)
  | prime {t : ℕ} (ht : s.threads t = .idle) (hlock : s.lock) :
    RefreshStep s (.prime t) (s.setPc t .primeLock)
  | primeLock {t : ℕ} (ht : s.threads t = .primeLock) (hlock : s.lock) :
    RefreshStep s (.primeLock t) (s.primeCheck t)
  | sample {t : ℕ} (ht : s.threads t = .refresh) :
    RefreshStep s (.sample t) (s.setPc t (.sizing s.generation))
  | size {t gen : ℕ} (ht : s.threads t = .sizing gen) (allocated : Bool) :
    RefreshStep s (.size t allocated) (s.buildSize t gen allocated)
  | count {t gen start : ℕ} (ht : s.threads t = .counting gen start)
      (yields : Option (List RegEntry)) :
    RefreshStep s (.count t yields) (s.setPc t (.sized gen (buildCap (sysfsCountEntries yields))))
  | walk {t gen cap : ℕ} (ht : s.threads t = .sized gen cap) :
    RefreshStep s (.walk t) (s.setPc t (.walking gen cap s.generation))
  | walkEnd {t gen cap start : ℕ} (ht : s.threads t = .walking gen cap start)
      (inp : BuildInput) :
    RefreshStep s (.walkEnd t inp) (s.buildWalked t gen cap inp)
  | publish {t gen walked : ℕ} {newSnap : Option Snapshot}
      (ht : s.threads t = .publishing gen walked newSnap) (hlock : s.lock) :
    RefreshStep s (.publish t) (s.publish t gen newSnap)
  | free {t : ℕ} {oldSnap : Option Snapshot} (ht : s.threads t = .freeing oldSnap) :
    RefreshStep s (.free t) (s.setPc t .idle)
  | teardown (htd : s.teardown = .notStarted) : RefreshStep s .teardown s.startTeardown
  | drain (htd : s.teardown = .draining) :
    RefreshStep s .drain
      { s with teardown := if s.building then .asleep else .freeingCall }
  | freeCall (htd : s.teardown = .freeingCall) :
    RefreshStep s .freeCall { s with refreshCall := false, teardown := .clearing }
  | clear (htd : s.teardown = .clearing) : RefreshStep s .clear s.clear

theorem refreshStep_spec {s s' : RefreshState} {op : RefreshOp}
    (h : refreshStep s op = some s') : RefreshStep s op s' := by
  cases op with rw [refreshStep] at h
  | mutate registry =>
    cases h
    exact .mutate registry
  | tick ns =>
    cases h
    exact .tick ns
  | ensure t =>
    split at h
    · next ht =>
      have ⟨hc, hs⟩ := Option.ite_none_right_eq_some.mp h
      cases hs
      exact .ensure ht hc.1 hc.2
    · cases h
  | check t =>
    split at h
    · next gen ht =>
      have ⟨hlock, hs⟩ := Option.ite_none_right_eq_some.mp h
      cases hs
      exact .check ht hlock
    · cases h
  | enter t =>
    split at h
    · next ht =>
      have ⟨hcall, hs⟩ := Option.ite_none_right_eq_some.mp h
      cases hs
      exact .enter ht hcall
    · cases h
  | start t =>
    split at h
    · next ht =>
      have ⟨hqueued, hs⟩ := Option.ite_none_right_eq_some.mp h
      cases hs
      exact .start ht hqueued
    · cases h
  | prime t =>
    split at h
    · next ht =>
      have ⟨hlock, hs⟩ := Option.ite_none_right_eq_some.mp h
      cases hs
      exact .prime ht hlock
    · cases h
  | primeLock t =>
    split at h
    · next ht =>
      have ⟨hlock, hs⟩ := Option.ite_none_right_eq_some.mp h
      cases hs
      exact .primeLock ht hlock
    · cases h
  | sample t =>
    split at h
    · next ht =>
      cases h
      exact .sample ht
    · cases h
  | size t allocated =>
    split at h
    · next gen ht =>
      cases h
      exact .size ht allocated
    · cases h
  | count t yields =>
    split at h
    · next gen start ht =>
      cases h
      exact .count ht yields
    · cases h
  | walk t =>
    split at h
    · next gen cap ht =>
      cases h
      exact .walk ht
    · cases h
  | walkEnd t inp =>
    split at h
    · next gen cap start ht =>
      cases h
      exact .walkEnd ht inp
    · cases h
  | publish t =>
    split at h
    · next gen walked newSnap ht =>
      have ⟨hlock, hs⟩ := Option.ite_none_right_eq_some.mp h
      cases hs
      exact .publish ht hlock
    · cases h
  | free t =>
    split at h
    · next oldSnap ht =>
      cases h
      exact .free ht
    · cases h
  | teardown =>
    have ⟨htd, hs⟩ := Option.ite_none_right_eq_some.mp h
    cases hs
    exact .teardown htd
  | drain =>
    have ⟨htd, hs⟩ := Option.ite_none_right_eq_some.mp h
    cases hs
    exact .drain htd
  | freeCall =>
    have ⟨htd, hs⟩ := Option.ite_none_right_eq_some.mp h
    cases hs
    exact .freeCall htd
  | clear =>
    have ⟨htd, hs⟩ := Option.ite_none_right_eq_some.mp h
    cases hs
    exact .clear htd

namespace RefreshState

variable (s : RefreshState) (t gen : ℕ)

theorem ensureCheck_eq : ∃ pending building pc,
    s.ensureCheck t gen =
      { s with refreshPending := pending, building := building }.setPc t pc ∧
      (pc = .idle ∨ pc = .ensureEnter) := by
  rw [ensureCheck]
  split
  · exact ⟨_, _, _, rfl, Or.inl rfl⟩
  · split
    · exact ⟨_, _, _, rfl, Or.inl rfl⟩
    · split
      · exact ⟨_, _, _, rfl, Or.inr rfl⟩
      · exact ⟨_, _, _, rfl, Or.inl rfl⟩

theorem primeCheck_eq : ∃ building pc,
    s.primeCheck t = { s with building := building }.setPc t pc ∧
      (pc = .idle ∨ pc = .refresh) := by
  rw [primeCheck]
  split
  · exact ⟨_, _, rfl, Or.inl rfl⟩
  · exact ⟨_, _, rfl, Or.inr rfl⟩

theorem buildSize_eq (allocated : Bool) : ∃ pc,
    s.buildSize t gen allocated = s.setPc t pc ∧
      (pc = .publishing gen s.generation none ∨ pc = .sized gen (buildCap s.lastNodeCount) ∨
        pc = .counting gen s.generation) := by
  rw [buildSize]
  split
  · exact ⟨_, rfl, Or.inl rfl⟩
  · split
    · exact ⟨_, rfl, Or.inr (Or.inl rfl)⟩
    · exact ⟨_, rfl, Or.inr (Or.inr rfl)⟩

theorem startTeardown_eq : ∃ queued pc,
    s.startTeardown = { s with queued := queued, teardown := pc } := by
  rw [startTeardown]
  split
  · exact ⟨_, _, rfl⟩
  · exact ⟨_, _, rfl⟩

theorem publish_threads (newSnap : Option Snapshot) : ∃ old,
    (s.publish t gen newSnap).threads = Function.update s.threads t (.freeing old) := by
  cases newSnap with
  | none => exact ⟨_, rfl⟩
  | some snap => exact ⟨_, rfl⟩

theorem clear_threads : s.clear.threads = s.threads := by
  rw [clear]
  split
  · rfl
  · rfl

end RefreshState

end SysFS
