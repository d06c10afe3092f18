import SysFS.Lookup
import SysFS.RefreshForward
import SysFS.RefreshMemory

namespace SysFS
open Transition

/-- What `sysfs_init` allocates. -/
inductive KextResource where
  | osmallocTag
  | lckGrpAttr
  | lckGrp
  | hashMutex
  deriving DecidableEq, Repr

/-- The static data of the image; a pointer counts as whether it is not `NULL`. `live` has
what is allocated and not freed, which outlives the image. -/
structure KextGlobals where
  initialized : Bool
  osmallocTag : Bool
  lckGrp : Bool
  hashMutex : Bool
  live : Multiset KextResource
  deriving DecidableEq

/-- A program on the static data. Freeing or using what is not allocated is a fault. -/
abbrev KextProg := StateT KextGlobals Option

def KextResource.alloc (r : KextResource) (succeeds : Bool) : KextProg Bool := fun g =>
  some (succeeds, if succeeds then { g with live := r ::ₘ g.live } else g)

def KextResource.use (r : KextResource) : KextProg Unit := fun g =>
  if r ∈ g.live then some ((), g) else none

def KextResource.free (r : KextResource) : KextProg Unit := fun g =>
  if r ∈ g.live then some ((), { g with live := g.live.erase r }) else none

/-- Which allocations of `sysfs_init` succeed. -/
structure InitAllocs where
  tag : Bool := true
  attr : Bool := true
  grp : Bool := true
  mutex : Bool := true
  deriving DecidableEq, Repr

/-- The label `fail_tag` of `sysfs_init`. -/
def failTag (error : Errno) : KextProg (Except Errno Unit) := do
  KextResource.osmallocTag.free
  modify fun g => { g with osmallocTag := false }
  return .error error

/-- The label `fail_grp` of `sysfs_init`. -/
def failGrp (error : Errno) : KextProg (Except Errno Unit) := do
  KextResource.lckGrp.free
  modify fun g => { g with lckGrp := false }
  failTag error

def sysfsInit (allocs : InitAllocs) : KextProg (Except Errno Unit) := do
  if (← get).initialized then return .ok ()
  let tag ← KextResource.osmallocTag.alloc allocs.tag
  modify fun g => { g with osmallocTag := tag }
  if !tag then return .error .ENOMEM
  let attr ← KextResource.lckGrpAttr.alloc allocs.attr
  if !attr then failTag .ENOMEM
  else
    let grp ← KextResource.lckGrp.alloc allocs.grp
    modify fun g => { g with lckGrp := grp }
    KextResource.lckGrpAttr.free
    if !grp then failTag .ENOMEM
    else
      KextResource.lckGrp.use
      let mutex ← KextResource.hashMutex.alloc allocs.mutex
      modify fun g => { g with hashMutex := mutex }
      if !mutex then failGrp .ENOMEM
      else
        modify fun g => { g with initialized := true }
        return .ok ()

def sysfsFini : KextProg Unit := do
  if (← get).osmallocTag then
    KextResource.osmallocTag.free
    modify fun g => { g with osmallocTag := false }
  if (← get).hashMutex then
    -- `lck_mtx_free` takes the group of the mutex
    KextResource.lckGrp.use
    KextResource.hashMutex.free
    modify fun g => { g with hashMutex := false }
  if (← get).lckGrp then
    KextResource.lckGrp.free
    modify fun g => { g with lckGrp := false }

namespace KextGlobals

/-- The static data of a new image, when nothing is left of an earlier one. -/
def fresh : KextGlobals := ⟨false, false, false, false, 0⟩

def ready : KextGlobals := ⟨true, true, true, true, {.hashMutex, .lckGrp, .osmallocTag}⟩

/-- The static data after `sysfs_fini`, which does not reset `initialized`. -/
def finished : KextGlobals := ⟨true, false, false, false, 0⟩

end KextGlobals

/-- Whatever allocation fails, `sysfs_init` has released what it allocated before. -/
theorem sysfsInit_fresh (allocs : InitAllocs) :
    sysfsInit allocs .fresh = some (.ok (), .ready) ∨
      sysfsInit allocs .fresh = some (.error .ENOMEM, .fresh) := by
  obtain ⟨tag, attr, grp, mutex⟩ := allocs
  cases tag <;> cases attr <;> cases grp <;> cases mutex
  all_goals first | exact Or.inl rfl | exact Or.inr rfl

theorem sysfsInit_ready (allocs : InitAllocs) :
    sysfsInit allocs .ready = some (.ok (), .ready) := rfl

theorem sysfsFini_ready : sysfsFini .ready = some ((), .finished) := by decide

inductive SysctlOid where
  | node
  | vfsGetattr
  | vnops
  | snapBuilds
  | snapBytes
  | liveNodes
  deriving DecidableEq, Repr

/-- The calls of `sysfs_sysctl_register`. -/
def sysctlRegister : List SysctlOid :=
  [.node, .vfsGetattr, .vnops, .snapBuilds, .snapBytes, .liveNodes]

/-- The calls of `sysfs_sysctl_unregister`. -/
def sysctlUnregister : List SysctlOid :=
  [.liveNodes, .snapBytes, .snapBuilds, .vnops, .vfsGetattr, .node]

/-- Where `sysfs_start` or `sysfs_stop` is. The oids still to register or to take away are
listed; `sysfs_start` has returned when none is left to register. -/
inductive KextPc where
  | unloaded
  | starting
  | initialized
  | added
  | iokitInit
  | registering (left : List SysctlOid)
  | unregistering (left : List SysctlOid)
  | teardown
  deriving DecidableEq, Repr

/-- `registered` says that VFS has the file system in its table. The snapshot code has no
data before `sysfs_iokit_init`. `mounts` has the mounts from the call of `sysfs_mount` to the
end of `sysfs_unmount`, and `ops` the threads in an operation on a mount. -/
structure KextState where
  pc : KextPc
  globals : KextGlobals
  vfsTableRef : Bool
  registered : Bool
  oids : List SysctlOid
  snap : Option RefreshMemory
  mounts : Finset ℕ
  ops : Finset (ℕ × ℕ)

namespace KextState

def init : KextState := ⟨.unloaded, .fresh, false, false, [], none, ∅, ∅⟩

variable (s : KextState)

def inOp (t : ℕ) : Prop := ∃ p ∈ s.ops, p.1 = t

instance (t : ℕ) : Decidable (s.inOp t) := inferInstanceAs (Decidable (∃ p ∈ s.ops, p.1 = t))

def outOfSnap (t : ℕ) : Bool :=
  match s.snap with
  | none => true
  | some m =>
    match m.state.threads t with
    | .idle => true
    | _ => false

/-- A call of `sysfs_snap_ensure` or `sysfs_iokit_prime`, which return at once when `g_lock`
is null. -/
def callSnap (t : ℕ) (pc : RefreshState → RefreshPc) : Option KextState :=
  if s.inOp t ∧ s.outOfSnap t then
    match s.snap with
    | none => some s
    | some m =>
      if m.state.lock then
        some { s with snap := some { m with state := m.state.setPc t (pc m.state) } }
      else some s
  else none

def stepSnap (op : RefreshOp) : Option KextState :=
  match s.snap with
  | none => none
  | some m => (memoryStep m op).map fun m' => { s with snap := some m' }

end KextState

/-- `init` and `vfsInit` are the two calls of `sysfs_init`: the one of `sysfs_start`, and the
one that VFS makes for a file system it adds. -/
inductive KextOp where
  | load
  | init (allocs : InitAllocs)
  | fsadd (added : Bool)
  | vfsInit (allocs : InitAllocs)
  | iokitInit (lock refreshCall : Bool) (registry : List RegEntry)
  | registerOid
  | stop (uuid : Bool)
  | unregisterOid
  | fini
  | mount (mp : ℕ)
  | unmount (mp : ℕ)
  | enter (t mp : ℕ)
  | leave (t mp : ℕ)
  | snap (op : RefreshOp)

/-- One step. VFS mounts a file system that is in its table, keeps a mount while a thread is
in it, and does not remove a file system with mounts. -/
def kextStep (s : KextState) : KextOp → Option KextState
  | .load =>
    if s.pc = .unloaded then
      some { s with
        pc := .starting
        globals := { KextGlobals.fresh with live := s.globals.live }
        vfsTableRef := false
        snap := none }
    else none
  | .init allocs =>
    if s.pc = .starting then
      (sysfsInit allocs s.globals).map fun r =>
        { s with
          globals := r.2
          pc := match r.1 with
            | .ok _ => .initialized
            | .error _ => .unloaded }
    else none
  | .fsadd added =>
    if s.pc = .initialized then
      if added then some { s with pc := .added, vfsTableRef := true, registered := true }
      else
        (sysfsFini s.globals).map fun r =>
          { s with pc := .unloaded, vfsTableRef := false, globals := r.2 }
    else none
  | .vfsInit allocs =>
    if s.pc = .added then
      (sysfsInit allocs s.globals).map fun r => { s with pc := .iokitInit, globals := r.2 }
    else none
  | .iokitInit lock refreshCall registry =>
    if s.pc = .iokitInit ∧ s.snap.isNone then
      some { s with
        pc := .registering sysctlRegister
        snap := some (.init lock refreshCall registry) }
    else none
  | .registerOid =>
    match s.pc with
    | .registering (oid :: left) => some { s with pc := .registering left, oids := oid :: s.oids }
    | _ => none
  | .stop uuid =>
    if s.pc = .registering [] then
      if !uuid then some s
      else if s.vfsTableRef then
        if s.mounts.Nonempty then some s
        else some { s with pc := .unregistering sysctlUnregister, registered := false }
      else some { s with pc := .unregistering sysctlUnregister }
    else none
  | .unregisterOid =>
    match s.pc with
    | .unregistering (oid :: left) =>
      some { s with pc := .unregistering left, oids := s.oids.erase oid }
    | _ => none
  | .fini =>
    if s.pc = .teardown ∧ s.snap.all fun m => decide (m.state.teardown = .done) then
      (sysfsFini s.globals).map fun r => { s with pc := .unloaded, globals := r.2 }
    else none
  | .mount mp =>
    if s.registered ∧ mp ∉ s.mounts then some { s with mounts := insert mp s.mounts } else none
  | .unmount mp =>
    if mp ∈ s.mounts ∧ ∀ p ∈ s.ops, p.2 ≠ mp then some { s with mounts := s.mounts.erase mp }
    else none
  | .enter t mp =>
    if mp ∈ s.mounts ∧ ¬s.inOp t ∧ s.outOfSnap t then some { s with ops := insert (t, mp) s.ops }
    else none
  | .leave t mp =>
    if (t, mp) ∈ s.ops ∧ s.outOfSnap t then some { s with ops := s.ops.erase (t, mp) } else none
  | .snap (.ensure t) => s.callSnap t fun r => .ensureSampled r.generation
  | .snap (.prime t) => s.callSnap t fun _ => .primeLock
  | .snap .teardown =>
    if s.pc = .unregistering [] then
      (s.stepSnap .teardown).map fun s' => { s' with pc := .teardown }
    else none
  | .snap (.start t) => if s.inOp t then none else s.stepSnap (.start t)
  | .snap op => s.stepSnap op

/-- A run of the snapshot code whose teardown finds no vnode operation or mount, and in which
no mount primes a snapshot afterwards. -/
structure Guarded (lock refreshCall : Bool) (registry : List RegEntry) (labels : List RefreshOp) :
    Prop where
  only : ∀ m m', StepTaken memoryStep (.init lock refreshCall registry) labels m .teardown m' →
    OnlyWorker m.state
  prime : ∀ m m' t,
    StepTaken memoryStep (.init lock refreshCall registry) labels m (.prime t) m' →
    m.state.teardown = .notStarted

def GuardedRun (m : RefreshMemory) : Prop :=
  ∃ lock refreshCall registry labels,
    run memoryStep (.init lock refreshCall registry) labels = some m ∧
      Guarded lock refreshCall registry labels

theorem guardedRun_init (lock refreshCall : Bool) (registry : List RegEntry) :
    GuardedRun (.init lock refreshCall registry) := by
  refine ⟨lock, refreshCall, registry, [], rfl, ?_, ?_⟩
  · rintro m m' ⟨k, -, hk, -⟩
    cases hk
  · rintro m m' t ⟨k, -, hk, -⟩
    cases hk

theorem GuardedRun.step {m m' : RefreshMemory} {op : RefreshOp} (h : GuardedRun m)
    (hs : memoryStep m op = some m') (honly : op = .teardown → OnlyWorker m.state)
    (hprime : ∀ t, op = .prime t → m.state.teardown = .notStarted) : GuardedRun m' := by
  obtain ⟨lock, refreshCall, registry, labels, hrun, hg⟩ := h
  refine ⟨lock, refreshCall, registry, labels ++ [op], ?_, ?_, ?_⟩
  · rw [run_concat, hrun]
    exact hs
  · intro m₁ m₂ htaken
    rcases htaken.of_concat with hold | ⟨hlast, hop⟩
    · exact hg.only m₁ m₂ hold
    · cases hrun.symm.trans hlast
      exact honly hop.symm
  · intro m₁ m₂ t htaken
    rcases htaken.of_concat with hold | ⟨hlast, hop⟩
    · exact hg.prime m₁ m₂ t hold
    · cases hrun.symm.trans hlast
      exact hprime t hop.symm

theorem GuardedRun.inv {m : RefreshMemory} (h : GuardedRun m) :
    MemoryInv m ∧ SingleInv m.state ∧ TeardownInv m.state := by
  obtain ⟨lock, refreshCall, registry, labels, hrun, hg⟩ := h
  exact memory_reached hg.only hg.prime (reached_of_run hrun)

def WorkerPc (refreshCall : Bool) (pc : RefreshPc) : Prop :=
  pc = .idle ∨ refreshCall ∧ (pc.refreshing ∨ pc.isFreeing)

section Steps
variable {s s' : RefreshState} {op : RefreshOp}

theorem workerPc_step (hs : RefreshStep s op s') (hcall : s.queued → s.refreshCall)
    (hfree : op ≠ .freeCall) {u : ℕ} (hensure : op ≠ .ensure u) (hprime : op ≠ .prime u)
    (h : WorkerPc s.refreshCall (s.threads u)) : WorkerPc s'.refreshCall (s'.threads u) := by
  -- a step of thread `t` that ends at `pc`
  have hmove : ∀ t pc, (u = t → WorkerPc s.refreshCall pc) →
      WorkerPc s.refreshCall (Function.update s.threads t pc u) := by
    intro t pc hpc
    by_cases hut : u = t
    · rw [hut, Function.update_self]
      exact hpc hut
    · rw [Function.update_of_ne hut]
      exact h
  -- a thread in a vnode operation is no run of the thread call
  have hout : ∀ t, (s.threads t).outside → u ≠ t := by
    rintro t ht rfl
    rcases h with hidle | ⟨-, hr | hf⟩
    · rw [hidle] at ht
      cases ht
    all_goals
      cases hpc : s.threads u with rw [hpc] at ht
      | ensureSampled | ensureEnter | primeLock =>
        simp_all [RefreshPc.refreshing, RefreshPc.isFreeing]
      | _ => cases ht
  -- a run that has not returned goes on
  have hgo : ∀ t pc, (s.threads t).refreshing → pc.refreshing ∨ pc.isFreeing →
      u = t → WorkerPc s.refreshCall pc := by
    rintro t pc ht hpc rfl
    rcases h with hidle | ⟨hc, -⟩
    · rw [hidle] at ht
      cases ht
    · exact Or.inr ⟨hc, hpc⟩
  cases hs with
  | mutate | tick | drain => exact h
  | ensure => exact hmove _ _ fun hut => absurd (hut ▸ rfl) hensure
  | prime => exact hmove _ _ fun hut => absurd (hut ▸ rfl) hprime
  | @check t gen ht =>
    obtain ⟨_, _, pc, heq, -⟩ := s.ensureCheck_eq t gen
    rw [heq]
    exact hmove t pc fun hut => absurd hut (hout t (by rw [ht]; rfl))
  | @enter t ht => exact hmove t _ fun hut => absurd hut (hout t (by rw [ht]; rfl))
  | start _ hq => exact hmove _ _ fun _ => Or.inr ⟨hcall hq, Or.inl rfl⟩
  | @primeLock t ht =>
    obtain ⟨_, pc, heq, -⟩ := s.primeCheck_eq t
    rw [heq]
    exact hmove t pc fun hut => absurd hut (hout t (by rw [ht]; rfl))
  | @sample t ht => exact hmove t _ (hgo t _ (by rw [ht]; rfl) (Or.inl rfl))
  | @size t gen ht allocated =>
    obtain ⟨pc, heq, hpc⟩ := s.buildSize_eq t gen allocated
    rw [heq]
    refine hmove t pc (hgo t pc (by rw [ht]; rfl) (Or.inl ?_))
    rcases hpc with rfl | rfl | rfl <;> rfl
  | @count t _ _ ht => exact hmove t _ (hgo t _ (by rw [ht]; rfl) (Or.inl rfl))
  | @walk t _ _ ht => exact hmove t _ (hgo t _ (by rw [ht]; rfl) (Or.inl rfl))
  | @walkEnd t _ _ _ ht => exact hmove t _ (hgo t _ (by rw [ht]; rfl) (Or.inl rfl))
  | @publish t gen _ newSnap ht =>
    obtain ⟨old, hthreads⟩ := s.publish_threads t gen newSnap
    have hsame : (s.publish t gen newSnap).refreshCall = s.refreshCall := by
      cases newSnap <;> rfl
    rw [hsame, hthreads]
    exact hmove t _ (hgo t _ (by rw [ht]; rfl) (Or.inr rfl))
  | free => exact hmove _ _ fun _ => Or.inl rfl
  | teardown =>
    obtain ⟨_, _, heq⟩ := s.startTeardown_eq
    rw [heq]
    exact h
  | freeCall => exact absurd rfl hfree
  | clear =>
    rw [RefreshState.clear_threads]
    rw [RefreshState.clear]
    split <;> exact h

theorem freeCall_of_step (hs : RefreshStep s .freeCall s') : s.teardown = .freeingCall := by
  cases hs with
  | freeCall htd => exact htd

/-- The thread call is there for a thread that is about to enqueue it, and is freed when the
teardown goes on to the lock. -/
structure CallInv (s : RefreshState) : Prop where
  enters : ∀ t, s.threads t = .ensureEnter → s.refreshCall
  released : s.teardown = .clearing ∨ s.teardown = .done → s.refreshCall = false

theorem CallInv.move {t : ℕ} {pc : RefreshPc} (h : CallInv s) (hm : Moves s s' t pc)
    (hpc : pc = .ensureEnter → s.refreshCall) : CallInv s' := by
  refine ⟨fun u hu => ?_, ?_⟩
  · rw [hm.refreshCall]
    rw [hm.threads] at hu
    by_cases hut : u = t
    · rw [hut, Function.update_self] at hu
      exact hpc hu
    · rw [Function.update_of_ne hut] at hu
      exact h.enters u hu
  · rw [hm.teardown, hm.refreshCall]
    exact h.released

theorem CallInv.ensureCheck (h : CallInv s) (t gen : ℕ) : CallInv (s.ensureCheck t gen) := by
  have hidle : CallInv (s.setPc t .idle) := h.move (moves_setPc s t .idle) (by rintro ⟨⟩)
  rw [RefreshState.ensureCheck]
  split
  · exact hidle
  · split
    · exact hidle
    · split
      · next hcall =>
        refine h.move ⟨rfl, rfl, rfl, rfl⟩ fun _ => ?_
        simp only [Bool.and_eq_true] at hcall
        exact hcall.2
      · exact hidle

theorem CallInv.publish (h : CallInv s) (t gen : ℕ) (newSnap : Option Snapshot) :
    CallInv (s.publish t gen newSnap) := by
  obtain ⟨old, hthreads⟩ := s.publish_threads t gen newSnap
  have hsame : (s.publish t gen newSnap).refreshCall = s.refreshCall := by
    cases newSnap <;> rfl
  refine ⟨fun u hu => ?_, fun htd => ?_⟩
  · rw [hthreads] at hu
    rw [hsame]
    by_cases hut : u = t
    · rw [hut, Function.update_self] at hu
      cases hu
    · rw [Function.update_of_ne hut] at hu
      exact h.enters u hu
  · rw [DrainInv.publish_teardown] at htd
    rw [hsame]
    apply h.released
    split at htd
    · simp at htd
    · exact htd

theorem callInv_step (h : CallInv s) (htd : TeardownInv s) (hs : RefreshStep s op s') :
    CallInv s' := by
  cases hs with
  | mutate | tick => exact ⟨h.enters, h.released⟩
  | check => exact h.ensureCheck _ _
  | @primeLock t =>
    obtain ⟨_, pc, heq, hpc⟩ := s.primeCheck_eq t
    rw [heq]
    refine h.move ⟨rfl, rfl, rfl, rfl⟩ ?_
    rintro rfl
    simp at hpc
  | @size t gen _ allocated =>
    obtain ⟨pc, heq, hpc⟩ := s.buildSize_eq t gen allocated
    rw [heq]
    refine h.move ⟨rfl, rfl, rfl, rfl⟩ ?_
    rintro rfl
    simp at hpc
  | ensure | enter | start | prime | sample | count | walk | walkEnd | free =>
    exact h.move ⟨rfl, rfl, rfl, rfl⟩ (by rintro ⟨⟩)
  | publish => exact h.publish _ _ _
  | teardown =>
    rw [RefreshState.startTeardown]
    split
    · refine ⟨h.enters, fun ht => ?_⟩
      change (if s.lock then TeardownPc.draining else .freeingCall) = .clearing ∨
        (if s.lock then TeardownPc.draining else .freeingCall) = .done at ht
      split at ht <;> simp at ht
    · next hcall => exact ⟨h.enters, fun _ => Bool.not_eq_true _ ▸ hcall⟩
  | drain =>
    refine ⟨h.enters, fun ht => ?_⟩
    change (if s.building then TeardownPc.asleep else .freeingCall) = .clearing ∨
      (if s.building then TeardownPc.asleep else .freeingCall) = .done at ht
    split at ht <;> simp at ht
  | freeCall hfree =>
    refine ⟨fun t ht => ?_, fun _ => rfl⟩
    -- the teardown has started, so no thread is in a vnode operation
    have hout := (htd.started (by rw [hfree]; simp)).2 t
    change s.threads t = .ensureEnter at ht
    rw [ht] at hout
    cases hout
  | clear hclear =>
    have hcall := h.released (Or.inl hclear)
    rw [RefreshState.clear]
    split <;> exact ⟨h.enters, fun _ => hcall⟩

end Steps

namespace KextPc

def registers : KextPc → Bool
  | added | iokitInit | registering _ => true
  | _ => false

/-- Before `sysfs_iokit_init`. -/
def beforeSnap : KextPc → Bool
  | starting | initialized | added | iokitInit => true
  | _ => false

def snapUp : KextPc → Bool
  | registering _ | unregistering _ => true
  | _ => false

def GlobalsOk : KextPc → KextGlobals → Prop
  | unloaded, g => g.live = 0
  | starting, g => g = .fresh
  | _, g => g = .ready

def OidsOk : KextPc → List SysctlOid → Prop
  | registering left, oids => oids.reverse ++ left = sysctlRegister
  | unregistering left, oids => oids = left ∧ left <:+ sysctlUnregister
  | _, oids => oids = []

end KextPc

structure SnapOk (s : KextState) (m : RefreshMemory) : Prop where
  runs : GuardedRun m
  call : CallInv m.state
  up : s.pc.snapUp → m.state.teardown = .notStarted
  done : s.pc = .unloaded → m.state.teardown = .done
  workers : s.pc.snapUp → ∀ t, ¬s.inOp t → WorkerPc m.state.refreshCall (m.state.threads t)

structure KextInv (s : KextState) : Prop where
  globals : s.pc.GlobalsOk s.globals
  registered : s.registered = s.pc.registers
  tableRef : s.registered → s.vfsTableRef
  mounted : s.mounts.Nonempty → s.registered
  inside : ∀ p ∈ s.ops, p.2 ∈ s.mounts
  oids : s.pc.OidsOk s.oids
  noSnap : s.pc.beforeSnap → s.snap = none
  hasSnap : s.pc.snapUp → s.snap.isSome
  snap : ∀ m, s.snap = some m → SnapOk s m

theorem kextInv_init : KextInv .init := by
  refine ⟨rfl, rfl, ?_, ?_, ?_, rfl, ?_, ?_, ?_⟩ <;> simp [KextState.init, KextPc.snapUp]

namespace KextInv
variable {s s' : KextState}

theorem no_ops (h : KextInv s) (hreg : s.registered = false) : s.mounts = ∅ ∧ s.ops = ∅ := by
  have hmounts : s.mounts = ∅ := by
    by_contra hne
    have hr := h.mounted (Finset.nonempty_iff_ne_empty.mpr hne)
    rw [hreg] at hr
    cases hr
  refine ⟨hmounts, Finset.eq_empty_of_forall_notMem fun p hp => ?_⟩
  have hmem := h.inside p hp
  rw [hmounts] at hmem
  simp at hmem

theorem notStarted_of_inOp (h : KextInv s) {t : ℕ} (ht : s.inOp t) {m : RefreshMemory}
    (hm : s.snap = some m) : m.state.teardown = .notStarted := by
  -- a thread in an operation finds the teardown not started
  obtain ⟨p, hp, -⟩ := ht
  have hreg : s.pc.registers := by
    rw [← h.registered]
    exact h.mounted ⟨p.2, h.inside p hp⟩
  have hnone := h.noSnap
  apply (h.snap m hm).up
  cases hpc : s.pc with rw [hpc] at hreg hnone
  | registering left => rfl
  | added | iokitInit =>
    rw [hnone rfl] at hm
    cases hm
  | _ => cases hreg

theorem snapOk_step (h : KextInv s) {m m' : RefreshMemory} {op : RefreshOp}
    (hm : s.snap = some m) (hs : memoryStep m op = some m') (hne : op ≠ .teardown)
    (hin : ∀ t, op = .ensure t ∨ op = .prime t → s.inOp t) : SnapOk s m' := by
  have hok := h.snap m hm
  obtain ⟨-, -, htd⟩ := hok.runs.inv
  have hstep := (memoryStep_spec hs).1
  obtain ⟨hkept, hdone⟩ := teardown_step hstep
  refine ⟨?_, callInv_step hok.call htd hstep, ?_, ?_, ?_⟩
  · refine hok.runs.step hs (fun hop => absurd hop hne) fun t hop => ?_
    exact h.notStarted_of_inOp (hin t (Or.inr hop)) hm
  · exact fun hup => hkept (hok.up hup) hne
  · exact fun hpc => hdone (hok.done hpc)
  · intro hup t ht
    refine workerPc_step hstep htd.call ?_ ?_ ?_ (hok.workers hup t ht)
    · rintro rfl
      cases (freeCall_of_step hstep).symm.trans (hok.up hup)
    · exact fun hop => ht (hin t (Or.inl hop))
    · exact fun hop => ht (hin t (Or.inr hop))

theorem setSnap (h : KextInv s) {m m' : RefreshMemory} (hm : s.snap = some m)
    (hok : SnapOk s m') : KextInv { s with snap := some m' } where
  globals := h.globals
  registered := h.registered
  tableRef := h.tableRef
  mounted := h.mounted
  inside := h.inside
  oids := h.oids
  noSnap hb := by
    have hnone := h.noSnap hb
    rw [hm] at hnone
    cases hnone
  hasSnap _ := rfl
  snap m₁ hm₁ := by
    cases hm₁
    exact ⟨hok.runs, hok.call, hok.up, hok.done, hok.workers⟩

theorem stepSnap (h : KextInv s) {op : RefreshOp} (hs : s.stepSnap op = some s')
    (hne : op ≠ .teardown) (hin : ∀ t, op = .ensure t ∨ op = .prime t → s.inOp t) :
    KextInv s' := by
  rw [KextState.stepSnap] at hs
  split at hs
  · cases hs
  · next m hm =>
    obtain ⟨m', hm', rfl⟩ := Option.map_eq_some_iff.mp hs
    exact h.setSnap hm (h.snapOk_step hm hm' hne hin)

theorem outOfSnap_iff {t : ℕ} {m : RefreshMemory} (hm : s.snap = some m) :
    s.outOfSnap t ↔ m.state.threads t = .idle := by
  rw [KextState.outOfSnap, hm]
  dsimp only
  split
  · next hidle => simp [hidle]
  · next hbusy => simpa using hbusy

theorem callSnap (h : KextInv s) {t : ℕ} {op : RefreshOp} {pc : RefreshState → RefreshPc}
    (hs : s.callSnap t pc = some s') (hop : op = .ensure t ∨ op = .prime t)
    (hstep : ∀ r : RefreshState, r.threads t = .idle → r.lock → r.teardown = .notStarted →
      refreshStep r op = some (r.setPc t (pc r))) : KextInv s' := by
  rw [KextState.callSnap] at hs
  obtain ⟨⟨hin, hquiet⟩, hs⟩ := Option.ite_none_right_eq_some.mp hs
  split at hs
  · cases hs
    exact h
  · next m hm =>
    split at hs
    · next hlock =>
      cases hs
      have hidle := (outOfSnap_iff hm).mp hquiet
      have hns := h.notStarted_of_inOp hin hm
      have hm' : memoryStep m op = some { m with state := m.state.setPc t (pc m.state) } := by
        rw [memoryStep, hstep m.state hidle hlock hns]
        rcases hop with rfl | rfl <;> rfl
      refine h.setSnap hm (h.snapOk_step hm hm' ?_ fun u hu => ?_)
      · rcases hop with rfl | rfl <;> simp
      · have hut : t = u := by
          rcases hop with rfl | rfl <;> simpa using hu
        exact hut ▸ hin
    · cases hs
      exact h

theorem onlyWorker (h : KextInv s) {m : RefreshMemory} (hm : s.snap = some m)
    (hup : s.pc.snapUp) (hreg : s.registered = false) : OnlyWorker m.state := by
  obtain ⟨-, hops⟩ := h.no_ops hreg
  intro t
  apply (h.snap m hm).workers hup t
  rintro ⟨p, hp, -⟩
  rw [hops] at hp
  simp at hp

theorem teardown (h : KextInv s) (hpc : s.pc = .unregistering [])
    (hs : s.stepSnap .teardown = some s') : KextInv { s' with pc := .teardown } := by
  rw [KextState.stepSnap] at hs
  split at hs
  · cases hs
  · next m hm =>
    obtain ⟨m', hm', rfl⟩ := Option.map_eq_some_iff.mp hs
    have hreg : s.registered = false := by
      rw [h.registered, hpc]
      rfl
    have hglobals := h.globals
    have hoids := h.oids
    rw [hpc] at hglobals hoids
    have hok := h.snap m hm
    refine ⟨hglobals, hreg, h.tableRef, h.mounted, h.inside, hoids.1, by rintro ⟨⟩,
      by rintro ⟨⟩, ?_⟩
    intro m₁ hm₁
    cases hm₁
    refine ⟨?_, ?_, by rintro ⟨⟩, by rintro ⟨⟩, by rintro ⟨⟩⟩
    · refine hok.runs.step hm' (fun _ => h.onlyWorker hm (by rw [hpc]; rfl) hreg) ?_
      rintro t ⟨⟩
    · exact callInv_step hok.call hok.runs.inv.2.2 (memoryStep_spec hm').1

theorem snapStep (h : KextInv s) {op : RefreshOp} (hs : kextStep s (.snap op) = some s') :
    KextInv s' := by
  cases op with
  | ensure t =>
    have hs : s.callSnap t (fun r => .ensureSampled r.generation) = some s' := hs
    refine h.callSnap hs (Or.inl rfl) fun r hidle hlock hns => ?_
    rw [refreshStep, hidle]
    exact if_pos ⟨hlock, hns⟩
  | prime t =>
    have hs : s.callSnap t (fun _ => .primeLock) = some s' := hs
    refine h.callSnap hs (Or.inr rfl) fun r hidle hlock _ => ?_
    rw [refreshStep, hidle]
    exact if_pos hlock
  | teardown =>
    obtain ⟨hpc, hs⟩ := Option.ite_none_right_eq_some.mp hs
    obtain ⟨s₁, hs₁, rfl⟩ := Option.map_eq_some_iff.mp hs
    exact h.teardown hpc hs₁
  | start t =>
    obtain ⟨-, hs⟩ := Option.ite_none_left_eq_some.mp hs
    exact h.stepSnap hs (by simp) (by simp)
  | _ => exact h.stepSnap hs (by simp) (by simp)

theorem move (h : KextInv s) {pc : KextPc} {g : KextGlobals} {ref reg : Bool}
    {oids : List SysctlOid} (hglobals : pc.GlobalsOk g) (hreg : reg = pc.registers)
    (href : reg → ref) (hmounted : s.mounts.Nonempty → reg) (hoids : pc.OidsOk oids)
    (hbefore : pc.beforeSnap → s.pc.beforeSnap) (hup : pc.snapUp → s.pc.snapUp)
    (hdone : pc = .unloaded → ∀ m, s.snap = some m → m.state.teardown = .done) :
    KextInv { s with pc := pc, globals := g, vfsTableRef := ref, registered := reg, oids := oids }
    where
  globals := hglobals
  registered := hreg
  tableRef := href
  mounted := hmounted
  inside := h.inside
  oids := hoids
  noSnap hb := h.noSnap (hbefore hb)
  hasSnap hu := h.hasSnap (hup hu)
  snap m hm := by
    have hok := h.snap m hm
    exact ⟨hok.runs, hok.call, fun hu => hok.up (hup hu), fun hpc => hdone hpc m hm,
      fun hu => hok.workers (hup hu)⟩

theorem load (h : KextInv s) (hpc : s.pc = .unloaded) :
    KextInv { s with
      pc := .starting
      globals := { KextGlobals.fresh with live := s.globals.live }
      vfsTableRef := false
      snap := none } := by
  have hreg : s.registered = false := by
    rw [h.registered, hpc]
    rfl
  have hlive := h.globals
  have hoids := h.oids
  rw [hpc] at hlive hoids
  refine ⟨?_, hreg, ?_, h.mounted, h.inside, hoids, fun _ => rfl, by rintro ⟨⟩, by rintro m ⟨⟩⟩
  · show { KextGlobals.fresh with live := s.globals.live } = KextGlobals.fresh
    rw [hlive]
    rfl
  · show s.registered → _
    rw [hreg]
    rintro ⟨⟩

theorem initStep (h : KextInv s) {allocs : InitAllocs}
    (hs : kextStep s (.init allocs) = some s') : KextInv s' := by
  obtain ⟨hpc, hs⟩ := Option.ite_none_right_eq_some.mp hs
  have hg : s.globals = .fresh := by simpa [hpc, KextPc.GlobalsOk] using h.globals
  have hreg : s.registered = false := by
    rw [h.registered, hpc]
    rfl
  have hoids := h.oids
  rw [hpc] at hoids
  have hnone := h.noSnap (by rw [hpc]; rfl)
  rw [hg] at hs
  rcases sysfsInit_fresh allocs with hok | hfail
  · rw [hok] at hs
    cases hs
    exact h.move rfl hreg h.tableRef h.mounted hoids (fun _ => by rw [hpc]; rfl) (by rintro ⟨⟩)
      (by rintro ⟨⟩)
  · rw [hfail] at hs
    cases hs
    refine h.move rfl hreg h.tableRef h.mounted hoids (by rintro ⟨⟩) (by rintro ⟨⟩) ?_
    intro _ m hm
    rw [hnone] at hm
    cases hm

theorem fsadd (h : KextInv s) {added : Bool} (hs : kextStep s (.fsadd added) = some s') :
    KextInv s' := by
  obtain ⟨hpc, hs⟩ := Option.ite_none_right_eq_some.mp hs
  have hg : s.globals = .ready := by simpa [hpc, KextPc.GlobalsOk] using h.globals
  have hreg : s.registered = false := by
    rw [h.registered, hpc]
    rfl
  have hoids := h.oids
  rw [hpc] at hoids
  split at hs
  · cases hs
    exact h.move hg rfl (fun _ => rfl) (fun _ => rfl) hoids (fun _ => by rw [hpc]; rfl)
      (by rintro ⟨⟩) (by rintro ⟨⟩)
  · rw [hg, sysfsFini_ready] at hs
    cases hs
    refine h.move rfl hreg (by rw [hreg]; rintro ⟨⟩) h.mounted hoids (by rintro ⟨⟩)
      (by rintro ⟨⟩) ?_
    intro _ m hm
    rw [h.noSnap (by rw [hpc]; rfl)] at hm
    cases hm

theorem vfsInit (h : KextInv s) {allocs : InitAllocs}
    (hs : kextStep s (.vfsInit allocs) = some s') : KextInv s' := by
  obtain ⟨hpc, hs⟩ := Option.ite_none_right_eq_some.mp hs
  have hg : s.globals = .ready := by simpa [hpc, KextPc.GlobalsOk] using h.globals
  have hreg := h.registered
  have hoids := h.oids
  rw [hpc] at hreg hoids
  -- the second call finds `initialized` set
  rw [hg, sysfsInit_ready] at hs
  cases hs
  exact h.move rfl hreg h.tableRef h.mounted hoids (fun _ => by rw [hpc]; rfl) (by rintro ⟨⟩)
    (by rintro ⟨⟩)

theorem iokitInit (h : KextInv s) {lock refreshCall : Bool} {registry : List RegEntry}
    (hs : kextStep s (.iokitInit lock refreshCall registry) = some s') : KextInv s' := by
  obtain ⟨⟨hpc, -⟩, hs⟩ := Option.ite_none_right_eq_some.mp hs
  cases hs
  have hg := h.globals
  have hreg := h.registered
  have hoids := h.oids
  rw [hpc] at hg hreg hoids
  refine ⟨hg, hreg, h.tableRef, h.mounted, h.inside, ?_, by rintro ⟨⟩, fun _ => rfl, ?_⟩
  · show s.oids.reverse ++ sysctlRegister = sysctlRegister
    rw [show s.oids = [] from hoids]
    rfl
  · rintro m ⟨⟩
    exact ⟨guardedRun_init .., ⟨by rintro t ⟨⟩, by rintro (h | h) <;> cases h⟩, fun _ => rfl,
      by rintro ⟨⟩, fun _ _ _ => Or.inl rfl⟩

theorem registerOid (h : KextInv s) (hs : kextStep s .registerOid = some s') : KextInv s' := by
  rw [kextStep] at hs
  split at hs
  · next oid left hpc =>
    cases hs
    have hg := h.globals
    have hreg := h.registered
    have hoids := h.oids
    rw [hpc] at hg hreg hoids
    refine h.move hg hreg h.tableRef h.mounted ?_ (by rintro ⟨⟩) (fun _ => by rw [hpc]; rfl)
      (by rintro ⟨⟩)
    show (oid :: s.oids).reverse ++ left = sysctlRegister
    rw [List.reverse_cons, List.append_assoc]
    exact hoids
  · cases hs

/-- While a file system is mounted `sysfs_stop` is refused and changes nothing. -/
theorem stop_mounted (h : KextInv s) {uuid : Bool} (hmounts : s.mounts.Nonempty)
    (hs : kextStep s (.stop uuid) = some s') : s' = s := by
  obtain ⟨-, hs⟩ := Option.ite_none_right_eq_some.mp hs
  rw [if_pos (h.tableRef (h.mounted hmounts)), if_pos hmounts, ite_self] at hs
  exact (Option.some_inj.mp hs).symm

theorem stop (h : KextInv s) {uuid : Bool} (hs : kextStep s (.stop uuid) = some s') :
    KextInv s' := by
  by_cases hmounts : s.mounts.Nonempty
  · rw [h.stop_mounted hmounts hs]
    exact h
  · obtain ⟨hpc, hs⟩ := Option.ite_none_right_eq_some.mp hs
    have hg := h.globals
    have hreg := h.registered
    have hoids := h.oids
    rw [hpc] at hg hreg hoids
    rw [if_pos (h.tableRef hreg), if_neg hmounts] at hs
    split at hs
    · cases hs
      exact h
    · cases hs
      refine h.move hg rfl (by rintro ⟨⟩) (fun hne => absurd hne hmounts) ?_ (by rintro ⟨⟩)
        (fun _ => by rw [hpc]; rfl) (by rintro ⟨⟩)
      -- the oids go away in the opposite order
      have hrev : s.oids.reverse = sysctlRegister := by simpa [KextPc.OidsOk] using hoids
      refine ⟨?_, List.suffix_refl _⟩
      rw [← s.oids.reverse_reverse, hrev]
      rfl

theorem unregisterOid (h : KextInv s) (hs : kextStep s .unregisterOid = some s') :
    KextInv s' := by
  rw [kextStep] at hs
  split at hs
  · next oid left hpc =>
    cases hs
    have hg := h.globals
    have hreg := h.registered
    have hoids := h.oids
    rw [hpc] at hg hreg hoids
    refine h.move hg hreg h.tableRef h.mounted ?_ (by rintro ⟨⟩) (fun _ => by rw [hpc]; rfl)
      (by rintro ⟨⟩)
    refine ⟨?_, (List.suffix_cons oid left).trans hoids.2⟩
    rw [hoids.1, List.erase_cons_head]
  · cases hs

theorem fini (h : KextInv s) (hs : kextStep s .fini = some s') : KextInv s' := by
  obtain ⟨⟨hpc, hdone⟩, hs⟩ := Option.ite_none_right_eq_some.mp hs
  have hg : s.globals = .ready := by simpa [hpc, KextPc.GlobalsOk] using h.globals
  have hreg := h.registered
  have hoids := h.oids
  rw [hpc] at hreg hoids
  rw [hg, sysfsFini_ready] at hs
  cases hs
  refine h.move rfl hreg h.tableRef h.mounted hoids (by rintro ⟨⟩) (by rintro ⟨⟩) ?_
  intro _ m hm
  rw [hm] at hdone
  simpa using hdone

theorem setMounts (h : KextInv s) {mounts : Finset ℕ} {ops : Finset (ℕ × ℕ)}
    (hmounted : mounts.Nonempty → s.registered) (hinside : ∀ p ∈ ops, p.2 ∈ mounts)
    (hleft : ∀ t, (∃ p ∈ s.ops, p.1 = t) → (∃ p ∈ ops, p.1 = t) ∨ s.outOfSnap t) :
    KextInv { s with mounts := mounts, ops := ops } where
  globals := h.globals
  registered := h.registered
  tableRef := h.tableRef
  mounted := hmounted
  inside := hinside
  oids := h.oids
  noSnap := h.noSnap
  hasSnap := h.hasSnap
  snap m hm := by
    have hok := h.snap m hm
    refine ⟨hok.runs, hok.call, hok.up, hok.done, fun hup t ht => ?_⟩
    by_cases hin : s.inOp t
    · rcases hleft t hin with hin' | hquiet
      · exact absurd hin' ht
      · exact Or.inl ((outOfSnap_iff hm).mp hquiet)
    · exact hok.workers hup t hin

end KextInv

theorem kextInv_step {s s' : KextState} {op : KextOp} (h : KextInv s)
    (hs : kextStep s op = some s') : KextInv s' := by
  cases op with
  | load =>
    obtain ⟨hpc, hs⟩ := Option.ite_none_right_eq_some.mp hs
    cases hs
    exact h.load hpc
  | init allocs => exact h.initStep hs
  | fsadd added => exact h.fsadd hs
  | vfsInit allocs => exact h.vfsInit hs
  | iokitInit lock refreshCall registry => exact h.iokitInit hs
  | registerOid => exact h.registerOid hs
  | stop uuid => exact h.stop hs
  | unregisterOid => exact h.unregisterOid hs
  | fini => exact h.fini hs
  | mount mp =>
    obtain ⟨⟨hreg, -⟩, hs⟩ := Option.ite_none_right_eq_some.mp hs
    cases hs
    exact h.setMounts (fun _ => hreg) (fun p hp => Finset.mem_insert_of_mem (h.inside p hp))
      fun t ht => Or.inl ht
  | unmount mp =>
    obtain ⟨⟨hmem, hfree⟩, hs⟩ := Option.ite_none_right_eq_some.mp hs
    cases hs
    exact h.setMounts (fun _ => h.mounted ⟨mp, hmem⟩)
      (fun p hp => Finset.mem_erase.mpr ⟨hfree p hp, h.inside p hp⟩) fun t ht => Or.inl ht
  | enter t mp =>
    obtain ⟨⟨hmem, -⟩, hs⟩ := Option.ite_none_right_eq_some.mp hs
    cases hs
    refine h.setMounts h.mounted (fun p hp => ?_) fun u hu => Or.inl ?_
    · rcases Finset.mem_insert.mp hp with rfl | hp
      · exact hmem
      · exact h.inside p hp
    · obtain ⟨p, hp, hpu⟩ := hu
      exact ⟨p, Finset.mem_insert_of_mem hp, hpu⟩
  | leave t mp =>
    obtain ⟨⟨-, hquiet⟩, hs⟩ := Option.ite_none_right_eq_some.mp hs
    cases hs
    refine h.setMounts h.mounted (fun p hp => h.inside p (Finset.mem_of_mem_erase hp)) ?_
    rintro u ⟨p, hp, rfl⟩
    by_cases hpt : p = (t, mp)
    · rw [hpt]
      exact Or.inr hquiet
    · exact Or.inl ⟨p, Finset.mem_erase.mpr ⟨hpt, hp⟩, rfl⟩
  | snap op => exact h.snapStep hs

theorem kextInv_reached {labels : List KextOp} {s : KextState}
    (h : Reached kextStep .init labels s) : KextInv s :=
  invariant_along kextInv_init (fun _ _ _ hstep hinv => kextInv_step hinv hstep.step_eq) h

/-- Nothing faults: every allocation that is freed or used is there, the snapshot code has its
lock and its thread call where it uses them, and an oid is registered below its node. While
something is mounted the kext is ready and is not stopped. -/
structure KextSafe (s : KextState) : Prop where
  init : s.pc = .starting → ∀ allocs, (kextStep s (.init allocs)).isSome
  fsadd : s.pc = .initialized → ∀ added, (kextStep s (.fsadd added)).isSome
  vfsInit : s.pc = .added → ∀ allocs, (kextStep s (.vfsInit allocs)).isSome
  fini : s.pc = .teardown → (∀ m, s.snap = some m → m.state.teardown = .done) →
    (kextStep s .fini).isSome
  mounted : s.mounts.Nonempty → s.globals = .ready ∧
    ∀ uuid s', kextStep s (.stop uuid) = some s' → s' = s
  lock : ∀ m, s.snap = some m → ∀ t,
    (m.state.threads t).outside ∨ (m.state.threads t).refreshing → m.state.lock
  call : ∀ m, s.snap = some m → ∀ t, m.state.threads t = .ensureEnter → m.state.refreshCall
  oids : ∀ oid ∈ s.oids, .node ∈ s.oids

namespace KextInv
variable {s : KextState}

theorem globals_of_mounted (h : KextInv s) (hmounts : s.mounts.Nonempty) : s.globals = .ready := by
  have hreg := h.mounted hmounts
  have hg := h.globals
  rw [h.registered] at hreg
  cases hpc : s.pc with rw [hpc] at hreg hg
  | added | iokitInit | registering => exact hg
  | _ => cases hreg

theorem lock_of_busy (h : KextInv s) {m : RefreshMemory} (hm : s.snap = some m) {t : ℕ}
    (ht : (m.state.threads t).outside ∨ (m.state.threads t).refreshing) : m.state.lock := by
  obtain ⟨-, -, htd⟩ := (h.snap m hm).runs.inv
  by_contra hlock
  rw [Bool.not_eq_true] at hlock
  by_cases hdone : m.state.teardown = .done
  · -- the teardown has drained the refresh and let no operation in
    have hout := (htd.started (by rw [hdone]; simp)).2 t
    have hrefresh := htd.drained (by rw [hdone]; rfl) t
    rw [hout, hrefresh] at ht
    simp at ht
  · rw [(htd.unlocked hlock hdone).2 t] at ht
    rcases ht with ht | ht <;> cases ht

theorem node_mem_oids (h : KextInv s) {oid : SysctlOid} (hoid : oid ∈ s.oids) :
    .node ∈ s.oids := by
  have hoids := h.oids
  cases hpc : s.pc with rw [hpc] at hoids
  | registering left =>
    -- the oids registered so far begin with the node
    have hpre : s.oids.reverse <+: sysctlRegister := ⟨left, hoids⟩
    rw [← List.mem_reverse] at hoid ⊢
    cases hrev : s.oids.reverse with
    | nil =>
      rw [hrev] at hoid
      cases hoid
    | cons first rest =>
      rw [hrev, sysctlRegister, List.cons_prefix_cons] at hpre
      rw [hpre.1]
      exact List.mem_cons_self
  | unregistering left =>
    -- the node is the last to go
    obtain ⟨heq, gone, hgone⟩ := hoids
    rw [heq] at hoid ⊢
    have hne : left ≠ [] := List.ne_nil_of_mem hoid
    have hlast : left.getLast hne = .node := by
      have hall : (gone ++ left).getLast? = some .node := by
        rw [hgone]
        rfl
      rw [List.getLast?_append_of_ne_nil gone hne, List.getLast?_eq_some_getLast hne] at hall
      exact Option.some_inj.mp hall
    exact hlast ▸ List.getLast_mem hne
  | _ =>
    rw [show s.oids = [] from hoids] at hoid
    cases hoid

theorem safe (h : KextInv s) : KextSafe s := by
  have hg := h.globals
  refine ⟨?_, ?_, ?_, ?_, ?_, fun m hm t => h.lock_of_busy hm,
    fun m hm => (h.snap m hm).call.enters, fun oid hoid => h.node_mem_oids hoid⟩
  · intro hpc allocs
    rw [hpc] at hg
    rw [kextStep, if_pos hpc, show s.globals = .fresh from hg]
    rcases sysfsInit_fresh allocs with heq | heq
    · rw [heq]
      rfl
    · rw [heq]
      rfl
  · intro hpc added
    rw [hpc] at hg
    rw [kextStep, if_pos hpc, show s.globals = .ready from hg, sysfsFini_ready]
    split <;> rfl
  · intro hpc allocs
    rw [hpc] at hg
    rw [kextStep, if_pos hpc, show s.globals = .ready from hg, sysfsInit_ready]
    rfl
  · intro hpc hdone
    rw [hpc] at hg
    have hall : s.snap.all fun m => decide (m.state.teardown = .done) := by
      cases hm : s.snap with
      | none => rfl
      | some m => simpa using hdone m hm
    rw [kextStep, if_pos ⟨hpc, hall⟩, show s.globals = .ready from hg, sysfsFini_ready]
    rfl
  · intro hmounts
    exact ⟨h.globals_of_mounted hmounts, fun uuid s' hs => h.stop_mounted hmounts hs⟩

end KextInv

/-- Whatever order the kext is loaded and unloaded, mounted and used in, with any allocation
failing, nothing faults. -/
theorem kext_safe {labels : List KextOp} {s : KextState} (h : Reached kextStep .init labels s) :
    KextSafe s := (kextInv_reached h).safe

/-- A mount that comes before `sysfs_iokit_init`. -/
def earlyMount : List KextOp :=
  [.load, .init {}, .fsadd true, .mount 7, .enter 1 7, .snap (.prime 1), .leave 1 7, .vfsInit {},
    .iokitInit true true []]

/-- The early mount has returned, and no snapshot is there or being built. -/
theorem earlyMount_safe :
    ∃ s, run kextStep .init earlyMount = some s ∧ s.mounts = {7} ∧ s.ops = ∅ ∧
      s.snap.any (fun m => m.state.snapshot.isNone && !m.state.building) ∧ KextSafe s := by
  have hrun : (run kextStep .init earlyMount).any fun s => decide (s.mounts = {7} ∧ s.ops = ∅ ∧
      s.snap.any fun m => m.state.snapshot.isNone && !m.state.building) := by
    decide +kernel
  obtain ⟨s, hs, hok⟩ := (Option.any_eq_true _ _).mp hrun
  obtain ⟨hmounts, hops, hsnap⟩ := of_decide_eq_true hok
  exact ⟨s, hs, hmounts, hops, hsnap, kext_safe (reached_of_run hs)⟩

def primesEmpty : List RefreshOp :=
  [.prime 1, .primeLock 1, .sample 1, .size 1 true, .count 1 (some []), .walk 1,
    .walkEnd 1 emptyBuild, .publish 1, .free 1]

/-- A load, a mount that primes a snapshot, a vnode operation and an unload. -/
def wholeLife : List KextOp :=
  List.flatten [
    [.load, .init {}, .fsadd true, .vfsInit {}, .iokitInit true true []],
    List.replicate 6 .registerOid,
    [.mount 7, .enter 1 7], primesEmpty.map .snap, [.leave 1 7],
    [.stop true, .enter 2 7, .snap (.ensure 2), .snap (.check 2), .leave 2 7, .unmount 7],
    [.stop true], List.replicate 6 .unregisterOid,
    [.snap .teardown, .snap .drain, .snap .freeCall, .snap .clear, .fini]]

theorem wholeLife_run : ∃ s m, run kextStep .init wholeLife = some s ∧ s.pc = .unloaded ∧
    s.snap = some m ∧ m.state.teardown = .done := by
  have hrun : (run kextStep .init wholeLife).any fun s => decide (s.pc = .unloaded ∧
      s.snap.any fun m => decide (m.state.teardown = .done)) := by
    decide +kernel
  obtain ⟨s, hs, hok⟩ := (Option.any_eq_true _ _).mp hrun
  obtain ⟨hpc, hsnap⟩ := of_decide_eq_true hok
  obtain ⟨m, hm, hdone⟩ := (Option.any_eq_true _ _).mp hsnap
  exact ⟨s, m, hs, hpc, hm, of_decide_eq_true hdone⟩

/-- In every run of the kext its snapshot code runs as its own results assume: no vnode
operation is left when the teardown starts, and no vnode operation or mount calls it
afterwards. -/
theorem kext_guards_snapshot {labels : List KextOp} {s : KextState}
    (h : Reached kextStep .init labels s) {m : RefreshMemory} (hm : s.snap = some m) :
    GuardedRun m := ((kextInv_reached h).snap m hm).runs

theorem wholeLife_guarded :
    ∃ s m, run kextStep .init wholeLife = some s ∧ s.snap = some m ∧ m.state.teardown = .done ∧
      GuardedRun m := by
  obtain ⟨s, m, hs, -, hm, hdone⟩ := wholeLife_run
  exact ⟨s, m, hs, hm, hdone, kext_guards_snapshot (reached_of_run hs) hm⟩

end SysFS
