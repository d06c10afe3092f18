import SysFS.RefreshMemory

namespace SysFS
open CString Transition

/-- What a section does: it returns, or it looks at the snapshot and goes on. -/
inductive Section (ρ : Type) where
  | done (result : ρ)
  | access (next : GSnapshot → Section ρ)

/-- The result of a section that finds the same snapshot at every access. -/
def Section.eval {ρ : Type} (g : GSnapshot) : Section ρ → ρ
  | done result => result
  | access next => (next g).eval g

/-- The loop of `sysfs_iokit_child_named`, access by access. -/
def childNamedLoop (pidx : ℕ) (name : CStr) (namelen : ℕ) : ℕ → ℕ → Section (Option UInt64)
  | 0, _ => .done none
  | n + 1, i =>
    .access fun g =>
      match g.bind fun snap => sysfsChildDisplay snap pidx i (sysfsIokitNamemax + 16) with
      | none => .done none
      | some (buf, id) =>
        if sameName buf name namelen then .done (some id)
        else childNamedLoop pidx name namelen n (i + 1)

/-- The section of `sysfs_iokit_child_named`, access by access. -/
def childNamedSection (regid : UInt64) (name : CStr) (namelen : ℕ) : Section (Option UInt64) :=
  .access fun g =>
    match sysfsHashFind g regid with
    | none => .done none
    | some pidx =>
      .access fun g =>
        match g with
        | none => .done none
        | some snap => childNamedLoop pidx name namelen (snap.node pidx).numChildren 0

theorem childNamedLoop_eval (snap : Snapshot) (pidx : ℕ) (name : CStr) (namelen n i : ℕ) :
    (childNamedLoop pidx name namelen n i).eval (some snap) =
      childNamedFrom snap pidx name namelen n i := by
  induction n generalizing i with
  | zero => rfl
  | succ n ih =>
    rw [childNamedLoop, Section.eval, childNamedFrom, Option.bind_some]
    cases sysfsChildDisplay snap pidx i (sysfsIokitNamemax + 16) with
    | none => rfl
    | some child =>
      dsimp only
      split
      · rfl
      · exact ih (i + 1)

theorem childNamedSection_eval (g : GSnapshot) (regid : UInt64) (name : CStr) (namelen : ℕ) :
    (childNamedSection regid name namelen).eval g =
      sysfsIokitChildNamed g regid name namelen := by
  cases g with
  | none => rfl
  | some snap =>
    simp only [childNamedSection, Section.eval, sysfsIokitChildNamed]
    cases sysfsHashFind (some snap) regid with
    | none => rfl
    | some pidx => exact childNamedLoop_eval snap pidx name namelen _ 0

/-- A reader is in a section with `left` to do. The whole section and the snapshot at its
beginning are kept beside it, which no code reads. -/
inductive ReaderPc (ρ : Type) where
  | out
  | inside (whole : Section ρ) (first : GSnapshot) (left : Section ρ)

/-- The snapshot code with its readers; `holder` is the reader that holds `g_lock`. -/
structure ReadersState (ρ : Type) where
  mem : RefreshMemory
  holder : Option ℕ
  readers : ℕ → ReaderPc ρ

def ReadersState.init {ρ : Type} (lock refreshCall : Bool) (registry : List RegEntry) :
    ReadersState ρ := ⟨.init lock refreshCall registry, none, fun _ => .out⟩

def RefreshOp.locks : RefreshOp → Bool
  | check _ | primeLock _ | publish _ | drain | clear => true
  | _ => false

def RefreshOp.begins : RefreshOp → Option ℕ
  | ensure t | start t | prime t => some t
  | _ => none

inductive ReadersOp (ρ : Type) where
  | snap (op : RefreshOp)
  | lock (t : ℕ) (whole : Section ρ)
  | access (t : ℕ)
  | unlock (t : ℕ)

variable {ρ : Type}

def ReadersState.free (s : ReadersState ρ) : Option ℕ → Bool
  | none => true
  | some t =>
    match s.readers t with
    | .out => true
    | .inside .. => false

/-- A section takes as many steps as it makes accesses to `g_snapshot`, and other threads may
step in between. -/
def readersStep (s : ReadersState ρ) : ReadersOp ρ → Option (ReadersState ρ)
  | .snap op =>
    if (op.locks → s.holder = none) ∧ s.free op.begins then
      (memoryStep s.mem op).map fun mem => { s with mem := mem }
    else none
  | .lock t whole =>
    match s.readers t, s.mem.state.threads t with
    | .out, .idle =>
      if s.mem.state.lock ∧ s.holder = none then
        some { s with
          holder := some t
          readers := Function.update s.readers t (.inside whole s.mem.state.snapshot whole) }
      else none
    | _, _ => none
  | .access t =>
    match s.readers t with
    | .inside whole first (.access next) =>
      some { s with
        readers := Function.update s.readers t
          (.inside whole first (next s.mem.state.snapshot)) }
    | _ => none
  | .unlock t =>
    match s.readers t with
    | .inside _ _ (.done _) =>
      some { s with holder := none, readers := Function.update s.readers t .out }
    | _ => none

/-- The snapshot that a thread has in `new_snap` or `old_snap`. -/
def RefreshPc.carried : RefreshPc → Option Snapshot
  | publishing _ _ newSnap => newSnap
  | freeing oldSnap => oldSnap
  | _ => none

structure PointersOk (m : RefreshMemory) : Prop where
  thread : ∀ t, (m.snaps.owned (.thread t)).isSome = (m.state.threads t).carried.isSome
  global : (m.snaps.owned .global).isSome = m.state.snapshot.isSome

theorem accountBuild_thread {snaps : Ledger SnapOwner} {t cap lastNodeCount : ℕ}
    {inp inp' : BuildInput} (hallocs : inp'.allocs = inp.allocs)
    (hnone : snaps.owned (.thread t) = none) :
    ((accountBuild snaps t cap inp (snapBuildSized cap lastNodeCount inp').1).owned
      (.thread t)).isSome = (snapBuildSized cap lastNodeCount inp').1.isSome := by
  unfold accountBuild
  split
  · next hfailed =>
    -- without all three tables there is no snapshot
    have hbuilt : (snapBuildSized cap lastNodeCount inp').1 = none := by
      rw [snapBuildSized, hallocs, if_pos hfailed]
    rw [hnone, hbuilt]
    rfl
  · cases (snapBuildSized cap lastNodeCount inp').1 with
    | none =>
      rw [Ledger.release_owned, Function.update_self]
      rfl
    | some snap =>
      rw [Ledger.alloc_owned, Function.update_self]
      rfl

namespace PointersOk
variable {m : RefreshMemory} {s' : RefreshState} {t : ℕ}

theorem move {pc : RefreshPc} (h : PointersOk m) (ht : (m.state.threads t).carried = none)
    (hpc : pc.carried = none) (hthreads : s'.threads = Function.update m.state.threads t pc)
    (hsnap : s'.snapshot = m.state.snapshot) : PointersOk ⟨s', m.snaps⟩ := by
  refine ⟨fun u => ?_, ?_⟩
  · show _ = (s'.threads u).carried.isSome
    rw [hthreads, h.thread u]
    by_cases hut : u = t
    · rw [hut, Function.update_self, ht, hpc]
    · rw [Function.update_of_ne hut]
  · rw [h.global]
    exact congrArg Option.isSome hsnap.symm

theorem buildSize {gen : ℕ} {allocated : Bool} (h : PointersOk m)
    (ht : m.state.threads t = .sizing gen) :
    PointersOk ⟨m.state.buildSize t gen allocated, m.snaps⟩ := by
  obtain ⟨pc, heq, hpc⟩ := m.state.buildSize_eq t gen allocated
  rw [heq]
  refine h.move (t := t) (by rw [ht]; rfl) ?_ rfl rfl
  rcases hpc with rfl | rfl | rfl <;> rfl

theorem buildWalked {gen cap start : ℕ} {inp : BuildInput} (h : PointersOk m)
    (ht : m.state.threads t = .walking gen cap start) :
    PointersOk ⟨m.state.buildWalked t gen cap inp, m.account (.walkEnd t inp)⟩ := by
  have hnone : m.snaps.owned (.thread t) = none := by
    have hthread := h.thread t
    rw [ht] at hthread
    exact Option.isSome_eq_false_iff.mp hthread |> Option.isNone_iff_eq_none.mp
  rw [RefreshMemory.account, ht]
  refine ⟨fun u => ?_, ?_⟩
  · show _ = (Function.update m.state.threads t _ u).carried.isSome
    by_cases hut : u = t
    · rw [hut, Function.update_self]
      exact accountBuild_thread rfl hnone
    · rw [Function.update_of_ne hut, accountBuild_owned (mt SnapOwner.thread.inj hut), h.thread u]
  · show ((accountBuild _ _ _ _ _).owned .global).isSome = _
    rw [accountBuild_owned (by simp), h.global]
    rfl

theorem publish {gen walked : ℕ} {newSnap : Option Snapshot} (h : PointersOk m)
    (ht : m.state.threads t = .publishing gen walked newSnap) :
    PointersOk ⟨m.state.publish t gen newSnap, m.account (.publish t)⟩ := by
  have hown := h.thread t
  rw [ht] at hown
  rw [RefreshMemory.account, ht]
  cases newSnap with
  | none =>
    refine ⟨fun u => ?_, h.global⟩
    show _ = (Function.update m.state.threads t (.freeing none) u).carried.isSome
    by_cases hut : u = t
    · rw [hut, Function.update_self]
      exact hown
    · rw [Function.update_of_ne hut]
      exact h.thread u
  | some snap =>
    refine ⟨fun u => ?_, ?_⟩
    · show (m.snaps.owned (Equiv.swap _ _ (.thread u))).isSome =
        (Function.update m.state.threads t (.freeing m.state.snapshot) u).carried.isSome
      by_cases hut : u = t
      · rw [hut, Function.update_self, Equiv.swap_apply_right]
        exact h.global
      · rw [Function.update_of_ne hut, Equiv.swap_apply_of_ne_of_ne (by simp)
          (mt SnapOwner.thread.inj hut)]
        exact h.thread u
    · show (m.snaps.owned (Equiv.swap _ _ .global)).isSome = _
      rw [Equiv.swap_apply_left]
      exact hown

theorem free (h : PointersOk m) : PointersOk ⟨m.state.setPc t .idle, m.account (.free t)⟩ := by
  have howned := Ledger.release_owned m.snaps (.thread t)
  refine ⟨fun u => ?_, ?_⟩
  · show ((m.snaps.release (.thread t)).owned (.thread u)).isSome =
      (Function.update m.state.threads t .idle u).carried.isSome
    rw [howned]
    by_cases hut : u = t
    · rw [hut, Function.update_self, Function.update_self]
      rfl
    · rw [Function.update_of_ne hut, Function.update_of_ne (mt SnapOwner.thread.inj hut),
        h.thread u]
  · show ((m.snaps.release (.thread t)).owned .global).isSome = _
    rw [howned, Function.update_of_ne (by simp)]
    exact h.global

theorem clear (h : PointersOk m) : PointersOk ⟨m.state.clear, m.account .clear⟩ := by
  rw [RefreshState.clear, RefreshMemory.account]
  have howned := Ledger.release_owned m.snaps .global
  split
  · refine ⟨fun u => ?_, ?_⟩
    · show ((m.snaps.release .global).owned (.thread u)).isSome = _
      rw [howned, Function.update_of_ne (by simp)]
      exact h.thread u
    · show ((m.snaps.release .global).owned .global).isSome = _
      rw [howned, Function.update_self]
      rfl
  · exact ⟨h.thread, h.global⟩

end PointersOk

theorem pointersOk_step {m m' : RefreshMemory} {op : RefreshOp} (h : PointersOk m)
    (hs : memoryStep m op = some m') : PointersOk m' := by
  obtain ⟨s', snaps'⟩ := m'
  obtain ⟨hstep, rfl⟩ := memoryStep_spec hs
  cases hstep with
  | mutate | tick | drain | freeCall => exact ⟨h.thread, h.global⟩
  | ensure ht | enter ht | start ht | prime ht | sample ht | count ht | walk ht =>
    exact h.move (congrArg RefreshPc.carried ht) rfl rfl rfl
  | @check t gen ht =>
    obtain ⟨_, _, pc, heq, hpc⟩ := m.state.ensureCheck_eq t gen
    have hcarried : pc.carried = none := by
      rcases hpc with rfl | rfl <;> rfl
    show PointersOk ⟨m.state.ensureCheck t gen, m.snaps⟩
    exact h.move (congrArg RefreshPc.carried ht) hcarried (by rw [heq]; rfl) (by rw [heq]; rfl)
  | @primeLock t ht =>
    obtain ⟨_, pc, heq, hpc⟩ := m.state.primeCheck_eq t
    have hcarried : pc.carried = none := by
      rcases hpc with rfl | rfl <;> rfl
    show PointersOk ⟨m.state.primeCheck t, m.snaps⟩
    exact h.move (congrArg RefreshPc.carried ht) hcarried (by rw [heq]; rfl) (by rw [heq]; rfl)
  | size ht => exact h.buildSize ht
  | walkEnd ht => exact h.buildWalked ht
  | publish ht => exact h.publish ht
  | free => exact h.free
  | teardown =>
    obtain ⟨_, _, heq⟩ := m.state.startTeardown_eq
    show PointersOk ⟨m.state.startTeardown, m.snaps⟩
    rw [heq]
    exact ⟨h.thread, h.global⟩
  | clear => exact h.clear

theorem pointersOk_init (lock refreshCall : Bool) (registry : List RegEntry) :
    PointersOk (.init lock refreshCall registry) := ⟨fun _ => rfl, rfl⟩

theorem memoryStep_snapshot {m m' : RefreshMemory} {op : RefreshOp} (hlocks : op.locks = false)
    (hs : memoryStep m op = some m') : m'.state.snapshot = m.state.snapshot := by
  -- only a section under the lock changes `g_snapshot`
  obtain ⟨hstep, -⟩ := memoryStep_spec hs
  generalize m'.state = s' at hstep
  cases hstep with
  | check | primeLock | publish | drain | clear => cases hlocks
  | @size t gen _ allocated =>
    obtain ⟨pc, heq, -⟩ := m.state.buildSize_eq t gen allocated
    rw [heq]
    rfl
  | teardown =>
    obtain ⟨_, _, heq⟩ := m.state.startTeardown_eq
    rw [heq]
  | _ => rfl

/-- A reader in a section holds the lock, so the snapshot is still the first one, and what is
left of the section has the result of the whole. -/
structure ReadersInv (s : ReadersState ρ) : Prop where
  memory : MemoryInv s.mem
  pointers : PointersOk s.mem
  inside : ∀ {t whole first left}, s.readers t = .inside whole first left →
    s.holder = some t ∧ s.mem.state.snapshot = first ∧ left.eval first = whole.eval first

theorem readersInv_init (lock refreshCall : Bool) (registry : List RegEntry) :
    ReadersInv (.init lock refreshCall registry : ReadersState ρ) :=
  ⟨memoryInv_init .., pointersOk_init .., by rintro t whole first left ⟨⟩⟩

namespace ReadersInv
variable {s s' : ReadersState ρ} {t : ℕ}

theorem setReader (h : ReadersInv s) {holder : Option ℕ} {pc : ReaderPc ρ}
    (hothers : ∀ u whole first left, s.readers u = .inside whole first left → u = t)
    (hpc : ∀ {whole first left}, pc = .inside whole first left →
      holder = some t ∧ s.mem.state.snapshot = first ∧ left.eval first = whole.eval first) :
    ReadersInv { s with holder := holder, readers := Function.update s.readers t pc } := by
  refine ⟨h.memory, h.pointers, ?_⟩
  intro u whole first left hu
  change Function.update s.readers t pc u = _ at hu
  by_cases hut : u = t
  · rw [hut, Function.update_self] at hu
    exact hut ▸ hpc hu
  · rw [Function.update_of_ne hut] at hu
    exact absurd (hothers u whole first left hu) hut

theorem only (h : ReadersInv s) {whole left : Section ρ} {first : GSnapshot}
    (ht : s.readers t = .inside whole first left) (u : ℕ) (whole' : Section ρ)
    (first' : GSnapshot) (left' : Section ρ) (hu : s.readers u = .inside whole' first' left') :
    u = t := Option.some_inj.mp ((h.inside hu).1.symm.trans (h.inside ht).1)

theorem snap (h : ReadersInv s) {op : RefreshOp} (hs : readersStep s (.snap op) = some s') :
    ReadersInv s' := by
  rw [readersStep] at hs
  obtain ⟨⟨hfree, -⟩, hs⟩ := Option.ite_none_right_eq_some.mp hs
  obtain ⟨mem, hmem, rfl⟩ := Option.map_eq_some_iff.mp hs
  refine ⟨memoryInv_step h.memory hmem, pointersOk_step h.pointers hmem, ?_⟩
  intro t whole first left ht
  obtain ⟨hholder, hsame, heval⟩ := h.inside ht
  -- the lock is taken, so this is no section of another thread
  have hlocks : op.locks = false := by
    by_contra hl
    rw [Bool.not_eq_false] at hl
    cases hholder.symm.trans (hfree hl)
  exact ⟨hholder, (memoryStep_snapshot hlocks hmem).trans hsame, heval⟩

end ReadersInv

theorem readersInv_step {s s' : ReadersState ρ} {op : ReadersOp ρ} (h : ReadersInv s)
    (hs : readersStep s op = some s') : ReadersInv s' := by
  cases op with
  | snap op => exact h.snap hs
  | lock t whole =>
    rw [readersStep] at hs
    split at hs
    · obtain ⟨⟨-, hnone⟩, hs⟩ := Option.ite_none_right_eq_some.mp hs
      cases hs
      refine h.setReader (fun u _ _ _ hu => ?_) ?_
      · cases (h.inside hu).1.symm.trans hnone
      · rintro whole' first left ⟨⟩
        exact ⟨rfl, rfl, rfl⟩
    · cases hs
  | access t =>
    rw [readersStep] at hs
    split at hs
    · next whole first next ht =>
      cases hs
      obtain ⟨hholder, hsame, heval⟩ := h.inside ht
      refine h.setReader (h.only ht) ?_
      rintro whole' first' left ⟨⟩
      refine ⟨hholder, hsame, ?_⟩
      rw [hsame]
      exact heval
    · cases hs
  | unlock t =>
    rw [readersStep] at hs
    split at hs
    · next whole first result ht =>
      cases hs
      apply h.setReader (h.only ht)
      rintro whole' first' left ⟨⟩
    · cases hs

/-- In every run of readers beside refreshes and the teardown: a reader in its section finds the
snapshot of the beginning at every access, and when it returns, the result is the one that the
section has for that snapshot. While it is there the snapshot is not freed. -/
theorem reader_sections_atomic {lock refreshCall : Bool} {registry : List RegEntry}
    {labels : List (ReadersOp ρ)} {s : ReadersState ρ}
    (h : Reached readersStep (.init lock refreshCall registry) labels s) {t : ℕ}
    {whole left : Section ρ} {first : GSnapshot} (ht : s.readers t = .inside whole first left) :
    s.mem.state.snapshot = first ∧ (∀ result, left = .done result → result = whole.eval first) ∧
      (first.isSome → ∃ i size, s.mem.snaps.owned .global = some i ∧
        s.mem.snaps.blocks[i]? = some (some size)) := by
  have hinv : ReadersInv s :=
    invariant_along (readersInv_init lock refreshCall registry)
      (fun _ _ _ hstep hinv => readersInv_step hinv hstep.step_eq) h
  obtain ⟨-, hsame, heval⟩ := hinv.inside ht
  refine ⟨hsame, ?_, fun hsome => ?_⟩
  · rintro result rfl
    exact heval
  · have howned : (s.mem.snaps.owned .global).isSome := by
      rw [hinv.pointers.global, hsame]
      exact hsome
    obtain ⟨i, hi⟩ := Option.isSome_iff_exists.mp howned
    obtain ⟨size, hsize⟩ := hinv.memory.balanced.block _ i hi
    exact ⟨i, size, hi, hsize⟩

def oneEntry : List RegEntry := [{ regid := 5, name := some (cstr "cpu") }]

/-- Thread 0 primes a snapshot; later thread 1 has built another one while thread 2 looks for
the entry. -/
def readBesideBuild : List (ReadersOp (Option UInt64)) :=
  List.flatten [
    [.snap (.prime 0), .snap (.primeLock 0), .snap (.sample 0), .snap (.size 0 true),
      .snap (.count 0 (some oneEntry)), .snap (.walk 0),
      .snap (.walkEnd 0 { yields := some oneEntry, kexts := none, uptime := 0 }),
      .snap (.publish 0), .snap (.free 0)],
    [.snap (.tick sysfsSnapMinRebuildNs), .snap (.mutate []), .snap (.ensure 0), .snap (.check 0),
      .snap (.enter 0), .snap (.start 1), .snap (.sample 1), .snap (.size 1 true),
      .snap (.walk 1)],
    [.lock 2 (childNamedSection 0 (cstr "cpu") 3), .access 2, .snap (.walkEnd 1 emptyBuild),
      .access 2, .access 2]]

def ReaderPc.result : ReaderPc ρ → Option ρ
  | .inside _ _ (.done result) => some result
  | _ => none

theorem ReaderPc.inside_of_result {pc : ReaderPc ρ} {result : ρ} (h : pc.result = some result) :
    ∃ whole first, pc = .inside whole first (.done result) := by
  revert h
  fun_cases ReaderPc.result pc with
  | case1 whole first result' =>
    rintro ⟨⟩
    exact ⟨whole, first, rfl⟩
  | case2 =>
    rintro ⟨⟩

/-- The reader returns the entry that is in the published snapshot. -/
theorem readBesideBuild_atomic : ∃ s whole first,
    run readersStep (.init true true oneEntry) readBesideBuild = some s ∧
      s.readers 2 = .inside whole first (.done (some 5)) ∧ s.mem.state.snapshot = first ∧
      whole.eval first = some 5 := by
  have hrun : (run readersStep (.init true true oneEntry) readBesideBuild).any fun s =>
      decide ((s.readers 2).result = some (some 5)) := by
    decide +kernel
  obtain ⟨s, hs, hok⟩ := (Option.any_eq_true _ _).mp hrun
  obtain ⟨whole, first, hreader⟩ := ReaderPc.inside_of_result (of_decide_eq_true hok)
  obtain ⟨hsame, heval, -⟩ := reader_sections_atomic (reached_of_run hs) hreader
  exact ⟨s, whole, first, hs, hreader, hsame, (heval (some 5) rfl).symm⟩

end SysFS
