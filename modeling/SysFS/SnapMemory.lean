import Mathlib
import SysFS.Lib.Blocks
import SysFS.RefreshMemory
import SysFS.SnapChildren

namespace SysFS
open StateProg Transition BlockHeap

/-- The blocks in use and `sysfs_stat_snap_bytes`. -/
structure KernelMemory where
  heap : BlockHeap
  statSnapBytes : ℤ

abbrev MemProg := StateT KernelMemory Option

/-- `sysfs_alloc`, with a null pointer when it does not succeed. -/
def sysfsAlloc (succeeds : Bool) (n : ℕ) : MemProg (Option ℕ) := fun m =>
  if succeeds then some (some m.heap.next, { m with heap := m.heap.alloc n })
  else some (none, m)

def ioFree (addr len : ℕ) : MemProg Unit := fun m =>
  (m.heap.free (addr, len)).map fun heap => ((), { m with heap := heap })

def sysfsFree (addr : Option ℕ) (len : ℕ) : MemProg Unit :=
  match addr with
  | none => pure ()
  | some a => if 0 < len then ioFree a len else pure ()

/-- `OSAddAtomic64` on `sysfs_stat_snap_bytes`. -/
def addSnapBytes (n : ℤ) : MemProg Unit := fun m =>
  some ((), { m with statSnapBytes := m.statSnapBytes + n })

def dropSnapBytes (bytes : ℕ) : MemProg Unit :=
  if bytes ≠ 0 then addSnapBytes (-bytes) else pure ()

/-- The pointers and lengths of a `struct sysfs_snapshot` at address `self`. -/
structure SnapBlocks where
  self : ℕ
  modules : Option ℕ := none
  moduleCap : ℕ := 0
  nodes : Option ℕ
  childIdx : Option ℕ
  hash : Option ℕ
  nodeCap : ℕ := 0
  childCap : ℕ := 0
  hashSize : ℕ := 0
  bytes : ℕ := 0
  deriving DecidableEq, Repr

/-- `sysfs_snap_free`. The lengths are set only when all three tables are allocated. -/
def sysfsSnapFree (p : SnapBlocks) : MemProg Unit := do
  sysfsFree p.modules (p.moduleCap * sizeofSnapModule)
  sysfsFree p.nodes (p.nodeCap * sizeofSnapNode)
  sysfsFree p.childIdx (p.childCap * sizeofChildIdx)
  sysfsFree p.hash (p.hashSize * sizeofHashSlot)
  dropSnapBytes p.bytes
  sysfsFree (some p.self) sizeofSnapshot

/-- `sysfs_snap_build_modules`. -/
def snapBuildModulesMem (allocs : BuildAllocs) (kexts : Option (List KextEntry))
    (p : SnapBlocks) : MemProg SnapBlocks :=
  if !allocs.moduleKeys then pure p
  else
    match kexts with
    | none => pure p
    | some info =>
      if info.length = 0 then pure p
      else do
        let cap := min info.length sysfsIokitMaxmodules
        let arr ← sysfsAlloc allocs.modules (cap * sizeofSnapModule)
        if arr.isNone then pure p
        else if !allocs.moduleIter then do
          sysfsFree arr (cap * sizeofSnapModule)
          pure p
        else do
          addSnapBytes (cap * sizeofSnapModule : ℕ)
          pure { p with
            modules := arr
            moduleCap := cap
            bytes := p.bytes + cap * sizeofSnapModule }

def sizeofChildCount : ℕ := 8
def sizeofCursor : ℕ := 4

/-- `sysfs_snap_build` after the walk. -/
def snapFinishMem (inp : BuildInput) (p : SnapBlocks) (snap : Snapshot) :
    MemProg (Option (SnapBlocks × Snapshot)) := do
  let counts ← sysfsAlloc inp.allocs.childCounts (snap.nodeCount * sizeofChildCount)
  if counts.isNone then
    pure (some (p,
      { snap with
        nodes := snap.nodes.map fun nd => { nd with numChildren := 0, firstChild := 0 }
        uptime := inp.uptime }))
  else if (childCounts snap).sum > p.childCap then do
    sysfsFree counts (snap.nodeCount * sizeofChildCount)
    sysfsSnapFree p
    pure none
  else do
    let cursor ← sysfsAlloc inp.allocs.cursor (snap.nodeCount * sizeofCursor)
    let snap' := buildOrdinals (buildChildren cursor.isSome snap)
    sysfsFree cursor (snap.nodeCount * sizeofCursor)
    sysfsFree counts (snap.nodeCount * sizeofChildCount)
    let q ← snapBuildModulesMem inp.allocs inp.kexts p
    pure (some (q,
      { snap' with
        modules := sysfsSnapBuildModules inp.allocs inp.kexts
        uptime := inp.uptime }))

/-- `cap`, from `g_last_node_count` or the counting walk. -/
def requestedCap (lastNodeCount : ℕ) (counted : Option (List RegEntry)) : ℕ :=
  buildCap (if lastNodeCount ≠ 0 then lastNodeCount else sysfsCountEntries counted)

/-- `sysfs_snap_build` with its allocations. -/
def snapBuildMem (lastNodeCount : ℕ) (counted : Option (List RegEntry)) (inp : BuildInput) :
    MemProg (Option (SnapBlocks × Snapshot)) := do
  match ← sysfsAlloc inp.allocs.snap sizeofSnapshot with
  | none => pure none
  | some self => do
    let cap := requestedCap lastNodeCount counted
    let hsize := buildHashSize cap
    let nodes ← sysfsAlloc inp.allocs.nodes (cap * sizeofSnapNode)
    let childIdx ← sysfsAlloc inp.allocs.childIdx (cap * sizeofChildIdx)
    let hash ← sysfsAlloc inp.allocs.hash (hsize * sizeofHashSlot)
    let p : SnapBlocks := { self := self, nodes := nodes, childIdx := childIdx, hash := hash }
    if nodes.isNone ∨ childIdx.isNone ∨ hash.isNone then do
      -- the lengths are still 0 here, so only the structure itself is released
      sysfsSnapFree p
      pure none
    else do
      addSnapBytes (tableBytes cap)
      let q := { p with
        nodeCap := cap, childCap := cap, hashSize := hsize, bytes := tableBytes cap }
      snapFinishMem inp q (snapWalk cap inp.yields)

def InUse (v : ℤ) (bs : Multiset (ℕ × ℕ)) (m : KernelMemory) : Prop :=
  m.heap.live = bs ∧ m.statSnapBytes = v

section Allocator

variable {v : ℤ} {bs : Multiset (ℕ × ℕ)}

theorem sysfsAlloc_returns (succeeds : Bool) {n : ℕ} (hn : 0 < n) :
    Returns (InUse v bs) (sysfsAlloc succeeds n)
      fun a m => a.isSome = succeeds ∧ InUse v (blockAt a n + bs) m := by
  constructor
  intro m hm
  cases succeeds with
  | false => exact ⟨none, m, rfl, rfl, by rwa [blockAt, zero_add]⟩
  | true =>
    refine ⟨_, _, rfl, rfl, ?_, hm.2⟩
    rw [blockAt_pos hn, Multiset.singleton_add, ← hm.1]
    rfl

theorem sysfsFree_returns (addr : Option ℕ) (len : ℕ) :
    Returns (InUse v (blockAt addr len + bs)) (sysfsFree addr len) fun _ => InUse v bs := by
  constructor
  intro m hm
  cases addr with
  | none => exact ⟨(), m, rfl, by rwa [blockAt, zero_add] at hm⟩
  | some a =>
    rw [blockAt] at hm
    rw [sysfsFree]
    split at hm
    · next hlen =>
      obtain ⟨heap, hfree, hlive⟩ := free_live hm.1
      rw [if_pos hlen]
      exact ⟨(), { m with heap := heap }, by rw [ioFree, hfree, Option.map_some], hlive, hm.2⟩
    · next hlen =>
      rw [if_neg hlen]
      exact ⟨(), m, rfl, by rwa [zero_add] at hm⟩

theorem addSnapBytes_returns (n : ℤ) :
    Returns (InUse v bs) (addSnapBytes n) fun _ => InUse (v + n) bs :=
  ⟨fun _ hm => ⟨(), _, rfl, hm.1, congrArg (· + n) hm.2⟩⟩

theorem dropSnapBytes_returns (bytes : ℕ) :
    Returns (InUse v bs) (dropSnapBytes bytes) fun _ => InUse (v - bytes) bs := by
  rw [dropSnapBytes]
  split
  · exact addSnapBytes_returns _
  · next h =>
    rw [not_not.mp h, Int.natCast_zero, sub_zero]
    exact .pure fun _ hm => hm

end Allocator

/-- The blocks that `sysfs_snap_free` releases. -/
def SnapBlocks.blocks (p : SnapBlocks) : Multiset (ℕ × ℕ) :=
  blockAt p.modules (p.moduleCap * sizeofSnapModule) +
    (blockAt p.nodes (p.nodeCap * sizeofSnapNode) +
      (blockAt p.childIdx (p.childCap * sizeofChildIdx) +
        (blockAt p.hash (p.hashSize * sizeofHashSlot) + blockAt (some p.self) sizeofSnapshot)))

def totalLength (bs : Multiset (ℕ × ℕ)) : ℕ := (bs.map Prod.snd).sum

theorem totalLength_add (bs cs : Multiset (ℕ × ℕ)) :
    totalLength (bs + cs) = totalLength bs + totalLength cs := by
  rw [totalLength, Multiset.map_add, Multiset.sum_add]
  rfl

theorem totalLength_blockAt (addr : Option ℕ) (len : ℕ) :
    totalLength (blockAt addr len) = if addr.isSome then len else 0 := sum_blockAt addr len

section Build

variable {v : ℤ} {base : Multiset (ℕ × ℕ)} {p : SnapBlocks} {inp : BuildInput}

theorem sysfsSnapFree_returns (base : Multiset (ℕ × ℕ)) (p : SnapBlocks) :
    Returns (InUse v (p.blocks + base)) (sysfsSnapFree p) fun _ => InUse (v - p.bytes) base := by
  simp only [SnapBlocks.blocks, add_assoc]
  refine (sysfsFree_returns ..).bind fun _ => (sysfsFree_returns ..).bind fun _ => ?_
  refine (sysfsFree_returns ..).bind fun _ => (sysfsFree_returns ..).bind fun _ => ?_
  exact (dropSnapBytes_returns p.bytes).bind fun _ => sysfsFree_returns ..

/-- Beside `base` the blocks in use are those of `p`, and the counter is ahead of `v` by them. -/
def HasSnap (v : ℤ) (base : Multiset (ℕ × ℕ)) (p : SnapBlocks) (m : KernelMemory) : Prop :=
  totalLength p.blocks = p.bytes ∧ InUse (v + p.bytes) (p.blocks + base) m

theorem HasSnap.addModules {arr : Option ℕ} {cap : ℕ} {m : KernelMemory} (hp : p.modules = none)
    (harr : arr.isSome) (htotal : totalLength p.blocks = p.bytes)
    (hm : InUse (v + p.bytes + (cap * sizeofSnapModule : ℕ))
      (blockAt arr (cap * sizeofSnapModule) + (p.blocks + base)) m) :
    HasSnap v base
      { p with modules := arr, moduleCap := cap, bytes := p.bytes + cap * sizeofSnapModule } m := by
  have hblocks : p.blocks = blockAt p.nodes (p.nodeCap * sizeofSnapNode) +
      (blockAt p.childIdx (p.childCap * sizeofChildIdx) +
        (blockAt p.hash (p.hashSize * sizeofHashSlot) + blockAt (some p.self) sizeofSnapshot)) := by
    rw [SnapBlocks.blocks, hp, blockAt, zero_add]
  refine ⟨?_, ?_⟩
  · rw [SnapBlocks.blocks, ← hblocks, totalLength_add, totalLength_blockAt, if_pos harr, htotal,
      Nat.add_comm]
  · rw [SnapBlocks.blocks, ← hblocks, Int.natCast_add, ← add_assoc, add_assoc (blockAt _ _)]
    exact hm

theorem snapBuildModulesMem_returns (allocs : BuildAllocs) (kexts : Option (List KextEntry))
    (hp : p.modules = none) :
    Returns (HasSnap v base p) (snapBuildModulesMem allocs kexts p)
      fun q m => q.bytes = p.bytes + moduleBytes allocs kexts ∧ HasSnap v base q m := by
  unfold snapBuildModulesMem moduleBytes
  split
  · exact .pure fun _ hm => ⟨rfl, hm⟩
  cases kexts with
  | none => exact .pure fun _ hm => ⟨rfl, hm⟩
  | some info =>
    dsimp only
    split
    · next hinfo =>
      refine .pure fun _ hm => ⟨?_, hm⟩
      rw [hinfo, Nat.zero_min, Nat.zero_mul, ite_self, Nat.add_zero]
    next hinfo =>
    apply Returns.assume
    intro htotal
    have hpos : 0 < min info.length sysfsIokitMaxmodules * sizeofSnapModule :=
      Nat.mul_pos (lt_min (Nat.pos_of_ne_zero hinfo) (by decide)) (by decide)
    refine (sysfsAlloc_returns allocs.modules hpos).bind fun arr => .assume fun harr => ?_
    split
    · next hnone =>
      rw [Option.isNone_iff_eq_none.mp hnone] at harr ⊢
      have hfailed : (!allocs.modules) = true := by
        rw [← harr]
        rfl
      rw [if_pos (Or.inl hfailed), blockAt, zero_add]
      exact .pure fun _ hm => ⟨rfl, htotal, hm⟩
    next hsome =>
    rw [Option.isNone_iff_eq_none, ← Ne, ← Option.isSome_iff_ne_none] at hsome
    rw [← harr, hsome]
    split
    · next hiter =>
      rw [if_pos (Or.inr hiter)]
      exact (sysfsFree_returns ..).bind fun _ => .pure fun _ hm => ⟨rfl, htotal, hm⟩
    · next hiter =>
      rw [if_neg (by simpa using hiter)]
      refine (addSnapBytes_returns _).bind fun _ => .pure fun _ hm => ⟨rfl, ?_⟩
      exact .addModules hp hsome htotal hm

/-- What `sysfs_snap_build_modules` adds, where the build gets there. -/
def finishBytes (inp : BuildInput) : ℕ :=
  if !inp.allocs.childCounts then 0 else moduleBytes inp.allocs inp.kexts

theorem snapFinishMem_returns {cap : ℕ} {es : List RegEntry} {snap : Snapshot}
    (hrec : Recorded cap es snap) (hcap : p.childCap = cap) (hp : p.modules = none) :
    Returns (HasSnap v base p) (snapFinishMem inp p snap) fun built m =>
      ∃ q snap', built = some (q, snap') ∧ snapFinish inp snap = some snap' ∧
        q.bytes = p.bytes + finishBytes inp ∧ HasSnap v base q m := by
  have hcount := hrec.nodeCount_pos
  have hsum : ¬(childCounts snap).sum > p.childCap := by
    rw [hcap, ← hrec.childIdx]
    exact hrec.sum_childCounts_le.not_gt
  apply Returns.assume
  intro htotal
  refine (sysfsAlloc_returns inp.allocs.childCounts (Nat.mul_pos hcount (by decide))).bind
    fun counts => .assume fun hcounts => ?_
  rw [finishBytes, snapFinish, ← hcounts]
  cases counts with
  | none =>
    rw [blockAt, zero_add]
    exact .pure fun _ hm => ⟨p, _, rfl, rfl, rfl, htotal, hm⟩
  | some c =>
    rw [if_neg (by simp), if_neg hsum]
    refine (sysfsAlloc_returns inp.allocs.cursor (Nat.mul_pos hcount (by decide))).bind
      fun cursor => .assume fun hcursor => ?_
    refine (sysfsFree_returns ..).bind fun _ => (sysfsFree_returns ..).bind fun _ => ?_
    refine ((snapBuildModulesMem_returns inp.allocs inp.kexts hp).before fun _ hm =>
      ⟨htotal, hm⟩).bind fun q => .pure fun _ hm => ?_
    rw [hcursor]
    refine ⟨q, _, rfl, ?_, hm⟩
    rw [if_neg (by simp), if_neg (by rwa [hrec.childIdx, ← hcap])]

/-- Some of the three tables are allocated, and not all of them. -/
def BuildAllocs.tablesPartly (a : BuildAllocs) : Bool :=
  a.snap && (a.nodes || a.childIdx || a.hash) && !(a.nodes && a.childIdx && a.hash)

def leakedBytes (cap : ℕ) (a : BuildAllocs) : ℕ :=
  if a.tablesPartly then
    (if a.nodes then cap * sizeofSnapNode else 0) +
      ((if a.childIdx then cap * sizeofChildIdx else 0) +
        if a.hash then buildHashSize cap * sizeofHashSlot else 0)
  else 0

/-- How a build ends: with the snapshot's blocks, or without one and with blocks that are lost. -/
def BuildEnds (v : ℤ) (base : Multiset (ℕ × ℕ)) (cap : ℕ) (inp : BuildInput)
    (built : Option (SnapBlocks × Snapshot)) (m : KernelMemory) : Prop :=
  match built with
  | none =>
    ∃ lost, totalLength lost = leakedBytes cap inp.allocs ∧
      (inp.allocs.tablesPartly = false → lost = 0) ∧ InUse v (lost + base) m
  | some (p, _) =>
    inp.allocs.tablesPartly = false ∧ p.bytes = tableBytes cap + finishBytes inp ∧
      HasSnap v base p m

def tables (cap : ℕ) (nodes childIdx hash : Option ℕ) : Multiset (ℕ × ℕ) :=
  blockAt nodes (cap * sizeofSnapNode) +
    (blockAt childIdx (cap * sizeofChildIdx) + blockAt hash (buildHashSize cap * sizeofHashSlot))

theorem totalLength_tables (cap : ℕ) (nodes childIdx hash : Option ℕ) :
    totalLength (tables cap nodes childIdx hash) =
      (if nodes.isSome then cap * sizeofSnapNode else 0) +
        ((if childIdx.isSome then cap * sizeofChildIdx else 0) +
          if hash.isSome then buildHashSize cap * sizeofHashSlot else 0) := by
  rw [tables, totalLength_add, totalLength_add, totalLength_blockAt, totalLength_blockAt,
    totalLength_blockAt]

theorem blockAt_zero_mul (addr : Option ℕ) (n : ℕ) : blockAt addr (0 * n) = 0 := by
  rw [Nat.zero_mul]
  cases addr <;> rfl

theorem blocks_unsized {self : ℕ} {nodes childIdx hash : Option ℕ} :
    (SnapBlocks.blocks { self := self, nodes := nodes, childIdx := childIdx, hash := hash }) =
      blockAt (some self) sizeofSnapshot := by
  simp only [SnapBlocks.blocks, blockAt_zero_mul, zero_add]

theorem blocks_sized {self cap bytes : ℕ} {nodes childIdx hash : Option ℕ} :
    (SnapBlocks.blocks
      { self := self, nodes := nodes, childIdx := childIdx, hash := hash, nodeCap := cap,
        childCap := cap, hashSize := buildHashSize cap, bytes := bytes }) =
      tables cap nodes childIdx hash + blockAt (some self) sizeofSnapshot := by
  simp only [SnapBlocks.blocks, blockAt_zero_mul, zero_add, tables, add_assoc]

theorem tablesMissing_returns {cap self : ℕ} {nodes childIdx hash : Option ℕ}
    (hsnap : inp.allocs.snap) (hnodes : nodes.isSome = inp.allocs.nodes)
    (hchild : childIdx.isSome = inp.allocs.childIdx) (hhash : hash.isSome = inp.allocs.hash)
    (hmissing : nodes.isNone ∨ childIdx.isNone ∨ hash.isNone) :
    Returns
      (InUse v (tables cap nodes childIdx hash + blockAt (some self) sizeofSnapshot + base))
      (do
        sysfsSnapFree { self := self, nodes := nodes, childIdx := childIdx, hash := hash }
        pure none)
      fun built m => built = none ∧ BuildEnds v base cap inp built m := by
  -- nothing was counted for this snapshot yet
  have hfree := sysfsSnapFree_returns (v := v) (tables cap nodes childIdx hash + base)
    { self := self, nodes := nodes, childIdx := childIdx, hash := hash }
  rw [blocks_unsized, Int.natCast_zero, sub_zero, ← add_assoc, add_comm (blockAt _ _)] at hfree
  refine hfree.bind fun _ => .pure fun _ hm => ⟨rfl, _, ?_, ?_, hm⟩
  · rw [totalLength_tables, leakedBytes, BuildAllocs.tablesPartly, hsnap, ← hnodes, ← hchild,
      ← hhash]
    cases nodes <;> cases childIdx <;> cases hash <;> simp at hmissing ⊢
  · rw [BuildAllocs.tablesPartly, hsnap, ← hnodes, ← hchild, ← hhash]
    cases nodes <;> cases childIdx <;> cases hash <;> simp [tables, blockAt] at hmissing ⊢

theorem HasSnap.sized {cap self : ℕ} {nodes childIdx hash : Option ℕ} {m : KernelMemory}
    (hall : nodes.isSome ∧ childIdx.isSome ∧ hash.isSome)
    (hm : InUse (v + tableBytes cap)
      (tables cap nodes childIdx hash + blockAt (some self) sizeofSnapshot + base) m) :
    HasSnap v base
      { self := self, nodes := nodes, childIdx := childIdx, hash := hash, nodeCap := cap,
        childCap := cap, hashSize := buildHashSize cap, bytes := tableBytes cap } m := by
  refine ⟨?_, ?_⟩
  · rw [blocks_sized, totalLength_add, totalLength_tables, totalLength_blockAt, if_pos hall.1,
      if_pos hall.2.1, if_pos hall.2.2, if_pos Option.isSome_some]
    show _ = tableBytes cap
    rw [tableBytes]
    omega
  · rwa [blocks_sized]

theorem sysfsSnapBuild_eq {lastNodeCount : ℕ} {counted : Option (List RegEntry)}
    (h : inp.allocs.snap = true) :
    sysfsSnapBuild lastNodeCount counted inp =
      snapBuildSized (requestedCap lastNodeCount counted) lastNodeCount inp := by
  rw [sysfsSnapBuild, h]
  rfl

theorem snapBuildMem_returns (lastNodeCount : ℕ) (counted : Option (List RegEntry))
    (inp : BuildInput) :
    Returns (InUse v base) (snapBuildMem lastNodeCount counted inp) fun built m =>
      built.map Prod.snd = (sysfsSnapBuild lastNodeCount counted inp).1 ∧
        BuildEnds v base (requestedCap lastNodeCount counted) inp built m := by
  have hpos : 0 < requestedCap lastNodeCount counted := buildCap_pos _
  have hle : requestedCap lastNodeCount counted ≤ sysfsIokitMaxnodes := buildCap_le _
  have hhpos : 0 < buildHashSize (requestedCap lastNodeCount counted) := by
    have := le_buildHashSize hle
    omega
  refine (sysfsAlloc_returns inp.allocs.snap (by decide)).bind fun self => .assume fun hself => ?_
  cases self with
  | none =>
    rw [sysfsSnapBuild, ← hself, blockAt, zero_add]
    refine .pure fun m hm => ⟨rfl, 0, ?_, fun _ => rfl, by rwa [zero_add]⟩
    rw [leakedBytes, BuildAllocs.tablesPartly, ← hself]
    rfl
  | some self =>
    refine (sysfsAlloc_returns inp.allocs.nodes (Nat.mul_pos hpos (by decide))).bind
      fun nodes => .assume fun hnodes => ?_
    refine (sysfsAlloc_returns inp.allocs.childIdx (Nat.mul_pos hpos (by decide))).bind
      fun childIdx => .assume fun hchild => ?_
    refine (sysfsAlloc_returns inp.allocs.hash (Nat.mul_pos hhpos (by decide))).bind
      fun hash => .assume fun hhash => ?_
    have hlive (x y z w : Multiset (ℕ × ℕ)) :
        x + (y + (z + (w + base))) = z + (y + x) + w + base := by abel
    rw [hlive, ← tables, sysfsSnapBuild_eq hself.symm, snapBuildSized, ← hnodes, ← hchild, ← hhash]
    simp only [Option.not_isSome]
    split
    · next hmissing =>
      refine (tablesMissing_returns hself.symm hnodes hchild hhash hmissing).after ?_
      rintro built m ⟨rfl, hm⟩
      exact ⟨rfl, hm⟩
    · next hall =>
      simp only [not_or, Bool.not_eq_true, Option.isNone_eq_false_iff] at hall
      obtain ⟨es, hrec, _⟩ := snapWalk_spec hpos hle inp.yields
      refine (addSnapBytes_returns _).bind fun _ => ?_
      refine ((snapFinishMem_returns hrec rfl rfl).before fun m hm => .sized hall hm).after ?_
      rintro built m ⟨q, snap', rfl, hfinish, hbytes, hsnap⟩
      refine ⟨hfinish.symm, ?_, hbytes, hsnap⟩
      rw [BuildAllocs.tablesPartly, ← hnodes, ← hchild, ← hhash, hall.1, hall.2.1, hall.2.2]
      exact Bool.and_false _

end Build

/-- Without a snapshot everything the build allocated is released. With one, exactly its
blocks remain, and freeing it releases each of them. -/
def BuildBalanced (lastNodeCount : ℕ) (counted : Option (List RegEntry)) (inp : BuildInput) :
    Prop :=
  ∀ m, ∃ built m', snapBuildMem lastNodeCount counted inp m = some (built, m') ∧
    match built with
    | none => m'.heap.live = m.heap.live
    | some (p, _) =>
      m'.heap.live = p.blocks + m.heap.live ∧ ∃ m'', sysfsSnapFree p m' = some ((), m'') ∧
        m''.heap.live = m.heap.live ∧ ∀ b ∈ p.blocks, b ∉ m''.heap.live

theorem leakedBytes_pos {cap : ℕ} {a : BuildAllocs} (hcap : 0 < cap) (h : a.tablesPartly) :
    0 < leakedBytes cap a := by
  have hhash : 0 < buildHashSize cap := by
    have ⟨k, hk⟩ := buildHashSize_eq_two_pow cap
    rw [hk]
    exact Nat.two_pow_pos k
  have hsome : a.nodes ∨ a.childIdx ∨ a.hash := by
    simp only [BuildAllocs.tablesPartly, Bool.and_eq_true, Bool.or_eq_true, or_assoc] at h
    exact h.1.2
  rw [leakedBytes, if_pos h, sizeofSnapNode, sizeofChildIdx, sizeofHashSlot]
  rcases hsome with h | h | h <;> rw [if_pos h] <;> omega

theorem buildBalanced_iff (lastNodeCount : ℕ) (counted : Option (List RegEntry))
    (inp : BuildInput) :
    BuildBalanced lastNodeCount counted inp ↔ inp.allocs.tablesPartly = false := by
  have hends (m : KernelMemory) :=
    (snapBuildMem_returns lastNodeCount counted inp).run m ⟨rfl, rfl⟩
  constructor
  · intro h
    by_contra hpartly
    rw [Bool.not_eq_false] at hpartly
    have ⟨built, m', hrun, hbal⟩ := h ⟨.empty, 0⟩
    have ⟨built', m'', hrun', _, hbuild⟩ := hends ⟨.empty, 0⟩
    cases hrun.symm.trans hrun'
    cases built with
    | some r =>
      rw [hbuild.1] at hpartly
      cases hpartly
    | none =>
      have ⟨lost, htotal, _, hlive, _⟩ := hbuild
      have hlost : lost = 0 := add_eq_right.mp (hlive.symm.trans hbal)
      have hcap : 0 < requestedCap lastNodeCount counted := buildCap_pos _
      have hpos := leakedBytes_pos hcap hpartly
      rw [← htotal, hlost] at hpos
      cases hpos
  · intro hpartly m
    have ⟨built, m', hrun, _, hbuild⟩ := hends m
    refine ⟨built, m', hrun, ?_⟩
    cases built with
    | none =>
      have ⟨lost, _, hlost, hlive, _⟩ := hbuild
      show m'.heap.live = m.heap.live
      rw [hlive, hlost hpartly, zero_add]
    | some r =>
      have ⟨_, _, _, hlive, hstat⟩ := hbuild
      have ⟨_, m'', hfree, hlive', _⟩ := (sysfsSnapFree_returns _ r.1).run m' ⟨hlive, hstat⟩
      refine ⟨hlive, m'', hfree, hlive', ?_⟩
      intro b hb
      rw [hlive']
      exact not_mem_of_live hlive hb

/-- The memory, and the snapshots that were built and not freed. -/
structure SnapsInMemory where
  mem : KernelMemory
  snaps : List SnapBlocks

def SnapsInMemory.init : SnapsInMemory := ⟨⟨.empty, 0⟩, []⟩

inductive SnapOp
  | build (lastNodeCount : ℕ) (counted : Option (List RegEntry)) (inp : BuildInput)
  | free (i : ℕ)

def snapOpStep (s : SnapsInMemory) : SnapOp → Option SnapsInMemory
  | .build lastNodeCount counted inp =>
    (snapBuildMem lastNodeCount counted inp s.mem).map fun r =>
      ⟨r.2, (r.1.map Prod.fst).toList ++ s.snaps⟩
  | .free i =>
    s.snaps[i]?.bind fun p => (sysfsSnapFree p s.mem).map fun r => ⟨r.2, s.snaps.eraseIdx i⟩

def SnapOp.possible (s : SnapsInMemory) : SnapOp → Prop
  | .build .. => True
  | .free i => i < s.snaps.length

def SnapOp.tablesPartly : SnapOp → Bool
  | .build _ _ inp => inp.allocs.tablesPartly
  | .free _ => false

def SnapOp.leakedBytes : SnapOp → ℕ
  | .build lastNodeCount counted inp =>
    SysFS.leakedBytes (requestedCap lastNodeCount counted) inp.allocs
  | .free _ => 0

/-- The blocks in use are those of the snapshots and `lost`; the counter is about the former. -/
structure SnapsCounted (s : SnapsInMemory) (lost : Multiset (ℕ × ℕ)) : Prop where
  live : s.mem.heap.live = (s.snaps.map SnapBlocks.blocks).sum + lost
  stat : s.mem.statSnapBytes = (s.snaps.map SnapBlocks.bytes).sum
  bytes : ∀ p ∈ s.snaps, totalLength p.blocks = p.bytes

namespace SnapsCounted

variable {s s' : SnapsInMemory} {lost : Multiset (ℕ × ℕ)}

theorem totalLength_blocks {snaps : List SnapBlocks}
    (h : ∀ p ∈ snaps, totalLength p.blocks = p.bytes) :
    totalLength (snaps.map SnapBlocks.blocks).sum = (snaps.map SnapBlocks.bytes).sum := by
  induction snaps with
  | nil => rfl
  | cons p snaps ih =>
    rw [List.map_cons, List.sum_cons, totalLength_add, List.map_cons, List.sum_cons,
      h p List.mem_cons_self, ih fun q hq => h q (List.mem_cons_of_mem _ hq)]

theorem total (h : SnapsCounted s lost) :
    (s.mem.heap.total : ℤ) = s.mem.statSnapBytes + totalLength lost := by
  have htotal : s.mem.heap.total = totalLength s.mem.heap.live := rfl
  rw [htotal, h.live, totalLength_add, totalLength_blocks h.bytes, h.stat, Int.natCast_add]

theorem build (h : SnapsCounted s lost) (lastNodeCount : ℕ) (counted : Option (List RegEntry))
    (inp : BuildInput) :
    ∃ s' more, snapOpStep s (.build lastNodeCount counted inp) = some s' ∧
      totalLength more = leakedBytes (requestedCap lastNodeCount counted) inp.allocs ∧
      SnapsCounted s' (more + lost) := by
  have ⟨built, m', hrun, _, hbuild⟩ :=
    (snapBuildMem_returns lastNodeCount counted inp).run s.mem ⟨h.live, h.stat⟩
  rw [snapOpStep, hrun]
  cases built with
  | none =>
    have ⟨more, htotal, _, hlive, hstat⟩ := hbuild
    refine ⟨_, more, rfl, htotal, ?_, hstat, h.bytes⟩
    rw [add_left_comm]
    exact hlive
  | some r =>
    have ⟨hpartly, _, hbytes, hlive, hstat⟩ := hbuild
    refine ⟨_, 0, rfl, ?_, ?_, ?_, ?_⟩
    · rw [leakedBytes, hpartly]
      rfl
    · rw [zero_add]
      exact hlive.trans (add_assoc ..).symm
    · refine hstat.trans ?_
      rw [add_comm, ← Int.natCast_add]
      rfl
    · exact List.forall_mem_cons.mpr ⟨hbytes, h.bytes⟩

theorem free (h : SnapsCounted s lost) {i : ℕ} (hi : i < s.snaps.length) :
    ∃ s', snapOpStep s (.free i) = some s' ∧ SnapsCounted s' lost := by
  have hperm := List.getElem_cons_eraseIdx_perm hi
  have hlive := h.live
  have hstat := h.stat
  rw [← (hperm.map SnapBlocks.blocks).sum_eq, List.map_cons, List.sum_cons, add_assoc] at hlive
  rw [← (hperm.map SnapBlocks.bytes).sum_eq, List.map_cons, List.sum_cons] at hstat
  have ⟨_, m', hrun, hlive', hstat'⟩ :=
    (sysfsSnapFree_returns _ s.snaps[i]).run s.mem ⟨hlive, hstat⟩
  rw [snapOpStep, List.getElem?_eq_getElem hi, Option.bind_some, hrun]
  refine ⟨_, rfl, hlive', ?_, ?_⟩
  · refine hstat'.trans ?_
    rw [Int.natCast_add, add_sub_cancel_left]
  · intro p hp
    exact h.bytes p (List.mem_of_mem_eraseIdx hp)

theorem step (h : SnapsCounted s lost) {op : SnapOp} (hstep : snapOpStep s op = some s') :
    ∃ more, totalLength more = op.leakedBytes ∧ SnapsCounted s' (more + lost) := by
  cases op with
  | build lastNodeCount counted inp =>
    have ⟨s₁, more, hs₁, htotal, hacc⟩ := h.build lastNodeCount counted inp
    cases hs₁.symm.trans hstep
    exact ⟨more, htotal, hacc⟩
  | free i =>
    have hi : i < s.snaps.length := by
      rw [snapOpStep, Option.bind_eq_some_iff] at hstep
      have ⟨p, hp, _⟩ := hstep
      exact (List.getElem?_eq_some_iff.mp hp).1
    have ⟨s₁, hs₁, hacc⟩ := h.free hi
    cases hs₁.symm.trans hstep
    exact ⟨0, rfl, by rwa [zero_add]⟩

theorem run (h : SnapsCounted s lost) {ops : List SnapOp}
    (hrun : Transition.run snapOpStep s ops = some s') :
    ∃ lost', totalLength lost' = (ops.map SnapOp.leakedBytes).sum + totalLength lost ∧
      SnapsCounted s' lost' := by
  induction ops generalizing s lost with
  | nil =>
    cases hrun
    exact ⟨lost, (Nat.zero_add _).symm, h⟩
  | cons op ops ih =>
    have ⟨s₁, hs₁, hrun₁⟩ := Option.bind_eq_some_iff.mp hrun
    have ⟨more, hmore, hacc⟩ := h.step hs₁
    have ⟨lost', hlost', hacc'⟩ := ih hacc hrun₁
    refine ⟨lost', ?_, hacc'⟩
    rw [hlost', totalLength_add, hmore, List.map_cons, List.sum_cons]
    omega

end SnapsCounted

theorem leakedBytes_eq_zero_iff (op : SnapOp) : op.leakedBytes = 0 ↔ op.tablesPartly = false := by
  cases op with
  | free i => exact ⟨fun _ => rfl, fun _ => rfl⟩
  | build lastNodeCount counted inp =>
    rw [SnapOp.leakedBytes, SnapOp.tablesPartly]
    constructor
    · intro h
      by_contra hpartly
      exact (leakedBytes_pos (buildCap_pos _) ((Bool.not_eq_false _).mp hpartly)).ne' h
    · intro h
      rw [leakedBytes, h]
      rfl

/-- A build keeps the blocks and the counter in step exactly when the three tables are
allocated all or not at all. -/
theorem snapshot_memory_iff {ops : List SnapOp} {s : SnapsInMemory}
    (hrun : run snapOpStep .init ops = some s) :
    (∀ lastNodeCount counted inp,
      BuildBalanced lastNodeCount counted inp ↔ inp.allocs.tablesPartly = false) ∧
    (∀ op : SnapOp, op.possible s → (snapOpStep s op).isSome) ∧
    (s.mem.statSnapBytes = s.mem.heap.total ↔ ∀ op ∈ ops, op.tablesPartly = false) := by
  have hinit : SnapsCounted .init 0 := ⟨rfl, rfl, nofun⟩
  have ⟨lost, hlost, hacc⟩ := hinit.run hrun
  refine ⟨buildBalanced_iff, ?_, ?_⟩
  · intro op hop
    cases op with
    | build lastNodeCount counted inp =>
      have ⟨s', _, hs', _⟩ := hacc.build lastNodeCount counted inp
      rw [hs', Option.isSome_some]
    | free i =>
      have ⟨s', hs', _⟩ := hacc.free hop
      rw [hs', Option.isSome_some]
  · have hzero : s.mem.statSnapBytes = s.mem.heap.total ↔ (ops.map SnapOp.leakedBytes).sum = 0 := by
      rw [hacc.total, hlost, totalLength, Multiset.map_zero, Multiset.sum_zero]
      omega
    rw [hzero, List.sum_eq_zero_iff_forall_eq_nat, List.forall_mem_map]
    exact forall₂_congr fun op _ => leakedBytes_eq_zero_iff op

def emptyRegistry : BuildInput := { yields := some [], kexts := none, uptime := 0 }

/-- A build that cannot allocate `child_idx` loses the nodes and the hash. -/
theorem childIdx_failure_leaks :
    ∃ s, run snapOpStep .init [.build 0 none { emptyRegistry with allocs.childIdx := false }] =
        some s ∧
      s.snaps = [] ∧ s.mem.statSnapBytes = 0 ∧
      s.mem.heap.live = {(2, 256 * 16), (1, 65 * 200)} := by
  have h : (run snapOpStep .init
      [.build 0 none { emptyRegistry with allocs.childIdx := false }]).any (fun s =>
        s.snaps = [] ∧ s.mem.statSnapBytes = 0 ∧
          s.mem.heap.live = {(2, 256 * 16), (1, 65 * 200)}) = true := by
    decide +kernel
  have ⟨s, hs, hp⟩ := (Option.any_eq_true _ _).mp h
  exact ⟨s, hs, of_decide_eq_true hp⟩

/-- Builds without an iterator, without cursors and without any table. -/
def buildsAndFree : List SnapOp :=
  [.build 0 none { emptyRegistry with yields := none },
    .build 7 none { emptyRegistry with allocs.cursor := false },
    .build 7 none
      { emptyRegistry with allocs := { nodes := false, childIdx := false, hash := false } },
    .free 1]

theorem builds_and_free_counted :
    ∃ s, run snapOpStep .init buildsAndFree = some s ∧
      s.mem.statSnapBytes = s.mem.heap.total := by
  have hsome : (run snapOpStep .init buildsAndFree).isSome := by decide +kernel
  have ⟨s, hs⟩ := Option.isSome_iff_exists.mp hsome
  exact ⟨s, hs, (snapshot_memory_iff hs).2.2.mpr (by decide)⟩

end SysFS
