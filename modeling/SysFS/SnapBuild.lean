import SysFS.Lib.Csr
import SysFS.Snapshot

namespace SysFS
open CString

def sysfsIokitMaxnodes : ℕ := 16384
def sysfsIokitMaxmodules : ℕ := 1024

/-- What `getParentEntry` returns for an entry. -/
inductive ParentEntry
  | none
  | registryRoot
  | entry (regid : UInt64)
  deriving DecidableEq, Repr

/-- What the build reads of a registry entry: the answers of `metaCast` for the four
classes, the property `BSD Name` where it is a string and whether `Whole` is true. -/
structure RegEntry where
  regid : UInt64
  parent : ParentEntry := .registryRoot
  name : Option CStr
  isMedia : Bool := false
  isNetworkInterface : Bool := false
  isSerialBsdClient : Bool := false
  isPowerSource : Bool := false
  bsdName : Option CStr := .none
  whole : Bool := false
  deriving DecidableEq, Repr

/-- The values of the four keys asked for, where they are present and of the right type. -/
structure KextDict where
  loadTag : Option UInt64
  loadSize : Option UInt64
  retainCount : Option UInt64
  version : Option CStr
  deriving DecidableEq, Repr

/-- An entry of the dictionary of loaded kexts. The key or the value is `none` where it
is not a string or not a dictionary. -/
structure KextEntry where
  ident : Option CStr
  info : Option KextDict
  deriving DecidableEq, Repr

structure BuildAllocs where
  snap : Bool := true
  nodes : Bool := true
  childIdx : Bool := true
  hash : Bool := true
  childCounts : Bool := true
  cursor : Bool := true
  moduleKeys : Bool := true
  modules : Bool := true
  moduleIter : Bool := true
  deriving DecidableEq, Repr

/-- What a build reads after its table is sized. `yields` are the results of the
iterator up to its first null, in their order; there may be no iterator, and no
dictionary of kexts. -/
structure BuildInput where
  allocs : BuildAllocs := {}
  yields : Option (List RegEntry)
  kexts : Option (List KextEntry)
  uptime : ℕ

/-- `sysfs_count_entries`, on what its iterator yields. -/
def sysfsCountEntries : Option (List RegEntry) → ℕ
  | none => 0
  | some yields => min yields.length sysfsIokitMaxnodes

/-- `cap`, from `maxe`. -/
def buildCap (maxe : ℕ) : ℕ := min (maxe + (maxe / 4 + 64) + 1) sysfsIokitMaxnodes

/-- The loop `while (hsize < cap * 2u) hsize <<= 1`, with at most the given number of rounds. -/
def hashSizeFrom (cap : ℕ) : ℕ → ℕ → ℕ
  | 0, hsize => hsize
  | n + 1, hsize => if hsize < cap * 2 then hashSizeFrom cap n (hsize * 2) else hsize

/-- `hsize`. A value of 32 bits is doubled at most 28 times from 16 on. -/
def buildHashSize (cap : ℕ) : ℕ := hashSizeFrom cap 28 16

/-- The loop of `sysfs_hash_insert`: `n` probes are left and the next one is at `h`. -/
def hashInsertFrom (hash : List HashSlot) (regid : UInt64) (index : ℕ) :
    ℕ → ℕ → List HashSlot
  | 0, _ => hash
  | n + 1, h =>
    match hash.getD h none with
    | none => hash.set h (some (regid, index))
    | some (r, _) =>
      if r = regid then hash
      else hashInsertFrom hash regid index n ((h + 1) &&& (hash.length - 1))

def sysfsHashInsert (hash : List HashSlot) (regid : UInt64) (index : ℕ) : List HashSlot :=
  hashInsertFrom hash regid index hash.length (sysfsHashOf regid &&& (hash.length - 1))

/-- `pregid`. -/
def RegEntry.parentRegid (e : RegEntry) : UInt64 :=
  match e.parent with
  | .none => 0
  | .registryRoot => 0
  | .entry regid => regid

/-- `cls`. -/
def RegEntry.classId (e : RegEntry) : UInt32 :=
  if e.isMedia then sysfsClassBlock
  else if e.isNetworkInterface then sysfsClassNet
  else if e.isSerialBsdClient then sysfsClassTty
  else if e.isPowerSource then sysfsClassPower
  else sysfsClassNone

def snapNode (e : RegEntry) : SnapNode :=
  let nd : SnapNode :=
    { regid := e.regid
      parentRegid := e.parentRegid
      name := strlcpy (e.name.getD (cstr "unknown")) sysfsIokitNamemax }
  let cls := e.classId
  if cls = sysfsClassNone then nd
  else
    match e.bsdName with
    | some bsd =>
      { nd with
        bsdname := strlcpy bsd sysfsIokitBsdnamemax
        classId := cls
        classFlags := if cls = sysfsClassBlock ∧ e.whole then sysfsClassfWhole else 0 }
    | none =>
      if cls = sysfsClassPower then
        { nd with bsdname := strlcpy nd.name sysfsIokitBsdnamemax, classId := cls }
      else nd

/-- The snapshot before the walk: node 0 and its slot in the hash. -/
def snapInit (cap : ℕ) : Snapshot where
  modules := []
  nodes := [{ regid := 0, parentRegid := 0, name := [] }]
  childIdx := List.replicate cap 0
  hash := sysfsHashInsert (List.replicate (buildHashSize cap) none) 0 0
  uptime := 0

def Snapshot.record (snap : Snapshot) (e : RegEntry) : Snapshot :=
  { snap with
    nodes := snap.nodes ++ [snapNode e]
    hash := sysfsHashInsert snap.hash e.regid snap.nodeCount }

/-- The walk. Id 0 is the root's, and of an entry met more than once the first time counts. -/
def walkFrom (cap : ℕ) : List RegEntry → Snapshot → Snapshot
  | [], snap => snap
  | e :: rest, snap =>
    if snap.nodeCount < cap then
      if e.regid = 0 then walkFrom cap rest snap
      else if (sysfsHashFind (some snap) e.regid).isSome then walkFrom cap rest snap
      else walkFrom cap rest (snap.record e)
    else snap

/-- The snapshot after the walk; without an iterator only the root is in it. -/
def snapWalk (cap : ℕ) : Option (List RegEntry) → Snapshot
  | none => snapInit cap
  | some yields => walkFrom cap yields (snapInit cap)

/-- `g_last_node_count` after a walk that recorded `count` nodes. -/
def grownEstimate (cap count lastNodeCount : ℕ) : ℕ :=
  if count ≥ cap ∧ cap < sysfsIokitMaxnodes then min (cap * 2) sysfsIokitMaxnodes
  else lastNodeCount

/-- The index of the parent of node `i`; an entry whose parent was not recorded goes to node 0. -/
def parentIdx (snap : Snapshot) (i : ℕ) : ℕ :=
  (sysfsHashFind (some snap) (snap.node i).parentRegid).getD 0

def childItems (snap : Snapshot) : List ℕ := List.range' 1 (snap.nodeCount - 1)

def childCounts (snap : Snapshot) : List ℕ :=
  Csr.counts (parentIdx snap) snap.nodeCount (childItems snap)

/-- `num_children` and `first_child` from the counts, with `off` children before. -/
def assignChildren : ℕ → List SnapNode → List ℕ → List SnapNode
  | off, nd :: nodes, c :: counts =>
    { nd with numChildren := c, firstChild := off } :: assignChildren (off + c) nodes counts
  | _, nodes, _ => nodes

/-- The child lists; without cursors every node is left with no children. -/
def buildChildren (cursor : Bool) (snap : Snapshot) : Snapshot :=
  let nodes := assignChildren 0 snap.nodes (childCounts snap)
  if !cursor then { snap with nodes := nodes.map fun nd => { nd with numChildren := 0 } }
  else
    { snap with
      nodes := nodes
      childIdx := Csr.fill (parentIdx snap) (nodes.map SnapNode.firstChild) snap.childIdx
        (childItems snap) }

/-- `dup`: how many earlier siblings of child `i` have its name. -/
def dupOrdinal (nodes : List SnapNode) (childIdx : List ℕ) (base i : ℕ) : ℕ :=
  let name k := (nodes.getD (childIdx.getD (base + k) 0) default).name
  (List.range i).countP fun k => name k = name i

def assignOrdinals (childIdx : List ℕ) (nodes : List SnapNode) (p : ℕ) : List SnapNode :=
  let base := (nodes.getD p default).firstChild
  (List.range (nodes.getD p default).numChildren).foldl
    (fun nodes i => nodes.modify (childIdx.getD (base + i) 0) fun nd =>
      { nd with dupOrdinal := dupOrdinal nodes childIdx base i })
    nodes

def buildOrdinals (snap : Snapshot) : Snapshot :=
  { snap with
    nodes := (List.range snap.nodeCount).foldl (assignOrdinals snap.childIdx) snap.nodes }

def snapModule (k : KextEntry) : Option SnapModule :=
  match k.ident, k.info with
  | some ident, some kd =>
    some
      { loadTag := kd.loadTag.getD 0
        loadSize := kd.loadSize.getD 0
        refcnt := kd.retainCount.getD 0
        name := strlcpy ident 128
        version := strlcpy (kd.version.getD []) 32 }
  | _, _ => none

/-- The loop of `sysfs_snap_build_modules`. -/
def modulesFrom (cap : ℕ) : List KextEntry → List SnapModule → List SnapModule
  | [], arr => arr
  | k :: rest, arr =>
    if arr.length < cap then
      match snapModule k with
      | none => modulesFrom cap rest arr
      | some m => modulesFrom cap rest (arr ++ [m])
    else arr

def sysfsSnapBuildModules (allocs : BuildAllocs) (kexts : Option (List KextEntry)) :
    List SnapModule :=
  if !allocs.moduleKeys then []
  else
    match kexts with
    | none => []
    | some info =>
      if !allocs.modules ∨ !allocs.moduleIter then []
      else modulesFrom (min info.length sysfsIokitMaxmodules) info []

/-- `sysfs_snap_build` after the walk. -/
def snapFinish (inp : BuildInput) (snap : Snapshot) : Option Snapshot :=
  if !inp.allocs.childCounts then
    some
      { snap with
        nodes := snap.nodes.map fun nd => { nd with numChildren := 0, firstChild := 0 }
        uptime := inp.uptime }
  else if (childCounts snap).sum > snap.childIdx.length then none
  else
    let snap := buildOrdinals (buildChildren inp.allocs.cursor snap)
    some
      { snap with
        modules := sysfsSnapBuildModules inp.allocs inp.kexts
        uptime := inp.uptime }

/-- `sysfs_snap_build` from the sizes on: the snapshot and the new `g_last_node_count`. -/
def snapBuildSized (cap lastNodeCount : ℕ) (inp : BuildInput) : Option Snapshot × ℕ :=
  if !inp.allocs.nodes ∨ !inp.allocs.childIdx ∨ !inp.allocs.hash then (none, lastNodeCount)
  else
    let snap := snapWalk cap inp.yields
    (snapFinish inp snap, grownEstimate cap snap.nodeCount lastNodeCount)

/-- `sysfs_snap_build`; `counted` is what the iterator of the counting walk yields. -/
def sysfsSnapBuild (lastNodeCount : ℕ) (counted : Option (List RegEntry)) (inp : BuildInput) :
    Option Snapshot × ℕ :=
  if !inp.allocs.snap then (none, lastNodeCount)
  else
    let maxe := if lastNodeCount ≠ 0 then lastNodeCount else sysfsCountEntries counted
    snapBuildSized (buildCap maxe) lastNodeCount inp

end SysFS
