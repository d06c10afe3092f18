import SysFS.Structure

namespace SysFS
open CString

def sysfsIokitNamemax : ℕ := 128
def sysfsIokitBsdnamemax : ℕ := 32
def sysfsClassfWhole : UInt32 := 1

/-- `struct sysfs_snap_node`. -/
structure SnapNode where
  regid : UInt64
  parentRegid : UInt64
  firstChild : ℕ := 0
  numChildren : ℕ := 0
  dupOrdinal : ℕ := 0
  classId : UInt32 := sysfsClassNone
  classFlags : UInt32 := 0
  bsdname : CStr := []
  name : CStr
  deriving DecidableEq, Repr

instance : Inhabited SnapNode := ⟨{ regid := 0, parentRegid := 0, name := [] }⟩

/-- `struct sysfs_hash_slot`; the index `SYSFS_IDX_NONE` of an empty slot is `none`. -/
abbrev HashSlot := Option (UInt64 × ℕ)

/-- `struct sysfs_snap_module`, and `struct sysfs_module_info`, which has the same fields. -/
structure SnapModule where
  loadTag : UInt64
  loadSize : UInt64
  refcnt : UInt64
  name : CStr
  version : CStr
  deriving DecidableEq, Repr

/-- `struct sysfs_snapshot`. The arrays hold the first `node_count`, `child_cap`,
`hash_size` and `module_count` entries. -/
structure Snapshot where
  modules : List SnapModule
  nodes : List SnapNode
  childIdx : List ℕ
  hash : List HashSlot
  uptime : ℕ
  deriving DecidableEq, Repr

namespace Snapshot

def nodeCount (snap : Snapshot) : ℕ := snap.nodes.length
def hashSize (snap : Snapshot) : ℕ := snap.hash.length
def node (snap : Snapshot) (i : ℕ) : SnapNode := snap.nodes.getD i default

end Snapshot

/-- `g_snapshot`. -/
abbrev GSnapshot := Option Snapshot

def sysfsHashOf (regid : UInt64) : ℕ := ((regid * 0x9E3779B97F4A7C15) >>> 40).toUInt32.toNat

/-- The loop of `sysfs_hash_find`: `n` probes are left and the next one is at `h`. -/
def hashFindFrom (hash : List HashSlot) (regid : UInt64) : ℕ → ℕ → Option ℕ
  | 0, _ => none
  | n + 1, h =>
    match hash.getD h none with
    | none => none
    | some (r, index) =>
      if r = regid then some index
      else hashFindFrom hash regid n ((h + 1) &&& (hash.length - 1))

def sysfsHashFind (g : GSnapshot) (regid : UInt64) : Option ℕ :=
  match g with
  | none => none
  | some snap =>
    if snap.hashSize = 0 then none
    else hashFindFrom snap.hash regid snap.hashSize (sysfsHashOf regid &&& (snap.hashSize - 1))

/-- `sysfs_child_display`: the name in a buffer of `buflen` bytes, and the registry id. -/
def sysfsChildDisplay (snap : Snapshot) (pidx index buflen : ℕ) : Option (CStr × UInt64) :=
  if pidx ≥ snap.nodeCount ∨ index ≥ (snap.node pidx).numChildren then none
  else
    let base := (snap.node pidx).firstChild
    let ci := snap.childIdx.getD (base + index) 0
    let nm := (snap.node ci).name
    let dup := (snap.node ci).dupOrdinal
    some (strlcpy (if dup = 0 then nm else numbered nm dup) buflen, (snap.node ci).regid)

def sysfsIokitChildAt (g : GSnapshot) (regid : UInt64) (index buflen : ℕ) :
    Option (CStr × UInt64) :=
  match g, sysfsHashFind g regid with
  | some snap, some pidx => sysfsChildDisplay snap pidx index buflen
  | _, _ => none

/-- `strlen(buf) == namelen && strncmp(buf, name, namelen) == 0`. -/
def sameName (buf name : CStr) (namelen : ℕ) : Bool :=
  buf.length = namelen ∧ buf.take namelen = name.take namelen

/-- The loop of `sysfs_iokit_child_named`: `n` children are left and the next one is `i`. -/
def childNamedFrom (snap : Snapshot) (pidx : ℕ) (name : CStr) (namelen : ℕ) :
    ℕ → ℕ → Option UInt64
  | 0, _ => none
  | n + 1, i =>
    match sysfsChildDisplay snap pidx i (sysfsIokitNamemax + 16) with
    | none => none
    | some (buf, id) =>
      if sameName buf name namelen then some id
      else childNamedFrom snap pidx name namelen n (i + 1)

def sysfsIokitChildNamed (g : GSnapshot) (regid : UInt64) (name : CStr) (namelen : ℕ) :
    Option UInt64 :=
  match g, sysfsHashFind g regid with
  | some snap, some pidx =>
    childNamedFrom snap pidx name namelen (snap.node pidx).numChildren 0
  | _, _ => none

def sysfsIokitParent (g : GSnapshot) (regid : UInt64) : Option UInt64 :=
  if regid = 0 then some 0
  else
    match g, sysfsHashFind g regid with
    | some snap, some idx => some (snap.node idx).parentRegid
    | _, _ => none

def isClassMember (classId matchFlags : UInt32) (nd : SnapNode) : Bool :=
  !(nd.classId ≠ classId ∨ nd.classFlags &&& matchFlags ≠ matchFlags)

/-- The scan of `sysfs_iokit_class_child_at`, with `seen` members met before. -/
def classChildAtFrom (classId matchFlags : UInt32) (index : ℕ) :
    List SnapNode → ℕ → Option SnapNode
  | [], _ => none
  | nd :: rest, seen =>
    if !isClassMember classId matchFlags nd then
      classChildAtFrom classId matchFlags index rest seen
    else if seen = index then some nd
    else classChildAtFrom classId matchFlags index rest (seen + 1)

/-- `sysfs_iokit_class_child_at`. The scan leaves out node 0. -/
def sysfsIokitClassChildAt (g : GSnapshot) (classId matchFlags : UInt32) (index buflen : ℕ) :
    Option (CStr × UInt64) :=
  match g with
  | none => none
  | some snap =>
    (classChildAtFrom classId matchFlags index snap.nodes.tail 0).map fun nd =>
      (strlcpy nd.bsdname buflen, nd.regid)

def sysfsIokitClassChildNamed (g : GSnapshot) (classId matchFlags : UInt32) (name : CStr)
    (namelen : ℕ) : Option UInt64 :=
  match g with
  | none => none
  | some snap =>
    (snap.nodes.tail.find? fun nd =>
      isClassMember classId matchFlags nd && sameName nd.bsdname name namelen).map SnapNode.regid

def sysfsModuleCopyOut (m : SnapModule) : SnapModule :=
  { m with name := strlcpy m.name 128, version := strlcpy m.version 32 }

def sysfsIokitModuleAt (g : GSnapshot) (index : ℕ) : Option SnapModule :=
  match g with
  | none => none
  | some snap => snap.modules[index]?.map sysfsModuleCopyOut

def sysfsIokitModuleNamed (g : GSnapshot) (name : CStr) (namelen : ℕ) : Option SnapModule :=
  match g with
  | none => none
  | some snap =>
    (snap.modules.find? fun m => sameName m.name name namelen).map sysfsModuleCopyOut

def sysfsIokitModuleByTag (g : GSnapshot) (loadTag : UInt64) : Option SnapModule :=
  match g with
  | none => none
  | some snap => (snap.modules.find? fun m => m.loadTag = loadTag).map sysfsModuleCopyOut

end SysFS
