import SysFS.Lookup

namespace SysFS
open CString

def sysfsIokitPathdepth : ℕ := 64
def sysfsLinkTargetMax : ℕ := 1024

/-- The loop of `sysfs_iokit_path` up the parents: `n` places are left in `chain`. -/
def chainFrom (snap : Snapshot) : ℕ → Option ℕ → List ℕ
  | 0, _ => []
  | _, none => []
  | n + 1, some idx =>
    if idx = 0 then []
    else idx :: chainFrom snap n (sysfsHashFind (some snap) (snap.node idx).parentRegid)

/-- The name that `sysfs_iokit_path` writes for a node. -/
def Snapshot.pathName (snap : Snapshot) (i : ℕ) : CStr :=
  if (snap.node i).dupOrdinal = 0 then (snap.node i).name
  else numbered (snap.node i).name (snap.node i).dupOrdinal

/-- The loop of `sysfs_iokit_path` over the chain, after `buf` is written; 47 is the byte of
the separator. Nothing is left written when a name does not fit. -/
def pathFrom (snap : Snapshot) (buflen : ℕ) : List ℕ → CStr → CStr
  | [], buf => buf
  | i :: rest, buf =>
    let s := (if buf.length = 0 then [] else [47]) ++ snap.pathName i
    if s.length = 0 ∨ s.length ≥ buflen - buf.length then []
    else pathFrom snap buflen rest (buf ++ s)

/-- `sysfs_iokit_path`: what is in the buffer, the length of which it returns. -/
def sysfsIokitPath (g : GSnapshot) (regid : UInt64) (buflen : ℕ) : CStr :=
  if buflen = 0 ∨ regid = 0 then []
  else
    match g with
    | none => []
    | some snap =>
      pathFrom snap buflen
        (chainFrom snap sysfsIokitPathdepth (sysfsHashFind g regid)).reverse []

/-- The loop of `sysfs_link_target` up the structure tree from `p`; a tree has no more levels
than nodes. -/
def linkDepthFrom (t : Tree) : ℕ → Option ℕ → ℕ
  | 0, _ => 0
  | _, none => 0
  | n + 1, some p =>
    if (t.node p).ssnNodeType = .SFSroot then 0 else linkDepthFrom t n (t.node p).ssnParent + 1

def linkDepth (t : Tree) (snode : ℕ) : ℕ := linkDepthFrom t t.nodes.length (t.node snode).ssnParent

/-- The loop of `sysfs_link_target` that writes `../`; `n` rounds are left. -/
def climbFrom (buflen : ℕ) : ℕ → CStr → CStr
  | 0, buf => buf
  | n + 1, buf => if buf.length < buflen then climbFrom buflen n (buf ++ cstr "../") else buf

/-- `sysfs_link_target`: the target, where it fits into `buflen` bytes. -/
def sysfsLinkTarget (t : Tree) (g : GSnapshot) (snp : Sfsnode) (buflen : ℕ) : Option CStr :=
  let path := sysfsIokitPath g snp.nodeId.nodeidRegid sysfsLinkTargetMax
  if path.length = 0 then none
  else
    let buf := climbFrom buflen (linkDepth t snp.nodeStructureNode) [] ++ cstr "devices/" ++ path
    if buf.length ≥ buflen then none else some buf

/-- `sysfs_vnop_readlink`, into a buffer that takes any target. -/
def sysfsVnopReadlink (t : Tree) (g : GSnapshot) (snp : Sfsnode) : Except Errno CStr :=
  if (t.node snp.nodeStructureNode).ssnNodeType = .SFSlink then
    match sysfsLinkTarget t g snp sysfsLinkTargetMax with
    | none => .error .ENOENT
    | some target => .ok target
  else .error .EINVAL

def pathComponents (path : CStr) : List CStr := (path.splitOn 47).filter fun c => c ≠ []

end SysFS
