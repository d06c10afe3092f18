import SysFS.Snapshot

namespace SysFS
open CString

inductive Errno where
  | ENOENT
  | ENOMEM
  | EFAULT
  | ENOTDIR
  | EINVAL
  | EISDIR
  deriving DecidableEq, Repr

/-- `enum vtype`, the values used here. -/
inductive Vtype where
  | VREG
  | VDIR
  | VLNK
  deriving DecidableEq, Repr

def sysfsNoRegid : UInt64 := 0
def sysfsNoObjectid : UInt64 := 0
def sysfsDevDirObjid : UInt64 := 0
def sysfsModDirObjid : UInt64 := 0
def nameMax : ℕ := 255

structure Sfsid where
  nodeidRegid : UInt64
  nodeidObjectid : UInt64
  nodeidBaseId : UInt16
  deriving DecidableEq, Repr

/-- The fields of an `sfsnode` that identify it. -/
structure Sfsnode where
  nodeMntId : Int32
  nodeId : Sfsid
  nodeStructureNode : ℕ
  deriving DecidableEq, Repr

/-- The root of the mount `mnt`, as `sysfs_root` asks for it. -/
def sysfsRoot (mnt : Int32) : Sfsnode :=
  ⟨mnt, ⟨sysfsNoRegid, sysfsNoObjectid, sysfsRootNodeBaseId⟩, 0⟩

def sysfsAllocvp : Sfstype → Vtype
  | .SFSroot | .SFSdir | .SFSdirthis | .SFSdirparent | .SFSdevice | .SFSsubsystem => .VDIR
  | .SFSmodule => .VDIR
  | .SFSfile | .SFSattr => .VREG
  | .SFSlink => .VLNK

def sysfsIsDirectoryType : Sfstype → Bool
  | .SFSroot | .SFSdir | .SFSdirthis | .SFSdirparent | .SFSdevice | .SFSsubsystem => true
  | _ => false

def sysfsClassMatchFlags (snode : Sfssnode) : UInt32 :=
  if snode.ssnFlags &&& ssnFlagWholeOnly ≠ 0 then sysfsClassfWhole else 0

def sysfsIsClassDir (snode : Sfssnode) : Bool :=
  snode.ssnFlags &&& ssnFlagDynamic ≠ 0 ∧ snode.ssnNodeType = .SFSdir ∧
    snode.ssnInstance ≠ sysfsClassNone

def sysfsIsModuleDir (snode : Sfssnode) : Bool :=
  snode.ssnFlags &&& ssnFlagModules ≠ 0 ∧ snode.ssnNodeType = .SFSdir

def sysfsDevIsDir (objectid : UInt64) : Bool := objectid = sysfsDevDirObjid

def sysfsModIsDir (objectid : UInt64) : Bool := objectid = sysfsModDirObjid

/-- The table `sysfs_dev_attrs`. -/
def sysfsDevAttrs : List (CStr × UInt64) := [(cstr "name", 1)]

/-- The table `sysfs_mod_attrs`. -/
def sysfsModAttrs : List (CStr × UInt64) :=
  [(cstr "refcnt", 1), (cstr "coresize", 2), (cstr "initstate", 3), (cstr "version", 4)]

/-- The type of the vnode that `sysfs_create_vnode` makes for a node. -/
def vnodeVtype (t : Tree) (snp : Sfsnode) : Vtype :=
  match (t.node snp.nodeStructureNode).ssnNodeType with
  | .SFSdevice => if sysfsDevIsDir snp.nodeId.nodeidObjectid then .VDIR else .VREG
  | .SFSmodule => if sysfsModIsDir snp.nodeId.nodeidObjectid then .VDIR else .VREG
  | type => sysfsAllocvp type

def Tree.parentOrSelf (t : Tree) (p : ℕ) : ℕ := (t.node p).ssnParent.getD p

def sysfsGetParentNodeId (t : Tree) (snp : Sfsnode) : Sfsid :=
  let parentSnode := t.node (t.parentOrSelf snp.nodeStructureNode)
  let dynamic := parentSnode.ssnFlags &&& ssnFlagDynamic ≠ 0
  { nodeidBaseId := parentSnode.ssnBaseNodeId
    nodeidRegid := if dynamic then snp.nodeId.nodeidRegid else sysfsNoRegid
    nodeidObjectid := if dynamic then snp.nodeId.nodeidObjectid else sysfsNoObjectid }

/-- The branch of `sysfs_vnop_lookup` for `..`: the node id and the structure node. -/
def lookupDotDot (t : Tree) (g : GSnapshot) (dir : Sfsnode) : Sfsid × ℕ :=
  let dirSnode := t.node dir.nodeStructureNode
  if dirSnode.ssnNodeType = .SFSmodule ∧ sysfsModIsDir dir.nodeId.nodeidObjectid then
    let parentSnode := t.parentOrSelf dir.nodeStructureNode
    (⟨sysfsNoRegid, sysfsNoObjectid, (t.node parentSnode).ssnBaseNodeId⟩, parentSnode)
  else if dirSnode.ssnNodeType = .SFSdevice ∧ dir.nodeId.nodeidRegid ≠ 0 then
    let parentRegid := (sysfsIokitParent g dir.nodeId.nodeidRegid).getD 0
    (⟨parentRegid, sysfsDevDirObjid, dirSnode.ssnBaseNodeId⟩, dir.nodeStructureNode)
  else
    (sysfsGetParentNodeId t dir, t.parentOrSelf dir.nodeStructureNode)

/-- The first child of a type, as the loops over `ssn_next` find it. -/
def Tree.childOfType (t : Tree) (p : ℕ) (type : Sfstype) : Option ℕ :=
  (t.ssnChildren p).find? fun c => (t.node c).ssnNodeType = type

def Tree.childNamed (t : Tree) (p : ℕ) (name : CStr) : Option ℕ :=
  (t.ssnChildren p).find? fun c => name = (t.node c).ssnName

def attrNamed (attrs : List (CStr × UInt64)) (name : CStr) : Option UInt64 :=
  (attrs.find? fun a => name = a.1).map Prod.snd

/-- In `/sys/module`: the loaded kexts, on the shared `SFSmodule` child. -/
def matchModule (t : Tree) (g : GSnapshot) (dir : Sfsnode) (name : CStr) (namelen : ℕ) :
    Option (Sfsid × ℕ) :=
  (sysfsIokitModuleNamed g name namelen).bind fun mi =>
    (t.childOfType dir.nodeStructureNode .SFSmodule).map fun mod =>
      (⟨mi.loadTag, sysfsModDirObjid, (t.node mod).ssnBaseNodeId⟩, mod)

def matchModuleAttr (t : Tree) (dir : Sfsnode) (name : CStr) : Option (Sfsid × ℕ) :=
  (attrNamed sysfsModAttrs name).map fun objid =>
    (⟨dir.nodeId.nodeidRegid, objid, (t.node dir.nodeStructureNode).ssnBaseNodeId⟩,
      dir.nodeStructureNode)

/-- In a class directory: the members of the class, on the shared `SFSlink` child. -/
def matchClass (t : Tree) (g : GSnapshot) (dir : Sfsnode) (name : CStr) (namelen : ℕ) :
    Option (Sfsid × ℕ) :=
  let dirSnode := t.node dir.nodeStructureNode
  (sysfsIokitClassChildNamed g dirSnode.ssnInstance (sysfsClassMatchFlags dirSnode) name
    namelen).bind fun devRegid =>
    (t.childOfType dir.nodeStructureNode .SFSlink).map fun link =>
      (⟨devRegid, sysfsNoObjectid, (t.node link).ssnBaseNodeId⟩, link)

/-- At the devices root: the static children, which come before the registry entries. -/
def matchDeviceStatic (t : Tree) (dir : Sfsnode) (name : CStr) : Option (Sfsid × ℕ) :=
  if dir.nodeId.nodeidRegid = sysfsNoRegid ∧ sysfsDevIsDir dir.nodeId.nodeidObjectid then
    (t.childNamed dir.nodeStructureNode name).map fun c =>
      (⟨sysfsNoRegid, sysfsNoObjectid, (t.node c).ssnBaseNodeId⟩, c)
  else none

/-- Under `/sys/devices`: the static children of the root, the attribute files of an
entry, and the child entries. -/
def matchDevice (t : Tree) (g : GSnapshot) (dir : Sfsnode) (name : CStr) (namelen : ℕ) :
    Option (Sfsid × ℕ) :=
  let regid := dir.nodeId.nodeidRegid
  let base := (t.node dir.nodeStructureNode).ssnBaseNodeId
  (matchDeviceStatic t dir name).or <|
    (if regid ≠ sysfsNoRegid then
      (attrNamed sysfsDevAttrs name).map fun objid =>
        (⟨regid, objid, base⟩, dir.nodeStructureNode)
    else none).or <|
    (sysfsIokitChildNamed g regid name namelen).map fun childRegid =>
      (⟨childRegid, sysfsDevDirObjid, base⟩, dir.nodeStructureNode)

def matchStatic (t : Tree) (dir : Sfsnode) (name : CStr) : Option (Sfsid × ℕ) :=
  (t.childNamed dir.nodeStructureNode name).map fun c =>
    (⟨dir.nodeId.nodeidRegid, dir.nodeId.nodeidObjectid, (t.node c).ssnBaseNodeId⟩, c)

/-- The dispatch of `sysfs_vnop_lookup` over the kinds of directories. -/
def lookupMatch (t : Tree) (g : GSnapshot) (dir : Sfsnode) (name : CStr) (namelen : ℕ) :
    Option (Sfsid × ℕ) :=
  let dirSnode := t.node dir.nodeStructureNode
  if sysfsIsModuleDir dirSnode then matchModule t g dir name namelen
  else if dirSnode.ssnNodeType = .SFSmodule ∧ sysfsModIsDir dir.nodeId.nodeidObjectid then
    matchModuleAttr t dir name
  else if sysfsIsClassDir dirSnode then matchClass t g dir name namelen
  else if dirSnode.ssnNodeType = .SFSdevice then matchDevice t g dir name namelen
  else matchStatic t dir name

/-- `sysfs_vnop_lookup` up to its call of `sysfsnode_find`: the node that is asked for there. `cn`
is the component of `cn_namelen` bytes; VFS sets `ISDOTDOT` for the component `..`. -/
def sysfsVnopLookup (t : Tree) (g : GSnapshot) (dir : Sfsnode) (cn : CStr) :
    Except Errno Sfsnode :=
  if vnodeVtype t dir ≠ .VDIR ∨ cn.length < 1 then .error .EINVAL
  else
    let name := strlcpy cn (min (nameMax + 1) (cn.length + 1))
    if cn = cstr ".." then
      let (id, snode) := lookupDotDot t g dir
      .ok ⟨dir.nodeMntId, id, snode⟩
    else if name = cstr "." then .ok dir
    else
      match lookupMatch t g dir name cn.length with
      | some (id, snode) => .ok ⟨dir.nodeMntId, id, snode⟩
      | none => .error .ENOENT

/-- A path resolved by one lookup per component, when `sysfsnode_find` returns what it is asked
for. -/
def resolve (t : Tree) (g : GSnapshot) : Sfsnode → List CStr → Except Errno Sfsnode
  | dir, [] => .ok dir
  | dir, cn :: path => do resolve t g (← sysfsVnopLookup t g dir cn) path

end SysFS
