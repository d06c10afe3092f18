import SysFS.Lookup

namespace SysFS
open CString

/-- The `DT_*` values used here. -/
inductive DType where
  | DT_DIR
  | DT_REG
  | DT_LNK
  deriving DecidableEq, Repr

/-- What a readdir loop passes to `sysfs_copyout_dirent` for one entry. -/
structure DirEntry where
  type : DType
  fileId : UInt64
  name : CStr
  deriving DecidableEq, Repr

/-- `struct direntry`. -/
structure Dirent where
  dIno : UInt64
  dSeekoff : ℕ
  dReclen : ℕ
  dNamlen : ℕ
  dType : DType
  dName : CStr
  deriving DecidableEq, Repr

/-- The `uio` of a call: where the directory is read, the room that is left, the records
moved so far, and after how many moves `uiomove` fails, if it does. -/
structure Uio where
  offset : ℤ
  resid : ℕ
  out : List Dirent
  faultAfter : Option ℕ
  deriving DecidableEq, Repr

def sysfsGetFileid (regid objectid : UInt64) (baseId : UInt16) : UInt64 :=
  baseId.toUInt64 ||| regid <<< 8 ||| objectid <<< 24

def sysfsGetNodeFileid (t : Tree) (snp : Sfsnode) : UInt64 :=
  sysfsGetFileid snp.nodeId.nodeidRegid snp.nodeId.nodeidObjectid
    (t.node snp.nodeStructureNode).ssnBaseNodeId

/-- `sysfs_calc_dirent_size`. The part of a `struct direntry` without the name takes 24
bytes, and the name with its NUL is rounded up to a multiple of 8. -/
def sysfsCalcDirentSize (name : CStr) : ℕ := 24 + (name.length + 1 + 7) / 8 * 8

/-- `uiomove` of one record. -/
def uiomove (entry : Dirent) (size : ℕ) (uio : Uio) : Option Errno × Uio :=
  if uio.faultAfter = some uio.out.length then (some .EFAULT, uio)
  else (none, { uio with resid := uio.resid - size, out := uio.out ++ [entry] })

/-- `sysfs_copyout_dirent`: the error, the new value of `*sizep` and the `uio`. -/
def sysfsCopyoutDirent (e : DirEntry) (uio : Uio) (size seekoff : ℕ) : Option Errno × ℕ × Uio :=
  let entry : Dirent := ⟨e.fileId, seekoff, size, e.name.length, e.type, e.name⟩
  if size ≤ uio.resid then
    let (error, uio') := uiomove entry size uio
    (error, size, uio')
  else (none, 0, uio)

structure EmitState where
  nextpos : ℕ
  numentries : ℕ
  error : Option Errno
  uio : Uio
  deriving DecidableEq, Repr

/-- How a loop ended: after its last entry, because there was no room before an entry, or
by `break` or `goto done` at an entry that did not go out. -/
inductive LoopEnd where
  | exhausted
  | noRoom
  | stopped
  deriving DecidableEq, Repr

/-- The part the loop bodies share: one entry is skipped, copied out, or ends the loop. -/
def emitEntry (startpos : ℤ) (e : DirEntry) (st : EmitState) : Bool × EmitState :=
  let size := sysfsCalcDirentSize e.name
  if startpos ≤ st.nextpos then
    let (error, size', uio) := sysfsCopyoutDirent e st.uio size (st.nextpos + size)
    if size' = 0 ∨ error ≠ none then (false, { st with error := error, uio := uio })
    else
      (true, { st with
        nextpos := st.nextpos + size'
        numentries := st.numentries + 1
        uio := uio })
  else (true, { st with nextpos := st.nextpos + size })

/-- A loop over a list. An entry may be skipped without taking a position. `checkResid` is
whether the loop ends when there is no room left. -/
def emitLoop (checkResid : Bool) (startpos : ℤ) :
    List (Option DirEntry) → EmitState → LoopEnd × EmitState
  | [], st => (.exhausted, st)
  | e :: es, st =>
    if checkResid ∧ st.uio.resid = 0 then (.noRoom, st)
    else
      match e with
      | none => emitLoop checkResid startpos es st
      | some e =>
        match emitEntry startpos e st with
        | (true, st') => emitLoop checkResid startpos es st'
        | (false, st') => (.stopped, st')

/-- A loop over an index, until `entryAt` has no entry for it. At most `fuel` entries are
there. -/
def emitIndexed (entryAt : ℕ → Option DirEntry) (startpos : ℤ) :
    ℕ → ℕ → EmitState → LoopEnd × EmitState
  | 0, _, st => (.noRoom, st)
  | fuel + 1, i, st =>
    if st.uio.resid = 0 then (.noRoom, st)
    else
      match entryAt i with
      | none => (.exhausted, st)
      | some e =>
        match emitEntry startpos e st with
        | (true, st') => emitIndexed entryAt startpos fuel (i + 1) st'
        | (false, st') => (.stopped, st')

/-- What follows a loop, unless it went to `done`. -/
def LoopEnd.andThen (r : LoopEnd × EmitState) (next : EmitState → LoopEnd × EmitState) :
    LoopEnd × EmitState :=
  match r with
  | (.stopped, st) => (.stopped, st)
  | (_, st) => next st

structure ReaddirResult where
  error : Option Errno
  eofflag : Bool
  numdirent : ℕ
  uio : Uio
  deriving DecidableEq, Repr

def readdirDone (eofflag : Bool) (st : EmitState) : ReaddirResult where
  error := if st.error = none ∧ st.numentries = 0 ∧ eofflag = false then some .EINVAL else st.error
  eofflag := eofflag
  numdirent := st.numentries
  uio := { st.uio with offset := st.nextpos }

/-- `done:` in the variants, which count the entries as exhausted only when there is no
error. -/
def finishListing (r : LoopEnd × EmitState) : ReaddirResult :=
  readdirDone (r.2.error = none ∧ r.1 = .exhausted) r.2

/-- The entry of a static child; an `SFSroot` child is skipped. -/
def staticEntry (t : Tree) (dir : Sfsnode) (c : ℕ) : Option DirEntry :=
  let snode := t.node c
  let entry := fun (type : DType) (id : Sfsid) => some (⟨type,
    sysfsGetFileid id.nodeidRegid id.nodeidObjectid id.nodeidBaseId, snode.ssnName⟩ : DirEntry)
  let own : Sfsid := ⟨dir.nodeId.nodeidRegid, dir.nodeId.nodeidObjectid, snode.ssnBaseNodeId⟩
  match snode.ssnNodeType with
  | .SFSroot => none
  | .SFSdir | .SFSdevice | .SFSsubsystem => entry .DT_DIR own
  | .SFSmodule => entry .DT_DIR own
  | .SFSfile | .SFSattr => entry .DT_REG own
  | .SFSlink => entry .DT_LNK own
  | .SFSdirthis => entry .DT_DIR dir.nodeId
  | .SFSdirparent => entry .DT_DIR (sysfsGetParentNodeId t dir)

/-- `.` and `..` in the variants: both have the file id of the directory. -/
def dotEntries (t : Tree) (dir : Sfsnode) : List (Option DirEntry) :=
  [cstr ".", cstr ".."].map fun nm => some ⟨.DT_DIR, sysfsGetNodeFileid t dir, nm⟩

def attrEntries (attrs : List (CStr × UInt64)) (regid : UInt64) (base : UInt16) :
    List (Option DirEntry) :=
  attrs.map fun a => some ⟨.DT_REG, sysfsGetFileid regid a.2 base, a.1⟩

def deviceStaticEntries (t : Tree) (dir : Sfsnode) : List (Option DirEntry) :=
  (t.ssnChildren dir.nodeStructureNode).map fun c =>
    some ⟨if sysfsIsDirectoryType (t.node c).ssnNodeType then .DT_DIR else .DT_REG,
      sysfsGetFileid sysfsNoRegid sysfsNoObjectid (t.node c).ssnBaseNodeId, (t.node c).ssnName⟩

def childEntryAt (g : GSnapshot) (regid : UInt64) (base : UInt16) (i : ℕ) : Option DirEntry :=
  (sysfsIokitChildAt g regid i (nameMax + 1)).map fun (nm, childRegid) =>
    ⟨.DT_DIR, sysfsGetFileid childRegid sysfsDevDirObjid base, nm⟩

def classEntryAt (g : GSnapshot) (classId matchFlags : UInt32) (base : UInt16) (i : ℕ) :
    Option DirEntry :=
  (sysfsIokitClassChildAt g classId matchFlags i (nameMax + 1)).map fun (nm, devRegid) =>
    ⟨.DT_LNK, sysfsGetFileid devRegid sysfsNoObjectid base, nm⟩

def moduleEntryAt (g : GSnapshot) (base : UInt16) (i : ℕ) : Option DirEntry :=
  (sysfsIokitModuleAt g i).map fun mi =>
    ⟨.DT_DIR, sysfsGetFileid mi.loadTag sysfsModDirObjid base, mi.name⟩

def childCount (g : GSnapshot) (regid : UInt64) : ℕ :=
  match g, sysfsHashFind g regid with
  | some snap, some pidx => (snap.node pidx).numChildren
  | _, _ => 0

def snapNodeCount (g : GSnapshot) : ℕ := g.elim 0 Snapshot.nodeCount

def moduleCount (g : GSnapshot) : ℕ := g.elim 0 fun snap => snap.modules.length

def emitStart (uio : Uio) : EmitState := ⟨0, 0, none, uio⟩

def sysfsDevicesReaddir (t : Tree) (g : GSnapshot) (dir : Sfsnode) (uio : Uio) : ReaddirResult :=
  let regid := dir.nodeId.nodeidRegid
  let base := (t.node dir.nodeStructureNode).ssnBaseNodeId
  let startpos := uio.offset
  finishListing <|
    LoopEnd.andThen (emitLoop false startpos (dotEntries t dir) (emitStart uio)) fun st =>
    LoopEnd.andThen
      (if regid ≠ sysfsNoRegid then
        emitLoop true startpos (attrEntries sysfsDevAttrs regid base) st
      else (.exhausted, st)) fun st =>
    LoopEnd.andThen
      (if regid = sysfsNoRegid then emitLoop true startpos (deviceStaticEntries t dir) st
      else (.exhausted, st)) fun st =>
    emitIndexed (childEntryAt g regid base) startpos (childCount g regid + 1) 0 st

def sysfsClassReaddir (t : Tree) (g : GSnapshot) (dir : Sfsnode) (uio : Uio) : ReaddirResult :=
  let dirSnode := t.node dir.nodeStructureNode
  let startpos := uio.offset
  finishListing <|
    LoopEnd.andThen (emitLoop false startpos (dotEntries t dir) (emitStart uio)) fun st =>
    emitIndexed (classEntryAt g dirSnode.ssnInstance (sysfsClassMatchFlags dirSnode)
      dirSnode.ssnBaseNodeId) startpos (snapNodeCount g + 1) 0 st

/-- `sysfs_module_readdir`, for `/sys/module` and for the directory of a module. -/
def sysfsModuleReaddir (t : Tree) (g : GSnapshot) (dir : Sfsnode) (uio : Uio) : ReaddirResult :=
  let dirSnode := t.node dir.nodeStructureNode
  let startpos := uio.offset
  finishListing <|
    LoopEnd.andThen (emitLoop false startpos (dotEntries t dir) (emitStart uio)) fun st =>
    if sysfsIsModuleDir dirSnode then
      match t.childOfType dir.nodeStructureNode .SFSmodule with
      | none => (.exhausted, st)
      | some mod =>
        emitIndexed (moduleEntryAt g (t.node mod).ssnBaseNodeId) startpos (moduleCount g + 1) 0 st
    else
      emitLoop true startpos
        (attrEntries sysfsModAttrs dir.nodeId.nodeidRegid dirSnode.ssnBaseNodeId) st

/-- The static part of `sysfs_vnop_readdir`. -/
def staticReaddir (t : Tree) (dir : Sfsnode) (uio : Uio) : ReaddirResult :=
  let r := emitLoop true uio.offset
    ((t.ssnChildren dir.nodeStructureNode).map (staticEntry t dir)) (emitStart uio)
  readdirDone (r.1 = .exhausted) r.2

def sysfsVnopReaddir (t : Tree) (g : GSnapshot) (dir : Sfsnode) (uio : Uio) :
    Except Errno ReaddirResult :=
  let dirSnode := t.node dir.nodeStructureNode
  if vnodeVtype t dir ≠ .VDIR then .error .ENOTDIR
  else if dirSnode.ssnNodeType = .SFSdevice then .ok (sysfsDevicesReaddir t g dir uio)
  else if sysfsIsModuleDir dirSnode ∨ dirSnode.ssnNodeType = .SFSmodule then
    .ok (sysfsModuleReaddir t g dir uio)
  else if sysfsIsClassDir dirSnode then .ok (sysfsClassReaddir t g dir uio)
  else .ok (staticReaddir t dir uio)

end SysFS
