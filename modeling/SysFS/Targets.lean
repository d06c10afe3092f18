import SysFS.Lib.FirstMatch
import SysFS.Descent
import SysFS.ReaddirPages

namespace SysFS
open CString

def readExecuteAll : UInt16 := 0o555
def readAll : UInt16 := 0o444
def allAccessAll : UInt16 := 0o777

/-- The attributes that `sysfs_vnop_getattr` returns, without sizes, times and owners. -/
structure Vattr where
  vaMode : UInt16
  vaType : Vtype
  vaFsid : Int32
  vaFileid : UInt64
  deriving DecidableEq, Repr

def sysfsVnopGetattr (t : Tree) (snp : Sfsnode) : Vattr :=
  let nodeType := (t.node snp.nodeStructureNode).ssnNodeType
  let (vtype, mode) :=
    if nodeType = .SFSdevice then
      if sysfsDevIsDir snp.nodeId.nodeidObjectid then (.VDIR, readExecuteAll) else (.VREG, readAll)
    else if nodeType = .SFSmodule then
      if sysfsModIsDir snp.nodeId.nodeidObjectid then (.VDIR, readExecuteAll) else (.VREG, readAll)
    else if nodeType = .SFSlink then (.VLNK, allAccessAll)
    else (sysfsAllocvp nodeType, if sysfsIsDirectoryType nodeType then readExecuteAll else readAll)
  ⟨mode, vtype, snp.nodeMntId, sysfsGetNodeFileid t snp⟩

def DType.ofVtype : Vtype → DType
  | .VREG => .DT_REG
  | .VDIR => .DT_DIR
  | .VLNK => .DT_LNK

/-- The snapshots that `sysfs_snap_build` returns. -/
def Produced (snap : Snapshot) : Prop :=
  ∃ lastNodeCount counted inp, (sysfsSnapBuild lastNodeCount counted inp).1 = some snap

theorem Produced.built {snap : Snapshot} (h : Produced snap) : ∃ es, Built es snap := by
  have ⟨_, _, _, hsnap⟩ := h
  have ⟨es, hb, _⟩ := sysfsSnapBuild_built hsnap
  exact ⟨es, hb⟩

theorem walkFrom_modules (cap : ℕ) (yields : List RegEntry) (snap : Snapshot) :
    (walkFrom cap yields snap).modules = snap.modules := by
  induction yields generalizing snap with
  | nil => rfl
  | cons e yields ih =>
    rw [walkFrom]
    split
    · split
      · exact ih snap
      · split
        · exact ih snap
        · exact ih (snap.record e)
    · rfl

theorem mem_modulesFrom {cap : ℕ} {kexts : List KextEntry} {arr : List SnapModule}
    {m : SnapModule} (h : m ∈ modulesFrom cap kexts arr) :
    m ∈ arr ∨ ∃ k ∈ kexts, snapModule k = some m := by
  induction kexts generalizing arr with
  | nil => exact .inl h
  | cons k kexts ih =>
    rw [modulesFrom] at h
    split at h
    · split at h
      · exact (ih h).imp_right fun ⟨k', hk', hm⟩ => ⟨k', List.mem_cons_of_mem k hk', hm⟩
      · next m' hm' =>
        rcases ih h with hmem | ⟨k', hk', hm⟩
        · rcases List.mem_append.mp hmem with hold | hnew
          · exact .inl hold
          · exact .inr ⟨k, List.mem_cons_self, (List.mem_singleton.mp hnew) ▸ hm'⟩
        · exact .inr ⟨k', List.mem_cons_of_mem k hk', hm⟩
    · exact .inl h

theorem mem_modules_of_build {lastNodeCount : ℕ} {counted : Option (List RegEntry)}
    {inp : BuildInput} {snap : Snapshot}
    (h : (sysfsSnapBuild lastNodeCount counted inp).1 = some snap) {m : SnapModule}
    (hm : m ∈ snap.modules) : ∃ info ∈ inp.kexts, ∃ k ∈ info, snapModule k = some m := by
  have hwalk : ∀ cap, (snapWalk cap inp.yields).modules = [] := by
    intro cap
    cases inp.yields with
    | none => rfl
    | some yields => exact walkFrom_modules cap yields _
  have hfinish : ∀ snap₀ : Snapshot, snap₀.modules = [] → snapFinish inp snap₀ = some snap →
      m ∈ sysfsSnapBuildModules inp.allocs inp.kexts := by
    intro snap₀ hnone hf
    rw [snapFinish] at hf
    split at hf
    · cases hf
      rw [hnone] at hm
      cases hm
    · split at hf
      · cases hf
      · cases hf
        exact hm
  have hmem : m ∈ sysfsSnapBuildModules inp.allocs inp.kexts := by
    rw [sysfsSnapBuild] at h
    split at h
    · cases h
    · rw [snapBuildSized] at h
      split at h
      · cases h
      · exact hfinish _ (hwalk _) h
  unfold sysfsSnapBuildModules at hmem
  split at hmem
  · cases hmem
  · split at hmem
    · cases hmem
    · next info hinfo =>
      split at hmem
      · cases hmem
      · rcases mem_modulesFrom hmem with hnil | hk
        · cases hnil
        · exact ⟨info, hinfo, hk⟩

theorem snapModule_length {k : KextEntry} {m : SnapModule} (h : snapModule k = some m) :
    m.name.length < 128 ∧ m.version.length < 32 := by
  rw [snapModule] at h
  split at h
  · cases h
    exact ⟨strlcpy_length_lt (by decide), strlcpy_length_lt (by decide)⟩
  · cases h

theorem Produced.modules {snap : Snapshot} (h : Produced snap) :
    ∀ m ∈ snap.modules, m.name.length < 128 ∧ m.version.length < 32 := by
  intro m hm
  have ⟨_, _, _, hsnap⟩ := h
  have ⟨_, _, _, _, hk⟩ := mem_modules_of_build hsnap hm
  exact snapModule_length hk

/-- A name in a directory and the node that it is looked up to. -/
structure Target where
  name : CStr
  id : Sfsid
  snode : ℕ
  deriving DecidableEq, Repr

namespace Target

def node (dir : Sfsnode) (x : Target) : Sfsnode := ⟨dir.nodeMntId, x.id, x.snode⟩

def entry (t : Tree) (dir : Sfsnode) (x : Target) : DirEntry :=
  let va := sysfsVnopGetattr t (x.node dir)
  ⟨.ofVtype va.vaType, va.vaFileid, x.name⟩

end Target

section Targets

variable (t : Tree) (g : GSnapshot) (dir : Sfsnode)

/-- The structure children of the directory, with ids that all have these parts. -/
def staticTargets (regid objectid : UInt64) : List Target :=
  (t.ssnChildren dir.nodeStructureNode).map fun c =>
    ⟨(t.node c).ssnName, ⟨regid, objectid, (t.node c).ssnBaseNodeId⟩, c⟩

/-- The attribute files of a device or a module, which share its structure node. -/
def attrTargets (attrs : List (CStr × UInt64)) : List Target :=
  attrs.map fun a =>
    ⟨a.1, ⟨dir.nodeId.nodeidRegid, a.2, (t.node dir.nodeStructureNode).ssnBaseNodeId⟩,
      dir.nodeStructureNode⟩

def childTargets : List Target :=
  match g, sysfsHashFind g dir.nodeId.nodeidRegid with
  | some snap, some p =>
    (List.range (snap.node p).numChildren).map fun k =>
      ⟨snap.childDisplay p k, ⟨snap.childRegid p k, sysfsDevDirObjid,
        (t.node dir.nodeStructureNode).ssnBaseNodeId⟩, dir.nodeStructureNode⟩
  | _, _ => []

/-- The members of a class, as links on the marker of the class. -/
def classTargets : List Target :=
  let dirSnode := t.node dir.nodeStructureNode
  match g, t.childOfType dir.nodeStructureNode .SFSlink with
  | some snap, some link =>
    (snap.nodes.tail.filter
        (isClassMember dirSnode.ssnInstance (sysfsClassMatchFlags dirSnode))).map fun nd =>
      ⟨nd.bsdname, ⟨nd.regid, sysfsNoObjectid, (t.node link).ssnBaseNodeId⟩, link⟩
  | _, _ => []

/-- The loaded kexts, as directories on the marker for modules. -/
def moduleTargets : List Target :=
  match g, t.childOfType dir.nodeStructureNode .SFSmodule with
  | some snap, some mod =>
    snap.modules.map fun m =>
      ⟨m.name, ⟨m.loadTag, sysfsModDirObjid, (t.node mod).ssnBaseNodeId⟩, mod⟩
  | _, _ => []

/-- What the directory holds, in the order in which a lookup looks. -/
def dirTargets : List Target :=
  let dirSnode := t.node dir.nodeStructureNode
  let regid := dir.nodeId.nodeidRegid
  if sysfsIsModuleDir dirSnode then moduleTargets t g dir
  else if dirSnode.ssnNodeType = .SFSmodule then attrTargets t dir sysfsModAttrs
  else if sysfsIsClassDir dirSnode then classTargets t g dir
  else if dirSnode.ssnNodeType = .SFSdevice then
    (if regid ≠ sysfsNoRegid then attrTargets t dir sysfsDevAttrs
      else staticTargets t dir sysfsNoRegid sysfsNoObjectid) ++ childTargets t g dir
  else staticTargets t dir regid dir.nodeId.nodeidObjectid

end Targets

def findTarget (xs : List Target) (nm : CStr) : Option (Sfsid × ℕ) :=
  (xs.find? fun x => x.name = nm).map fun x => (x.id, x.snode)

theorem findTarget_append (xs ys : List Target) (nm : CStr) :
    findTarget (xs ++ ys) nm = (findTarget xs nm).or (findTarget ys nm) := by
  rw [findTarget, List.find?_append, Option.map_or]
  rfl

theorem findTarget_map {α : Type} (f : α → Target) (l : List α) (nm : CStr) :
    findTarget (l.map f) nm =
      (l.find? fun a => (f a).name = nm).map fun a => ((f a).id, (f a).snode) := by
  rw [findTarget, List.find?_map, Option.map_map]
  rfl

theorem findTarget_isSome_iff {xs : List Target} {nm : CStr} :
    (findTarget xs nm).isSome ↔ nm ∈ xs.map Target.name := by
  rw [findTarget, Option.isSome_map, List.find?_isSome, List.mem_map]
  simp

theorem findTarget_of_mem {xs : List Target} (hnodup : (xs.map Target.name).Nodup) {x : Target}
    (hx : x ∈ xs) : findTarget xs x.name = some (x.id, x.snode) := by
  have hfind : (xs.find? fun y => y.name = x.name) = some x := FirstMatch.find_of_mem hnodup hx
  rw [findTarget, hfind, Option.map_some]

section Lookups

variable {t : Tree} {g : GSnapshot} {dir : Sfsnode} (hg : ∀ snap ∈ g, Produced snap) (nm : CStr)

theorem matchStatic_eq : matchStatic t dir nm =
    findTarget (staticTargets t dir dir.nodeId.nodeidRegid dir.nodeId.nodeidObjectid) nm := by
  rw [staticTargets, findTarget_map, matchStatic, Tree.childNamed]
  simp only [eq_comm]

theorem matchModuleAttr_eq :
    matchModuleAttr t dir nm = findTarget (attrTargets t dir sysfsModAttrs) nm := by
  rw [attrTargets, findTarget_map, matchModuleAttr, attrNamed, Option.map_map]
  simp only [eq_comm]
  rfl

theorem matchModule_eq : matchModule t g dir nm nm.length =
    findTarget (moduleTargets t g dir) nm := by
  unfold matchModule moduleTargets
  cases g with
  | none => rfl
  | some snap =>
    cases t.childOfType dir.nodeStructureNode .SFSmodule with
    | none => simp [findTarget]
    | some mod =>
      simp only [findTarget_map, sysfsIokitModuleNamed, sameName_eq, Option.map_some]
      cases snap.modules.find? fun m => m.name = nm <;> rfl

theorem matchClass_eq : matchClass t g dir nm nm.length = findTarget (classTargets t g dir) nm := by
  unfold matchClass classTargets
  cases g with
  | none => rfl
  | some snap =>
    cases t.childOfType dir.nodeStructureNode .SFSlink with
    | none => simp [findTarget]
    | some link =>
      simp only [findTarget_map, sysfsIokitClassChildNamed, sameName_eq, Option.map_some,
        List.find?_filter, Bool.decide_and, Bool.decide_eq_true]
      cases snap.nodes.tail.find? _ <;> rfl

include hg in
theorem childNamed_eq_findTarget :
    ((sysfsIokitChildNamed g dir.nodeId.nodeidRegid nm nm.length).map fun childRegid =>
      ((⟨childRegid, sysfsDevDirObjid, (t.node dir.nodeStructureNode).ssnBaseNodeId⟩ : Sfsid),
        dir.nodeStructureNode)) = findTarget (childTargets t g dir) nm := by
  unfold childTargets
  cases g with
  | none => rfl
  | some snap =>
    have ⟨es, hb⟩ := (hg snap rfl).built
    cases hf : sysfsHashFind (some snap) dir.nodeId.nodeidRegid with
    | none =>
      simp only [sysfsIokitChildNamed, hf]
      rfl
    | some p =>
      simp only [findTarget_map, hb.sysfsIokitChildNamed_eq hf, Option.map_map]
      rfl

include hg in
theorem matchDevice_eq (hobj : dir.nodeId.nodeidObjectid = 0) :
    matchDevice t g dir nm nm.length = findTarget
      ((if dir.nodeId.nodeidRegid ≠ sysfsNoRegid then attrTargets t dir sysfsDevAttrs
        else staticTargets t dir sysfsNoRegid sysfsNoObjectid) ++ childTargets t g dir) nm := by
  rw [findTarget_append, ← childNamed_eq_findTarget hg, matchDevice,
    matchDeviceStatic, ← Option.or_assoc]
  congr 1
  by_cases hreg : dir.nodeId.nodeidRegid = sysfsNoRegid
  · have hcond : dir.nodeId.nodeidRegid = sysfsNoRegid ∧ sysfsDevIsDir dir.nodeId.nodeidObjectid :=
      ⟨hreg, decide_eq_true hobj⟩
    rw [if_pos hcond, if_neg fun h => h hreg, if_neg fun h => h hreg, Option.or_none, staticTargets,
      findTarget_map, Tree.childNamed]
    simp only [eq_comm]
  · rw [if_neg fun h => hreg h.1, if_pos hreg, if_pos hreg, Option.none_or, attrTargets,
      findTarget_map, attrNamed, Option.map_map]
    simp only [eq_comm]
    rfl

include hg in
/-- The dispatch of a lookup finds the first target with the name. -/
theorem lookupMatch_eq (hobj : dir.nodeId.nodeidObjectid = 0) :
    lookupMatch t g dir nm nm.length = findTarget (dirTargets t g dir) nm := by
  have hisdir : sysfsModIsDir dir.nodeId.nodeidObjectid = true := decide_eq_true hobj
  rw [lookupMatch, dirTargets, hisdir]
  simp only [and_true]
  split
  · exact matchModule_eq nm
  · split
    · exact matchModuleAttr_eq nm
    · split
      · exact matchClass_eq nm
      · split
        · exact matchDevice_eq hg nm hobj
        · exact matchStatic_eq nm

end Lookups

theorem reduceOption_map_some {α β : Type} (f : α → β) (l : List α) :
    (l.map fun a => some (f a)).reduceOption = l.map f := by
  rw [List.reduceOption, List.filterMap_map]
  exact congrFun List.filterMap_eq_map' l

theorem sysfsIsModuleDir_type {s : Sfssnode} (h : sysfsIsModuleDir s = true) :
    s.ssnNodeType = .SFSdir := by
  rw [sysfsIsModuleDir, decide_eq_true_eq] at h
  exact h.2

theorem sysfsIsClassDir_type {s : Sfssnode} (h : sysfsIsClassDir s = true) :
    s.ssnNodeType = .SFSdir := by
  rw [sysfsIsClassDir, decide_eq_true_eq] at h
  exact h.2.1

section Entries

variable {t : Tree} {g : GSnapshot} {dir : Sfsnode} (hg : ∀ snap ∈ g, Produced snap)

def listedAsClass (t : Tree) (dir : Sfsnode) : Bool :=
  !sysfsIsModuleDir (t.node dir.nodeStructureNode) ∧
    sysfsIsClassDir (t.node dir.nodeStructureNode)

/-- A directory that is listed from its structure children alone. -/
structure ListedAsStatic (t : Tree) (dir : Sfsnode) : Prop where
  device : (t.node dir.nodeStructureNode).ssnNodeType ≠ .SFSdevice
  modules : sysfsIsModuleDir (t.node dir.nodeStructureNode) = false
  module : (t.node dir.nodeStructureNode).ssnNodeType ≠ .SFSmodule
  classDir : sysfsIsClassDir (t.node dir.nodeStructureNode) = false

theorem dirEntries_static (hs : ListedAsStatic t dir) :
    dirEntries t g dir =
      ((t.ssnChildren dir.nodeStructureNode).map (staticEntry t dir)).reduceOption := by
  have hmods : ¬(sysfsIsModuleDir (t.node dir.nodeStructureNode) = true ∨
      (t.node dir.nodeStructureNode).ssnNodeType = .SFSmodule) :=
    not_or.mpr ⟨by rw [hs.modules]; nofun, hs.module⟩
  rw [dirEntries, if_neg hs.device, if_neg hmods, if_neg (by rw [hs.classDir]; nofun)]

theorem dirEntries_class (hclass : listedAsClass t dir = true) :
    dirEntries t g dir = (dotEntries t dir).reduceOption ++
      classEntries g (t.node dir.nodeStructureNode).ssnInstance
        (sysfsClassMatchFlags (t.node dir.nodeStructureNode))
        (t.node dir.nodeStructureNode).ssnBaseNodeId := by
  rw [listedAsClass, decide_eq_true_eq] at hclass
  have htype := sysfsIsClassDir_type hclass.2
  have hnodir : ¬sysfsIsModuleDir (t.node dir.nodeStructureNode) := by simpa using hclass.1
  have hnodev : (t.node dir.nodeStructureNode).ssnNodeType ≠ .SFSdevice := by
    rw [htype]
    nofun
  have hnomod : (t.node dir.nodeStructureNode).ssnNodeType ≠ .SFSmodule := by
    rw [htype]
    nofun
  rw [dirEntries, if_neg hnodev, if_neg (not_or.mpr ⟨hnodir, hnomod⟩), if_pos hclass.2]

end Entries

end SysFS
