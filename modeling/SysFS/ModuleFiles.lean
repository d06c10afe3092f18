import SysFS.DeviceNames
import SysFS.Lib.FirstMatch
import SysFS.Read

namespace SysFS
open ByteMemory CString

def modulesNode (ncpu : UInt32) : ℕ := cpuBase (cpuNodes ncpu) + 12

def moduleMarker (ncpu : UInt32) : ℕ := modulesNode ncpu + 3

def moduleFile (start : UInt16) (ncpu : UInt32) (mnt : Int32) (loadTag objid : UInt64) : Sfsnode :=
  ⟨mnt, ⟨loadTag, objid, ((builtTree start ncpu).node (moduleMarker ncpu)).ssnBaseNodeId⟩,
    moduleMarker ncpu⟩

def moduleDir (start : UInt16) (ncpu : UInt32) (mnt : Int32) (loadTag : UInt64) : Sfsnode :=
  moduleFile start ncpu mnt loadTag sysfsModDirObjid

section Structure

variable (start : UInt16) (ncpu : UInt32)

theorem modulesNode_facts :
    modulesNode ncpu < (builtTree start ncpu).nodes.length ∧
      ((builtTree start ncpu).node (modulesNode ncpu)).ssnName = cstr "module" ∧
      sysfsIsModuleDir ((builtTree start ncpu).node (modulesNode ncpu)) = true ∧
      ((builtTree start ncpu).node (modulesNode ncpu)).ssnParent = some 0 := by
  have hafter : (afterArena.getD 13 default).ssnName = cstr "module" ∧
      sysfsIsModuleDir (afterArena.getD 13 default) = true ∧
      (afterArena.getD 13 default).ssnParent = some 0 := by decide +kernel
  have hnode : unnumbered ((builtTree start ncpu).node (modulesNode ncpu)) = _ :=
    builtTree_after_node start ncpu (by decide : 12 < 33)
  have hname := congrArg Sfssnode.ssnName hnode
  have hdir := congrArg sysfsIsModuleDir hnode
  have hparent := congrArg Sfssnode.ssnParent hnode
  refine ⟨?_, hname.trans hafter.1, hdir.trans hafter.2.1, ?_⟩
  · rw [builtTree_length, modulesNode, cpuBase]
    omega
  · rw [Placement.node, hafter.2.2] at hparent
    exact hparent

theorem moduleMarker_facts :
    moduleMarker ncpu < (builtTree start ncpu).nodes.length ∧
      ((builtTree start ncpu).node (moduleMarker ncpu)).ssnNodeType = .SFSmodule ∧
      ((builtTree start ncpu).node (moduleMarker ncpu)).ssnParent = some (modulesNode ncpu) := by
  have hafter : (afterArena.getD 16 default).ssnNodeType = .SFSmodule := by decide +kernel
  have hnode : unnumbered ((builtTree start ncpu).node (moduleMarker ncpu)) = _ :=
    builtTree_after_node start ncpu (by decide : 15 < 33)
  have htype : ((builtTree start ncpu).node (moduleMarker ncpu)).ssnNodeType = .SFSmodule :=
    (congrArg Sfssnode.ssnNodeType hnode).trans hafter
  have hlt : moduleMarker ncpu < (builtTree start ncpu).nodes.length := by
    rw [builtTree_length, moduleMarker, modulesNode, cpuBase]
    omega
  obtain ⟨p, heq, _, hp⟩ := builtTree_module_parent hlt htype
  rw [moduleMarker] at heq
  exact ⟨hlt, htype, by rwa [show modulesNode ncpu = p by omega]⟩

theorem childOfType_module :
    (builtTree start ncpu).childOfType (modulesNode ncpu) .SFSmodule =
      some (moduleMarker ncpu) := by
  have ⟨hlt, htype, hp⟩ := moduleMarker_facts start ncpu
  have hsome : ((builtTree start ncpu).childOfType (modulesNode ncpu) .SFSmodule).isSome := by
    rw [Tree.childOfType, List.find?_isSome]
    exact ⟨_, mem_ssnChildren.mpr ⟨hlt, hp⟩, decide_eq_true htype⟩
  have ⟨c, hc⟩ := Option.isSome_iff_exists.mp hsome
  have ⟨hclt, hcp, hctype⟩ := Tree.childOfType_spec hc
  have ⟨p, heq, _, hcp'⟩ := builtTree_module_parent hclt hctype
  cases hcp.symm.trans hcp'
  rw [hc, heq]
  rfl

theorem resolves_modules (g : GSnapshot) (mnt : Int32) :
    resolve (builtTree start ncpu) g (sysfsRoot mnt) [cstr "module"] =
      .ok (staticNode (builtTree start ncpu) mnt (modulesNode ncpu)) := by
  have ⟨hlt, hname, _, hp⟩ := modulesNode_facts start ncpu
  have hdot : isDotOrMarker ((builtTree start ncpu).node (modulesNode ncpu)) = false := by
    rw [isDotOrMarker, hname]
    decide
  have hroot : sysfsIsClassDir ((builtTree start ncpu).node 0) = false := by
    cases hclass : sysfsIsClassDir ((builtTree start ncpu).node 0) with
    | false => rfl
    | true =>
      cases (builtTree_treeOk start ncpu).rootType.symm.trans (sysfsIsClassDir_type hclass)
  have h := resolves_child hlt hp hdot hroot (resolves_root g mnt)
  rwa [Resolves, Tree.ssnPath_child (builtTree_parentsBefore start ncpu) hlt hp,
    Tree.ssnPath_root (builtTree_root_parent start ncpu), hname] at h

end Structure

section Found

variable {t : Tree} (ht : TreeOk t) {snap : Snapshot} (hsnap : Produced snap)

include ht in
theorem parentOrSelf_not_module (x : ℕ) :
    (t.node (t.parentOrSelf x)).ssnNodeType ≠ .SFSmodule := by
  intro hmod
  by_cases hlt : x < t.nodes.length
  · rcases Nat.eq_zero_or_pos x with hzero | hpos
    · rw [Tree.parentOrSelf, hzero, ht.root, Option.getD_none, ht.rootType] at hmod
      cases hmod
    · obtain ⟨p, hp⟩ := ht.parent hlt hpos
      have htype := ht.parentType hlt hp
      rw [Tree.parentOrSelf, hp, Option.getD_some] at hmod
      rw [hmod] at htype
      simp at htype
  · have hnode : t.node x = default := List.getD_eq_default _ _ (Nat.le_of_not_lt hlt)
    rw [Tree.parentOrSelf, hnode] at hmod
    change (t.node x).ssnNodeType = _ at hmod
    rw [hnode] at hmod
    cases hmod

include ht in
theorem lookupDotDot_not_module {g : GSnapshot} {dir : Sfsnode} :
    (t.node (lookupDotDot t g dir).2).ssnNodeType ≠ .SFSmodule := by
  rw [lookupDotDot]
  dsimp only
  split
  · exact parentOrSelf_not_module ht _
  · split
    · next hdev =>
      show (t.node dir.nodeStructureNode).ssnNodeType ≠ _
      rw [hdev.1]
      simp
    · exact parentOrSelf_not_module ht _

include hsnap in
theorem moduleNamed_spec {cn : CStr} {mi : SnapModule}
    (h : sysfsIokitModuleNamed (some snap) (lookupName cn) cn.length = some mi) :
    ∃ m ∈ snap.modules, m.name = cn ∧ mi.loadTag = m.loadTag := by
  have ⟨m, hfind, hmi⟩ := Option.map_eq_some_iff.mp h
  have hmem := List.mem_of_find?_eq_some hfind
  have hsame := List.find?_some hfind
  have hlen : m.name.length = cn.length := (of_decide_eq_true hsame).1
  have hshort := (hsnap.modules m hmem).1
  rw [lookupName_of_le (by rw [nameMax]; omega)] at hsame
  exact ⟨m, hmem, sameName_iff.mp hsame, by rw [← hmi]; rfl⟩

include ht hsnap

/-- A lookup comes to a node of a kext from a node of the same kext or by the kext's name. -/
theorem lookup_module {dir n : Sfsnode} {cn : CStr}
    (hl : sysfsVnopLookup t (some snap) dir cn = .ok n)
    (hn : (t.node n.nodeStructureNode).ssnNodeType = .SFSmodule) :
    ((t.node dir.nodeStructureNode).ssnNodeType = .SFSmodule ∧
        n.nodeId.nodeidRegid = dir.nodeId.nodeidRegid) ∨
      (cn ≠ cstr "." ∧ cn ≠ cstr ".." ∧
        ∃ m ∈ snap.modules, m.name = cn ∧ n.nodeId.nodeidRegid = m.loadTag) := by
  have ⟨_, hlooked⟩ := lookup_spec hl
  cases hlooked with
  | dotdot => exact absurd hn (lookupDotDot_not_module ht)
  | dot => exact .inl ⟨hn, rfl⟩
  | found hdotdot hdot hfound =>
    cases hfound with
    | module _ hmi _ =>
      have ⟨m, hmem, hname, htag⟩ := moduleNamed_spec hsnap hmi
      exact .inr ⟨hdot, hdotdot, m, hmem, hname, htag⟩
    | moduleAttr _ hmod _ => exact .inl ⟨hmod.1, rfl⟩
    | classMember _ _ _ _ hlink => cases hn.symm.trans (Tree.childOfType_spec hlink).2.2
    | deviceStatic hdev _ hc =>
      have ⟨hlt, hp, _⟩ := Tree.childNamed_spec hc
      cases hn.symm.trans ((ht.kind hlt hp).device_child hdev)
    | deviceAttr hdev | deviceChild hdev => cases hn.symm.trans hdev
    | static hnodir _ _ _ hc =>
      have ⟨hlt, hp, _⟩ := Tree.childNamed_spec hc
      exact absurd ((ht.kind hlt hp).module_parent hn) hnodir

theorem resolve_module {dir n : Sfsnode} {path : List CStr}
    (hr : resolve t (some snap) dir path = .ok n)
    (hn : (t.node n.nodeStructureNode).ssnNodeType = .SFSmodule) :
    ((t.node dir.nodeStructureNode).ssnNodeType = .SFSmodule ∧
        n.nodeId.nodeidRegid = dir.nodeId.nodeidRegid) ∨
      ∃ m ∈ snap.modules, m.name ∈ path ∧ m.name ≠ cstr "." ∧ m.name ≠ cstr ".." ∧
        n.nodeId.nodeidRegid = m.loadTag := by
  induction path generalizing dir with
  | nil =>
    cases hr
    exact .inl ⟨hn, rfl⟩
  | cons cn path ih =>
    rw [resolve] at hr
    cases hl : sysfsVnopLookup t (some snap) dir cn with
    | error e =>
      rw [hl] at hr
      cases hr
    | ok r =>
      rw [hl] at hr
      rcases ih hr with ⟨hmod, hregid⟩ | ⟨m, hm, hpath, hrest⟩
      · -- the rest of the path stays with the kext that the first name led to
        rcases lookup_module ht hsnap hl hmod with ⟨hdir, heq⟩ | ⟨hdot, hdotdot, m, hm, hname, heq⟩
        · exact .inl ⟨hdir, hregid.trans heq⟩
        · rw [← hname] at hdot hdotdot ⊢
          exact .inr ⟨m, hm, List.mem_cons_self, hdot, hdotdot, hregid.trans heq⟩
      · exact .inr ⟨m, hm, List.mem_cons_of_mem cn hpath, hrest⟩

end Found

/-- The attribute files whose values are captured, with the text of each. -/
def capturedAttrs (m : SnapModule) : List (CStr × CStr) :=
  [(cstr "refcnt", decimal m.refcnt.toNat ++ cstr "\n"),
    (cstr "coresize", decimal m.loadSize.toNat ++ cstr "\n"),
    (cstr "version", m.version ++ cstr "\n")]

/-- The path of every kext leads to its own directory, its files read as the captured values,
and no two kexts have one node id. -/
structure ModulesRead
    (readDataFn : ReadDataFn → Sfsnode → Memory → ByteUio → Option ReadResult)
    (start : UInt16) (ncpu : UInt32) (snap : Snapshot) (mnt : Int32)
    (hash : ℕ → NodeHash (builtTree start ncpu)) : Prop where
  dir : ∀ m ∈ snap.modules,
    resolveFromRoot (builtTree start ncpu) (some snap) hash mnt
      (pathComponents (joined [cstr "module", m.name])) = .ok (moduleDir start ncpu mnt m.loadTag)
  value : ∀ m ∈ snap.modules, ∀ a ∈ capturedAttrs m, ∃ n,
    resolveFromRoot (builtTree start ncpu) (some snap) hash mnt
      (pathComponents (joined [cstr "module", m.name, a.1])) = .ok n ∧
    ∀ call : ReadCall, a.2.length ≤ call.room →
      call.bytes (sysfsVnopRead readDataFn (builtTree start ncpu) (some snap) n) 0 = some a.2
  ids : (snap.modules.map fun m => (moduleDir start ncpu mnt m.loadTag).nodeId).Nodup

theorem nodup_moduleIds_iff (start : UInt16) (ncpu : UInt32) (mnt : Int32)
    (ms : List SnapModule) :
    (ms.map fun m => (moduleDir start ncpu mnt m.loadTag).nodeId).Nodup ↔
      (ms.map SnapModule.loadTag).Nodup := by
  have hinj : Function.Injective fun tag => (moduleDir start ncpu mnt tag).nodeId :=
    fun _ _ heq => congrArg Sfsid.nodeidRegid heq
  rw [← List.nodup_map_iff hinj, List.map_map]
  rfl

section Values

variable {snap : Snapshot} (hsnap : Produced snap)
include hsnap

theorem moduleByTag_eq (htags : (snap.modules.map SnapModule.loadTag).Nodup) {m : SnapModule}
    (hm : m ∈ snap.modules) : sysfsIokitModuleByTag (some snap) m.loadTag = some m := by
  have hfind : snap.modules.find? (fun x => x.loadTag = m.loadTag) = some m :=
    FirstMatch.find_of_mem htags hm
  have ⟨hname, hversion⟩ := hsnap.modules m hm
  have hcopy : sysfsModuleCopyOut m = m := by
    rw [sysfsModuleCopyOut, strlcpy_of_fits hname, strlcpy_of_fits hversion]
  rw [sysfsIokitModuleByTag, hfind, Option.map_some, hcopy]

variable (start : UInt16) (ncpu : UInt32) (mnt : Int32)

theorem lookup_kext (hnames : (snap.modules.map SnapModule.name).Nodup) {m : SnapModule}
    (hm : m ∈ snap.modules) (hcomp : IsComponent m.name) :
    sysfsVnopLookup (builtTree start ncpu) (some snap)
        (staticNode (builtTree start ncpu) mnt (modulesNode ncpu)) m.name =
      .ok (moduleDir start ncpu mnt m.loadTag) := by
  have ⟨_, _, hdir, _⟩ := modulesNode_facts start ncpu
  have hg : ∀ s ∈ some snap, Produced s := fun s hs => Option.some_inj.mp hs ▸ hsnap
  have hvtype : vnodeVtype (builtTree start ncpu)
      (staticNode (builtTree start ncpu) mnt (modulesNode ncpu)) = .VDIR := by
    rw [vnodeVtype, staticNode]
    dsimp only
    rw [sysfsIsModuleDir_type hdir]
    rfl
  have htargets : dirTargets (builtTree start ncpu) (some snap)
      (staticNode (builtTree start ncpu) mnt (modulesNode ncpu)) =
      snap.modules.map fun m => ⟨m.name, (moduleDir start ncpu mnt m.loadTag).nodeId,
        moduleMarker ncpu⟩ := by
    have hmods : dirTargets (builtTree start ncpu) (some snap)
        (staticNode (builtTree start ncpu) mnt (modulesNode ncpu)) = _ := if_pos hdir
    have hmarker : (builtTree start ncpu).childOfType
        (staticNode (builtTree start ncpu) mnt (modulesNode ncpu)).nodeStructureNode .SFSmodule =
        some (moduleMarker ncpu) := childOfType_module start ncpu
    rw [hmods]
    simp only [moduleTargets, hmarker]
    rfl
  have hlen := (hsnap.modules m hm).1
  have hnodup : ((dirTargets (builtTree start ncpu) (some snap)
      (staticNode (builtTree start ncpu) mnt (modulesNode ncpu))).map Target.name).Nodup := by
    rw [htargets, List.map_map]
    exact hnames
  have hfind := findTarget_of_mem hnodup (htargets ▸ List.mem_map_of_mem hm)
  rw [lookup_eq_match hvtype hcomp.1 (by rw [nameMax]; omega) hcomp.2.2.1 hcomp.2.2.2,
    lookupMatch_eq hg _ rfl, hfind]
  rfl

omit hsnap in
theorem lookup_kext_attr (loadTag : UInt64) {nm : CStr} {objid : UInt64}
    (ha : (nm, objid) ∈ sysfsModAttrs) :
    sysfsVnopLookup (builtTree start ncpu) (some snap) (moduleDir start ncpu mnt loadTag) nm =
      .ok (moduleFile start ncpu mnt loadTag objid) := by
  have hattrs : ∀ a ∈ sysfsModAttrs, a.1 ≠ [] ∧ a.1.length ≤ nameMax ∧ a.1 ≠ cstr "." ∧
      a.1 ≠ cstr ".." ∧ attrNamed sysfsModAttrs a.1 = some a.2 := by decide
  have ⟨hne, hlen, hdot, hdotdot, hnamed⟩ := hattrs _ ha
  have htype := (moduleMarker_facts start ncpu).2.1
  have hvtype : vnodeVtype (builtTree start ncpu) (moduleDir start ncpu mnt loadTag) = .VDIR := by
    rw [vnodeVtype, moduleDir, moduleFile]
    dsimp only
    rw [htype]
    rfl
  have hmatch : lookupMatch (builtTree start ncpu) (some snap) (moduleDir start ncpu mnt loadTag)
        nm nm.length =
      matchModuleAttr (builtTree start ncpu) (moduleDir start ncpu mnt loadTag) nm := by
    have hnodir : ¬sysfsIsModuleDir ((builtTree start ncpu).node (moduleMarker ncpu)) := fun h => by
      cases htype.symm.trans (sysfsIsModuleDir_type h)
    exact (if_neg hnodir).trans (if_pos ⟨htype, rfl⟩)
  rw [lookup_eq_match hvtype hne hlen hdot hdotdot, hmatch, matchModuleAttr, hnamed]
  rfl

theorem kext_attr_bytes
    (readDataFn : ReadDataFn → Sfsnode → Memory → ByteUio → Option ReadResult)
    (htags : (snap.modules.map SnapModule.loadTag).Nodup) {m : SnapModule}
    (hm : m ∈ snap.modules) {objid : UInt64} (hobj : objid ∈ sysfsModAttrs.map Prod.snd)
    {text : CStr} (htext : moduleAttrCase m objid = some text) {call : ReadCall}
    (hroom : text.length ≤ call.room) :
    call.bytes (sysfsVnopRead readDataFn (builtTree start ncpu) (some snap)
      (moduleFile start ncpu mnt m.loadTag objid)) 0 = some text := by
  have hcontent : FileContent readDataFn (builtTree start ncpu) (some snap)
      (moduleFile start ncpu mnt m.loadTag objid) (moduleAttrText (some snap) m.loadTag objid) :=
    .module (moduleMarker_facts start ncpu).2.1 hobj
  have hvalue : moduleAttrText (some snap) m.loadTag objid = text := by
    rw [moduleAttrText, moduleByTag_eq hsnap htags hm, Option.bind_some, htext, Option.getD_some]
  rw [hvalue] at hcontent
  have hbytes := hcontent.renders.bytes_eq call (Nat.zero_le _)
  rwa [List.drop_zero, List.take_of_length_le hroom] at hbytes

omit hsnap in
theorem capturedAttrs_case {m : SnapModule} {a : CStr × CStr} (ha : a ∈ capturedAttrs m) :
    ∃ objid, (a.1, objid) ∈ sysfsModAttrs ∧ moduleAttrCase m objid = some a.2 := by
  simp only [capturedAttrs, List.mem_cons, List.not_mem_nil, or_false] at ha
  rcases ha with rfl | rfl | rfl
  · exact ⟨sysfsModAttrRefcnt, List.mem_cons_self, rfl⟩
  · exact ⟨sysfsModAttrCoresize, List.mem_cons_of_mem _ List.mem_cons_self, rfl⟩
  · exact ⟨sysfsModAttrVersion, List.mem_of_getElem? (i := 3) rfl, rfl⟩

omit hsnap in
theorem resolve_kext_path {m : SnapModule} (hcomp : IsComponent m.name)
    (hlookup : sysfsVnopLookup (builtTree start ncpu) (some snap)
        (staticNode (builtTree start ncpu) mnt (modulesNode ncpu)) m.name =
      .ok (moduleDir start ncpu mnt m.loadTag)) {rest : List CStr}
    (hrest : ∀ nm ∈ rest, nm ≠ [] ∧ 47 ∉ nm) :
    resolve (builtTree start ncpu) (some snap) (sysfsRoot mnt)
        (pathComponents (joined (cstr "module" :: m.name :: rest))) =
      resolve (builtTree start ncpu) (some snap) (moduleDir start ncpu mnt m.loadTag) rest := by
  have hcomps : pathComponents (joined (cstr "module" :: m.name :: rest)) =
      [cstr "module"] ++ m.name :: rest := by
    apply pathComponents_joined (by simp)
    rw [List.forall_mem_cons, List.forall_mem_cons]
    exact ⟨by decide, ⟨hcomp.1, hcomp.2.1⟩, hrest⟩
  rw [hcomps, resolve_append_path, resolves_modules]
  show resolve _ _ _ (m.name :: rest) = _
  rw [resolve, hlookup]
  rfl

end Values

/-- The kexts of a snapshot are entries of the dictionary, and with distinct ids and whatever is in
the hash, the way from every name to the captured values is right exactly if names and load tags
are distinct and the names are path components. -/
theorem module_values_iff
    (readDataFn : ReadDataFn → Sfsnode → Memory → ByteUio → Option ReadResult)
    {start : UInt16} {ncpu : UInt32} (hids : BaseIdsDistinct (builtTree start ncpu))
    {lastNodeCount : ℕ} {counted : Option (List RegEntry)} {inp : BuildInput} {snap : Snapshot}
    (hbuild : (sysfsSnapBuild lastNodeCount counted inp).1 = some snap) (mnt : Int32)
    (hash : ℕ → NodeHash (builtTree start ncpu)) :
    (∀ m ∈ snap.modules, ∃ info ∈ inp.kexts, ∃ k ∈ info, snapModule k = some m) ∧
    (ModulesRead readDataFn start ncpu snap mnt hash ↔
      (snap.modules.map SnapModule.name).Nodup ∧ (snap.modules.map SnapModule.loadTag).Nodup ∧
        ∀ m ∈ snap.modules, IsComponent m.name) := by
  have hsnap : Produced snap := ⟨_, _, _, hbuild⟩
  refine ⟨fun m hm => mem_modules_of_build hbuild hm, ?_, ?_⟩
  · intro h
    have hdir := h.dir
    simp only [resolveFromRoot_eq hids] at hdir
    have htags := (nodup_moduleIds_iff start ncpu mnt snap.modules).mp h.ids
    have htag : ∀ m ∈ snap.modules, ∀ m' ∈ snap.modules, m.loadTag = m'.loadTag → m = m' :=
      fun m hm m' hm' => List.inj_on_of_nodup_map htags hm hm'
    refine ⟨?_, htags, ?_⟩
    · apply List.Nodup.map_on _ htags.of_map
      intro m hm m' hm' hname
      have hdirs := (hdir m hm).symm.trans (hname ▸ hdir m' hm')
      exact htag m hm m' hm' (congrArg (fun n => n.nodeId.nodeidRegid) (Except.ok.inj hdirs))
    · intro m hm
      -- the name that led to the directory of the kext is a component, and it is the kext's
      have hroot : ((builtTree start ncpu).node (sysfsRoot mnt).nodeStructureNode).ssnNodeType ≠
          .SFSmodule := by
        show ((builtTree start ncpu).node 0).ssnNodeType ≠ _
        rw [(builtTree_treeOk start ncpu).rootType]
        nofun
      rcases resolve_module (builtTree_treeOk start ncpu) hsnap (hdir m hm)
        (moduleMarker_facts start ncpu).2.1 with ⟨hmod, _⟩ | ⟨m', hm', hpath, hdot, hdotdot, heq⟩
      · exact absurd hmod hroot
      · have hplain := mem_pathComponents hpath
        rw [htag m hm m' hm' heq]
        exact ⟨hplain.1, hplain.2, hdot, hdotdot⟩
  · intro ⟨hnames, htags, hcomp⟩
    have hlookup : ∀ m ∈ snap.modules, _ := fun m hm =>
      lookup_kext hsnap start ncpu mnt hnames hm (hcomp m hm)
    refine ⟨fun m hm => ?_, fun m hm a ha => ?_, ?_⟩
    · rw [resolveFromRoot_eq hids, resolve_kext_path start ncpu mnt (hcomp m hm) (hlookup m hm)
        (List.forall_mem_nil _)]
      rfl
    · have ⟨objid, hattr, htext⟩ := capturedAttrs_case ha
      have hattrs : ∀ a ∈ sysfsModAttrs, a.1 ≠ [] ∧ 47 ∉ a.1 := by decide
      refine ⟨moduleFile start ncpu mnt m.loadTag objid, ?_, fun call hroom =>
        kext_attr_bytes hsnap start ncpu mnt readDataFn htags hm (List.mem_map_of_mem hattr) htext
          hroom⟩
      rw [resolveFromRoot_eq hids, resolve_kext_path start ncpu mnt (hcomp m hm) (hlookup m hm)
        (List.forall_mem_singleton.mpr (hattrs _ hattr)), resolve,
        lookup_kext_attr start ncpu mnt m.loadTag hattr]
      rfl
    · exact (nodup_moduleIds_iff start ncpu mnt snap.modules).mpr htags

def twoKexts (tagA tagB : Option UInt64) : List KextEntry :=
  [⟨some (cstr "com.example.a"), some ⟨tagA, some 4096, some 1, some (cstr "1.0")⟩⟩,
    ⟨some (cstr "com.example.b"), some ⟨tagB, some 8192, some 2, none⟩⟩]

def twoKextsInput (tagA tagB : Option UInt64) : BuildInput where
  yields := some []
  kexts := some (twoKexts tagA tagB)
  uptime := 0

/-- Kexts without a load tag share their node id, and the files of the second one show the
values of the first. -/
theorem untagged_kexts_share_values :
    ((twoKexts none none).filterMap fun k => k.info.bind KextDict.loadTag).Nodup ∧
    ∃ snap n, (sysfsSnapBuild 0 none (twoKextsInput none none)).1 = some snap ∧
      snap.modules.map (fun m => (m.name, m.refcnt, (moduleDir 2 1 1 m.loadTag).nodeId)) =
        [(cstr "com.example.a", 1, ⟨0, 0, 0x65⟩), (cstr "com.example.b", 2, ⟨0, 0, 0x65⟩)] ∧
      (∀ hash, resolveFromRoot (builtTree 2 1) (some snap) hash 1
        (pathComponents (cstr "module/com.example.b/refcnt")) = .ok n) ∧
      ReadCall.bytes (sysfsVnopRead noReadFn (builtTree 2 1) (some snap) n) ⟨64, fun _ => 0⟩ 0 =
        some (cstr "1\n") := by
  have hrun : (sysfsSnapBuild 0 none (twoKextsInput none none)).1.any (fun snap =>
      (resolve (builtTree 2 1) (some snap) (sysfsRoot 1)
        (pathComponents (cstr "module/com.example.b/refcnt"))).toOption.any fun n =>
      snap.modules.map (fun m => (m.name, m.refcnt, (moduleDir 2 1 1 m.loadTag).nodeId)) =
        [(cstr "com.example.a", 1, ⟨0, 0, 0x65⟩), (cstr "com.example.b", 2, ⟨0, 0, 0x65⟩)] ∧
      ReadCall.bytes (sysfsVnopRead noReadFn (builtTree 2 1) (some snap) n) ⟨64, fun _ => 0⟩ 0 =
        some (cstr "1\n")) = true := by decide +kernel
  obtain ⟨snap, hsnap, hrun⟩ := (Option.any_eq_true _ _).mp hrun
  obtain ⟨n, hn, hrun⟩ := exists_ok_of_any hrun
  obtain ⟨hmodules, hbytes⟩ := of_decide_eq_true hrun
  refine ⟨by decide, snap, n, hsnap, hmodules, fun hash => ?_, hbytes⟩
  rw [resolveFromRoot_eq (firstTree_ids 1), hn]

/-- With load tags the values are right, also where there is no version. -/
theorem tagged_kexts_read :
    ∃ snap, (sysfsSnapBuild 0 none (twoKextsInput (some 7) none)).1 = some snap ∧
      snap.modules.length = 2 ∧ ∀ hash, ModulesRead noReadFn 2 1 snap 1 hash := by
  have hcheck : ((sysfsSnapBuild 0 none (twoKextsInput (some 7) none)).1.any fun snap =>
      snap.modules.length = 2 ∧ (snap.modules.map SnapModule.name).Nodup ∧
      (snap.modules.map SnapModule.loadTag).Nodup ∧ ∀ m ∈ snap.modules, IsComponent m.name) =
      true := by
    decide +kernel
  obtain ⟨snap, hbuild, hok⟩ := (Option.any_eq_true _ _).mp hcheck
  obtain ⟨hlen, hcond⟩ := of_decide_eq_true hok
  refine ⟨snap, hbuild, hlen, fun hash => ?_⟩
  exact (module_values_iff noReadFn (firstTree_ids 1) hbuild 1 hash).2.mpr hcond

end SysFS
