import SysFS.NodeIds

namespace SysFS
open CString

/-- The names from the root down to node `i`, over at most `fuel` parents. -/
def Tree.pathFrom (t : Tree) : ℕ → ℕ → List CStr
  | 0, _ => []
  | fuel + 1, i =>
    match (t.node i).ssnParent with
    | none => []
    | some p => t.pathFrom fuel p ++ [(t.node i).ssnName]

def Tree.ssnPath (t : Tree) (i : ℕ) : List CStr := t.pathFrom t.nodes.length i

def Tree.ParentsBefore (t : Tree) : Prop := ∀ i p, (t.node i).ssnParent = some p → p < i

theorem Tree.pathFrom_succ {t : Tree} (h : t.ParentsBefore) {fuel i : ℕ} (hi : i ≤ fuel) :
    t.pathFrom (fuel + 1) i = t.pathFrom fuel i := by
  induction fuel generalizing i with
  | zero =>
    obtain rfl : i = 0 := Nat.le_zero.mp hi
    cases hp : (t.node 0).ssnParent with
    | none => simp [pathFrom, hp]
    | some p => exact absurd (h 0 p hp) (Nat.not_lt_zero p)
  | succ fuel ih =>
    cases hp : (t.node i).ssnParent with
    | none => simp [pathFrom, hp]
    | some p =>
      have hlt := h i p hp
      rw [pathFrom, hp]
      dsimp only
      rw [ih (by omega)]
      conv_rhs => rw [pathFrom, hp]

theorem Tree.ssnPath_child {t : Tree} (h : t.ParentsBefore) {i p : ℕ} (hi : i < t.nodes.length)
    (hp : (t.node i).ssnParent = some p) : t.ssnPath i = t.ssnPath p ++ [(t.node i).ssnName] := by
  obtain ⟨k, hk⟩ := Nat.exists_eq_add_one_of_ne_zero (Nat.ne_of_gt (Nat.zero_lt_of_lt hi))
  have hlt := h i p hp
  unfold ssnPath
  rw [hk]
  conv_lhs => rw [pathFrom, hp]
  dsimp only
  rw [pathFrom_succ h (by omega)]

theorem Tree.ssnPath_root {t : Tree} {i : ℕ} (h : (t.node i).ssnParent = none) :
    t.ssnPath i = [] := by
  unfold ssnPath
  cases t.nodes.length with
  | zero => rfl
  | succ k => rw [pathFrom, h]

theorem Tree.node_unnumbered (nodes : List Sfssnode) (i : ℕ) :
    (Tree.mk (nodes.map unnumbered)).node i = unnumbered ((Tree.mk nodes).node i) := by
  simp only [node, List.getD_eq_getElem?_getD, List.getElem?_map]
  cases nodes[i]? <;> rfl

theorem Tree.ssnPath_unnumbered (nodes : List Sfssnode) (i : ℕ) :
    (Tree.mk (nodes.map unnumbered)).ssnPath i = (Tree.mk nodes).ssnPath i := by
  have h : ∀ fuel i, (Tree.mk (nodes.map unnumbered)).pathFrom fuel i =
      (Tree.mk nodes).pathFrom fuel i := by
    intro fuel
    induction fuel with
    | zero => exact fun _ => rfl
    | succ fuel ih =>
      intro i
      simp only [pathFrom, node_unnumbered, ih]
      rfl
  rw [ssnPath, h, List.length_map]
  rfl

theorem resolve_append (t : Tree) (g : GSnapshot) (dir : Sfsnode) (path : List CStr) (cn : CStr) :
    resolve t g dir (path ++ [cn]) =
      resolve t g dir path >>= fun d => sysfsVnopLookup t g d cn := by
  induction path generalizing dir with
  | nil =>
    change (sysfsVnopLookup t g dir cn >>= Except.ok) = sysfsVnopLookup t g dir cn
    cases sysfsVnopLookup t g dir cn <;> rfl
  | cons c path ih =>
    simp only [List.cons_append, resolve]
    cases sysfsVnopLookup t g dir c with
    | error e => rfl
    | ok d => exact ih d

/-- The node for a structure node that no registry entry stands behind. -/
def staticNode (t : Tree) (mnt : Int32) (i : ℕ) : Sfsnode :=
  ⟨mnt, ⟨sysfsNoRegid, sysfsNoObjectid, (t.node i).ssnBaseNodeId⟩, i⟩

/-- The dot entries and the markers that stand for dynamic entries. -/
def isDotOrMarker (s : Sfssnode) : Bool :=
  s.ssnName ∈ [cstr ".", cstr "..", cstr "__member__"]

/-- What every node and its parent satisfy: children sit in proper directories, their
names are path components, and the module container has no other static children
than the dot entries and the marker. -/
def childOk (child parent : Sfssnode) : Bool :=
  parent.ssnNodeType ∈ [Sfstype.SFSroot, .SFSdir, .SFSdevice] ∧ isDotOrMarker parent = false ∧
    child.ssnName ≠ [] ∧ child.ssnName.length < maxStructNodeNameLen ∧
    (sysfsIsModuleDir parent → isDotOrMarker child)

/-- A class directory has no other static children than the dot entries and the marker. -/
def classChildOk (child parent : Sfssnode) : Bool :=
  sysfsIsClassDir parent → isDotOrMarker child

/-- The markers of class members sit in the directories created for classes. -/
def linkOk (child parent : Sfssnode) : Bool :=
  child.ssnNodeType = .SFSlink → parent.ssnName ∈ cstr "block" :: sysfsClasses.map Prod.fst

@[mk_iff]
structure BlockOk (block : List Sfssnode) : Prop where
  children : Local childOk block
  links : Local linkOk block

instance (block : List Sfssnode) : Decidable (BlockOk block) :=
  decidable_of_iff' _ (blockOk_iff block)

theorem blocks_ok : (∀ c < sysfsMaxCpuNodes, BlockOk (cpuArena c)) ∧ BlockOk headNodes ∧
    BlockOk afterArena ∧ Local classChildOk headNodes ∧ Local classChildOk (cpuArena 0) ∧
    Local classChildOk afterArena := by
  decide +kernel

theorem childOk_treeShape {n : ℕ} (hn : n ≤ sysfsMaxCpuNodes) : Local childOk (treeShape n) :=
  treeShape_local hn blocks_ok.2.1.children (fun c hc => (blocks_ok.1 c (by omega)).children)
    blocks_ok.2.2.1.children

theorem linkOk_treeShape {n : ℕ} (hn : n ≤ sysfsMaxCpuNodes) : Local linkOk (treeShape n) :=
  treeShape_local hn blocks_ok.2.1.links (fun c hc => (blocks_ok.1 c (by omega)).links)
    blocks_ok.2.2.1.links

theorem classChildOk_treeShape {n : ℕ} (hn : n ≤ 1) : Local classChildOk (treeShape n) := by
  have ⟨_, _, _, hhead, hcpu, hafter⟩ := blocks_ok
  apply treeShape_local (hn.trans (by decide)) hhead _ hafter
  intro c hc
  obtain rfl : c = 0 := by omega
  exact hcpu

theorem headNodes_cpuDir :
    (headNodes.getD 0 default).ssnParent = none ∧
      (∀ x ∈ [(38, 0), (39, 38), (cpuDirNode, 39)],
        (headNodes.getD x.1 default).ssnParent = some x.2 ∧
          isDotOrMarker (headNodes.getD x.1 default) = false ∧
          sysfsIsClassDir (headNodes.getD x.2 default) = false) ∧
      sysfsIsClassDir (headNodes.getD cpuDirNode default) = false := by decide +kernel

theorem childOk_iff {child parent : Sfssnode} :
    childOk (bare child) (bare parent) = true ↔
      parent.ssnNodeType ∈ [Sfstype.SFSroot, .SFSdir, .SFSdevice] ∧ isDotOrMarker parent = false ∧
        child.ssnName ≠ [] ∧ child.ssnName.length < maxStructNodeNameLen ∧
        (sysfsIsModuleDir parent = true → isDotOrMarker child = true) := by
  rw [childOk, decide_eq_true_eq]
  rfl

theorem lookup_eq_match {t : Tree} {dir : Sfsnode} {nm : CStr}
    (hdir : vnodeVtype t dir = .VDIR) (hne : nm ≠ []) (hlen : nm.length ≤ nameMax)
    (hdot : nm ≠ cstr ".") (hdotdot : nm ≠ cstr "..") (g : GSnapshot) :
    sysfsVnopLookup t g dir nm =
      match lookupMatch t g dir nm nm.length with
      | some (id, snode) => .ok ⟨dir.nodeMntId, id, snode⟩
      | none => .error .ENOENT := by
  have hpos : ¬(vnodeVtype t dir ≠ .VDIR ∨ nm.length < 1) := by
    have := List.length_pos_iff.mpr hne
    simp only [hdir, ne_eq, not_true_eq_false, false_or]
    omega
  have hcopy : strlcpy nm (min (nameMax + 1) (nm.length + 1)) = nm :=
    strlcpy_of_fits (by omega)
  rw [sysfsVnopLookup, if_neg hpos]
  dsimp only
  rw [if_neg hdotdot, hcopy]
  exact if_neg hdot

theorem vnodeVtype_staticNode {t : Tree} {p : ℕ}
    (h : (t.node p).ssnNodeType ∈ [Sfstype.SFSroot, .SFSdir, .SFSdevice]) (mnt : Int32) :
    vnodeVtype t (staticNode t mnt p) = .VDIR := by
  simp only [List.mem_cons, List.not_mem_nil, or_false] at h
  rcases h with h | h | h <;> simp [vnodeVtype, staticNode, h, sysfsAllocvp, sysfsDevIsDir,
    sysfsNoObjectid, sysfsDevDirObjid]

theorem lookup_static_child {t : Tree} (hnames : SiblingsDistinct t.nodes) {i p : ℕ}
    (hi : i < t.nodes.length) (hp : (t.node i).ssnParent = some p)
    (hok : childOk (bare (t.node i)) (bare (t.node p)) = true)
    (hdot : isDotOrMarker (t.node i) = false) (hclass : sysfsIsClassDir (t.node p) = false)
    (g : GSnapshot) (mnt : Int32) :
    sysfsVnopLookup t g (staticNode t mnt p) (t.node i).ssnName = .ok (staticNode t mnt i) := by
  obtain ⟨htype, -, hne, hlen, hmodule⟩ := childOk_iff.mp hok
  have hnamed := Tree.childNamed_eq_some (hnames p) hi hp
  have hnotmod : sysfsIsModuleDir (t.node p) = false := by
    cases hm : sysfsIsModuleDir (t.node p) with
    | false => rfl
    | true => rw [hmodule hm] at hdot; cases hdot
  have hmatch : lookupMatch t g (staticNode t mnt p) (t.node i).ssnName (t.node i).ssnName.length =
      some (⟨sysfsNoRegid, sysfsNoObjectid, (t.node i).ssnBaseNodeId⟩, i) := by
    have hnomod : (t.node p).ssnNodeType ≠ .SFSmodule := by
      intro hm
      rw [hm] at htype
      exact absurd htype (by decide)
    -- the devices root takes its static children first, any other directory has no others
    by_cases hdev : (t.node p).ssnNodeType = .SFSdevice
    · simp [lookupMatch, staticNode, hnotmod, hclass, hdev, matchDevice, matchDeviceStatic,
        sysfsDevIsDir, sysfsNoObjectid, sysfsDevDirObjid, hnamed]
    · simp [lookupMatch, staticNode, hnotmod, hclass, hnomod, hdev, matchStatic, hnamed]
  simp only [isDotOrMarker, List.mem_cons, List.not_mem_nil, or_false, decide_eq_false_iff_not,
    not_or] at hdot
  rw [lookup_eq_match (vnodeVtype_staticNode htype mnt) hne
    (by unfold maxStructNodeNameLen at hlen; unfold nameMax; omega) hdot.1 hdot.2.1, hmatch]
  rfl

section Targets
variable {t : Tree} {dir : Sfsnode}

theorem Tree.childNamed_lt {p c : ℕ} {nm : CStr} (h : t.childNamed p nm = some c) :
    c < t.nodes.length := (mem_ssnChildren.mp (List.mem_of_find?_eq_some h)).1

theorem Tree.childOfType_lt {p c : ℕ} {type : Sfstype} (h : t.childOfType p type = some c) :
    c < t.nodes.length := (mem_ssnChildren.mp (List.mem_of_find?_eq_some h)).1

theorem Tree.parentOrSelf_le (ht : t.ParentsBefore) (p : ℕ) : t.parentOrSelf p ≤ p := by
  unfold parentOrSelf
  cases hp : (t.node p).ssnParent with
  | none => exact le_rfl
  | some q => exact (ht p q hp).le

theorem lookupDotDot_le (ht : t.ParentsBefore) (g : GSnapshot) :
    (lookupDotDot t g dir).2 ≤ dir.nodeStructureNode := by
  unfold lookupDotDot
  dsimp only
  split_ifs
  · exact Tree.parentOrSelf_le ht _
  · exact le_rfl
  · exact Tree.parentOrSelf_le ht _

theorem lookupMatch_lt (hdir : dir.nodeStructureNode < t.nodes.length) {g : GSnapshot} {nm : CStr}
    {k : ℕ} {r : Sfsid × ℕ} (h : lookupMatch t g dir nm k = some r) : r.2 < t.nodes.length := by
  unfold lookupMatch at h
  dsimp only at h
  split_ifs at h
  · simp only [matchModule, Option.bind_eq_some_iff, Option.map_eq_some_iff] at h
    obtain ⟨mi, -, mod, hmod, rfl⟩ := h
    exact Tree.childOfType_lt hmod
  · simp only [matchModuleAttr, Option.map_eq_some_iff] at h
    obtain ⟨objid, -, rfl⟩ := h
    exact hdir
  · simp only [matchClass, Option.bind_eq_some_iff, Option.map_eq_some_iff] at h
    obtain ⟨regid, -, link, hlink, rfl⟩ := h
    exact Tree.childOfType_lt hlink
  · simp only [matchDevice, matchDeviceStatic, Option.or_eq_some_iff] at h
    rcases h with h | ⟨-, h | ⟨-, h⟩⟩
    · split_ifs at h
      obtain ⟨c, hc, rfl⟩ := Option.map_eq_some_iff.mp h
      exact Tree.childNamed_lt hc
    · split_ifs at h
      obtain ⟨objid, -, rfl⟩ := Option.map_eq_some_iff.mp h
      exact hdir
    · obtain ⟨regid, -, rfl⟩ := Option.map_eq_some_iff.mp h
      exact hdir
  · obtain ⟨c, hc, rfl⟩ := Option.map_eq_some_iff.mp h
    exact Tree.childNamed_lt hc

theorem lookup_lt (ht : t.ParentsBefore) (hdir : dir.nodeStructureNode < t.nodes.length)
    {g : GSnapshot} {cn : CStr} {r : Sfsnode} (h : sysfsVnopLookup t g dir cn = .ok r) :
    r.nodeStructureNode < t.nodes.length := by
  unfold sysfsVnopLookup at h
  dsimp only at h
  split_ifs at h
  · cases h
    exact (lookupDotDot_le ht g).trans_lt hdir
  · cases h
    exact hdir
  · split at h
    · next id snode hm =>
      cases h
      exact lookupMatch_lt hdir hm
    · cases h

end Targets

section Built
variable (start : UInt16) (ncpu : UInt32)

theorem builtTree_root_parent : ((builtTree start ncpu).node 0).ssnParent = none := by
  have hroot := congrArg Sfssnode.ssnParent (builtTree_head_node start ncpu (i := 0) (by omega))
  exact hroot.trans headNodes_cpuDir.1

theorem builtTree_parentsBefore : (builtTree start ncpu).ParentsBefore := by
  intro i p hp
  by_cases hi : i < (builtTree start ncpu).nodes.length
  · rcases Nat.eq_zero_or_pos i with rfl | hpos
    · rw [builtTree_root_parent] at hp
      cases hp
    · obtain ⟨q, hlt, hq, -⟩ := builtTree_local start (childOk_treeShape (cpuNodes_le ncpu)) hi hpos
      rw [hq] at hp
      cases hp
      exact hlt
  · rw [Tree.node, List.getD_eq_default _ _ (Nat.le_of_not_lt hi)] at hp
    cases hp

variable {start ncpu}

/-- One lookup per component takes the root to node `i` along its path. -/
def Resolves (t : Tree) (g : GSnapshot) (mnt : Int32) (i : ℕ) : Prop :=
  resolve t g (sysfsRoot mnt) (t.ssnPath i) = .ok (staticNode t mnt i)

theorem resolves_root (g : GSnapshot) (mnt : Int32) : Resolves (builtTree start ncpu) g mnt 0 := by
  rw [Resolves, Tree.ssnPath_root (builtTree_root_parent start ncpu), staticNode,
    builtTree_root_id]
  rfl

theorem resolves_child {i p : ℕ} (hi : i < (builtTree start ncpu).nodes.length)
    (hp : ((builtTree start ncpu).node i).ssnParent = some p)
    (hdot : isDotOrMarker ((builtTree start ncpu).node i) = false)
    (hclass : sysfsIsClassDir ((builtTree start ncpu).node p) = false)
    {g : GSnapshot} {mnt : Int32} (hparent : Resolves (builtTree start ncpu) g mnt p) :
    Resolves (builtTree start ncpu) g mnt i := by
  have hpos : 0 < i := by
    have := builtTree_parentsBefore start ncpu i p hp
    omega
  obtain ⟨q, -, hq, hok⟩ := builtTree_local start (childOk_treeShape (cpuNodes_le ncpu)) hi hpos
  rw [hq] at hp
  cases hp
  rw [Resolves, Tree.ssnPath_child (builtTree_parentsBefore start ncpu) hi hq, resolve_append,
    hparent]
  exact lookup_static_child builtTree_siblings hi hq hok hdot hclass g mnt

/-- With at most one CPU every directory on a path is served by its static children. -/
theorem resolves_of_one_cpu (hncpu : cpuNodes ncpu ≤ 1) (g : GSnapshot) (mnt : Int32) (i : ℕ)
    (hi : i < (builtTree start ncpu).nodes.length)
    (hdot : isDotOrMarker ((builtTree start ncpu).node i) = false) :
    Resolves (builtTree start ncpu) g mnt i := by
  induction i using Nat.strong_induction_on with
  | _ i ih =>
    rcases Nat.eq_zero_or_pos i with rfl | hpos
    · exact resolves_root g mnt
    obtain ⟨p, hlt, hp, hok⟩ :=
      builtTree_local start (childOk_treeShape (cpuNodes_le ncpu)) hi hpos
    obtain ⟨p', -, hp', hclass⟩ := builtTree_local start (classChildOk_treeShape hncpu) hi hpos
    obtain rfl : p' = p := by rw [hp] at hp'; cases hp'; rfl
    have hnotclass : sysfsIsClassDir ((builtTree start ncpu).node p') = false := by
      cases hc : sysfsIsClassDir ((builtTree start ncpu).node p') with
      | false => rfl
      | true =>
        have := of_decide_eq_true hclass hc
        exact absurd (this.symm.trans hdot) (by simp)
    have hparent := ih p' hlt (hlt.trans hi) (childOk_iff.mp hok).2.1
    exact resolves_child hi hp hdot hnotclass hparent

def classDirPaths : List (List CStr) :=
  [cstr "block"] :: sysfsClasses.map fun c => [cstr "class", c.1]

def coreIdPath (c : ℕ) : List CStr :=
  [cstr "devices", cstr "system", cstr "cpu", cpuName c, cstr "topology", cstr "core_id"]

theorem builtTree_eq_shape (start : UInt16) (ncpu : UInt32) (i : ℕ) :
    (builtTree start ncpu).ssnPath i = (Tree.mk (treeShape (cpuNodes ncpu))).ssnPath i ∧
      unnumbered ((builtTree start ncpu).node i) =
        (Tree.mk (treeShape (cpuNodes ncpu))).node i := by
  rw [← builtTree_shape start, Tree.ssnPath_unnumbered, Tree.node_unnumbered]
  exact ⟨rfl, rfl⟩

theorem classDirs_of_shape {n : ℕ} (hn : n ≤ 1) : ∀ i < 118,
    sysfsIsClassDir ((Tree.mk (treeShape n)).node i) = true →
      (Tree.mk (treeShape n)).ssnPath i ∈ classDirPaths := by
  obtain rfl | rfl := Nat.le_one_iff_eq_zero_or_eq_one.mp hn <;> decide +kernel

theorem coreId_of_shape :
    (Tree.mk (treeShape 1)).ssnPath 81 = coreIdPath 0 ∧
      isDotOrMarker ((Tree.mk (treeShape 1)).node 81) = false ∧
      ((Tree.mk (treeShape 1)).node 81).ssnNodeType = .SFSfile ∧
      ((Tree.mk (treeShape 1)).node 81).ssnInstance = 0 := by decide +kernel

theorem childOfType_link_eq_none {p : ℕ}
    (hname : ((builtTree start ncpu).node p).ssnName ∉ cstr "block" :: sysfsClasses.map Prod.fst) :
    (builtTree start ncpu).childOfType p .SFSlink = none := by
  apply List.find?_eq_none.mpr
  intro i hmem hlink
  obtain ⟨hi, hp⟩ := mem_ssnChildren.mp hmem
  have hpos : 0 < i := by
    have := builtTree_parentsBefore start ncpu i p hp
    omega
  obtain ⟨q, -, hq, hok⟩ := builtTree_local start (linkOk_treeShape (cpuNodes_le ncpu)) hi hpos
  rw [hq] at hp
  cases hp
  exact hname (of_decide_eq_true hok (of_decide_eq_true hlink))

/-- A directory that is taken for a class directory, but is none of those. -/
@[mk_iff]
structure TakenForClass (s : Sfssnode) : Prop where
  isClass : sysfsIsClassDir s = true
  notModule : sysfsIsModuleDir s = false
  name : s.ssnName ∉ cstr "block" :: sysfsClasses.map Prod.fst

instance (s : Sfssnode) : Decidable (TakenForClass s) := decidable_of_iff' _ (takenForClass_iff s)

theorem lookup_class_without_marker {p : ℕ} (nm : CStr)
    (h : TakenForClass ((builtTree start ncpu).node p))
    (hne : nm ≠ []) (hlen : nm.length ≤ nameMax) (hdot : nm ≠ cstr ".") (hdotdot : nm ≠ cstr "..")
    (g : GSnapshot) (mnt : Int32) :
    sysfsVnopLookup (builtTree start ncpu) g (staticNode (builtTree start ncpu) mnt p) nm =
      .error .ENOENT := by
  -- there is no marker to present the members through
  have htype : ((builtTree start ncpu).node p).ssnNodeType = .SFSdir := by
    have hclass := h.isClass
    simp only [sysfsIsClassDir, decide_eq_true_eq] at hclass
    exact hclass.2.1
  have hmatch : lookupMatch (builtTree start ncpu) g (staticNode (builtTree start ncpu) mnt p) nm
      nm.length = none := by
    simp [lookupMatch, staticNode, h.notModule, htype, h.isClass, matchClass,
      childOfType_link_eq_none h.name]
  rw [lookup_eq_match (vnodeVtype_staticNode (by simp [htype]) mnt) hne hlen hdot hdotdot, hmatch]

theorem resolves_head {i p : ℕ} (hi : i < 74) (hlt : p < 74)
    (hp : (headNodes.getD i default).ssnParent = some p)
    (hdot : isDotOrMarker (headNodes.getD i default) = false)
    (hclass : sysfsIsClassDir (headNodes.getD p default) = false) {g : GSnapshot} {mnt : Int32}
    (hparent : Resolves (builtTree start ncpu) g mnt p) :
    Resolves (builtTree start ncpu) g mnt i := by
  rw [← builtTree_head_node start ncpu hi] at hp hdot
  rw [← builtTree_head_node start ncpu hlt] at hclass
  have hlen : i < (builtTree start ncpu).nodes.length := by
    rw [builtTree_length]
    omega
  exact resolves_child hlen hp hdot hclass hparent

theorem resolves_cpuDir (g : GSnapshot) (mnt : Int32) :
    Resolves (builtTree start ncpu) g mnt cpuDirNode := by
  have hstep : ∀ i p, (i, p) ∈ [(38, 0), (39, 38), (cpuDirNode, 39)] → i < 74 → p < 74 →
      Resolves (builtTree start ncpu) g mnt p → Resolves (builtTree start ncpu) g mnt i := by
    intro i p hmem hi hp hparent
    have ⟨hpar, hdot, hclass⟩ := headNodes_cpuDir.2.1 (i, p) hmem
    exact resolves_head hi hp hpar hdot hclass hparent
  have hdevices := hstep 38 0 (by simp) (by omega) (by omega) (resolves_root g mnt)
  have hsystem := hstep 39 38 (by simp) (by omega) (by omega) hdevices
  exact hstep cpuDirNode 39 (by simp) (by decide) (by omega) hsystem

theorem cpu1_facts :
    let cpu1 := (cpuPlacement 1).node ((cpuArena 1).getD 1 default)
    let topology := (cpuPlacement 1).node ((cpuArena 1).getD 5 default)
    cpu1.ssnParent = some cpuDirNode ∧ isDotOrMarker cpu1 = false ∧ TakenForClass cpu1 ∧
      topology.ssnParent = some 85 ∧ topology.ssnName = cstr "topology" := by decide +kernel

theorem not_resolves_topology (start : UInt16) (hncpu : 2 ≤ cpuNodes ncpu) (g : GSnapshot)
    (mnt : Int32) :
    89 < (builtTree start ncpu).nodes.length ∧
      isDotOrMarker ((builtTree start ncpu).node 89) = false ∧
      ¬Resolves (builtTree start ncpu) g mnt 89 := by
  have hlen : 89 < (builtTree start ncpu).nodes.length := by
    rw [builtTree_length]
    omega
  obtain ⟨hparent, hdot, hclass, htop, htopname⟩ := cpu1_facts
  have h85 : unnumbered ((builtTree start ncpu).node 85) = _ :=
    builtTree_cpu_node start (c := 1) (j := 0) (by omega) (by omega)
  have h89 : unnumbered ((builtTree start ncpu).node 89) = _ :=
    builtTree_cpu_node start (c := 1) (j := 4) (by omega) (by omega)
  rw [← h85] at hparent hdot hclass
  rw [← h89] at htop htopname
  have hcpu1 : Resolves (builtTree start ncpu) g mnt 85 :=
    resolves_child (by omega) hparent hdot
      (by
        have hcpu := builtTree_head_node start ncpu (i := cpuDirNode) (by decide)
        have hnot := headNodes_cpuDir.2.2
        rw [← hcpu] at hnot
        exact hnot)
      (resolves_cpuDir g mnt)
  refine ⟨hlen, ?_, ?_⟩
  · change isDotOrMarker (unnumbered ((builtTree start ncpu).node 89)) = false
    rw [isDotOrMarker, htopname]
    decide
  · have htaken : TakenForClass ((builtTree start ncpu).node 85) :=
      ⟨hclass.isClass, hclass.notModule, hclass.name⟩
    have hfail := lookup_class_without_marker (cstr "topology") htaken (by decide)
      (by decide) (by decide) (by decide) g mnt
    have hpath := Tree.ssnPath_child (builtTree_parentsBefore start ncpu) hlen htop
    rw [Resolves, hpath, resolve_append, hcpu1,
      show ((builtTree start ncpu).node 89).ssnName = cstr "topology" from htopname]
    intro h
    cases hfail.symm.trans h

end Built

end SysFS
