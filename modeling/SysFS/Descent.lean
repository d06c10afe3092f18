import SysFS.HashedLookup
import SysFS.SnapNames

namespace SysFS
open CString

theorem attrNamed_mem {attrs : List (CStr × UInt64)} {nm : CStr} {objid : UInt64}
    (h : attrNamed attrs nm = some objid) : (nm, objid) ∈ attrs := by
  have ⟨a, ha, heq⟩ := Option.map_eq_some_iff.mp h
  have hname := List.find?_some ha
  rw [of_decide_eq_true hname, ← heq]
  exact List.mem_of_find?_eq_some ha

theorem sysfsDevAttrs_objid {nm : CStr} {objid : UInt64}
    (h : attrNamed sysfsDevAttrs nm = some objid) : objid ≠ sysfsDevDirObjid := by
  have hall : ∀ a ∈ sysfsDevAttrs, a.2 ≠ sysfsDevDirObjid := by decide
  exact hall _ (attrNamed_mem h)

theorem sysfsModAttrs_objid {nm : CStr} {objid : UInt64}
    (h : attrNamed sysfsModAttrs nm = some objid) : objid ≠ sysfsModDirObjid := by
  have hall : ∀ a ∈ sysfsModAttrs, a.2 ≠ sysfsModDirObjid := by decide
  exact hall _ (attrNamed_mem h)

theorem vnodeVtype_module_attr {t : Tree} {n : Sfsnode}
    (ht : (t.node n.nodeStructureNode).ssnNodeType = .SFSmodule)
    (ho : n.nodeId.nodeidObjectid ≠ sysfsModDirObjid) : vnodeVtype t n = .VREG := by
  rw [vnodeVtype, ht]
  exact if_neg fun h => ho (of_decide_eq_true h)

theorem vnodeVtype_device_attr {t : Tree} {n : Sfsnode}
    (ht : (t.node n.nodeStructureNode).ssnNodeType = .SFSdevice)
    (ho : n.nodeId.nodeidObjectid ≠ sysfsDevDirObjid) : vnodeVtype t n = .VREG := by
  rw [vnodeVtype, ht]
  exact if_neg fun h => ho (of_decide_eq_true h)

theorem vnodeVtype_link {t : Tree} {n : Sfsnode}
    (ht : (t.node n.nodeStructureNode).ssnNodeType = .SFSlink) : vnodeVtype t n = .VLNK := by
  rw [vnodeVtype, ht]
  rfl

theorem lookup_dotdot {t : Tree} {g : GSnapshot} {dir : Sfsnode} (h : vnodeVtype t dir = .VDIR) :
    sysfsVnopLookup t g dir (cstr "..") =
      .ok ⟨dir.nodeMntId, (lookupDotDot t g dir).1, (lookupDotDot t g dir).2⟩ := by
  have hcond : ¬(vnodeVtype t dir ≠ .VDIR ∨ (cstr "..").length < 1) := by
    intro hor
    rcases hor with hne | hlt
    · exact hne h
    · exact absurd hlt (by decide)
  rw [sysfsVnopLookup, if_neg hcond]
  rfl

/-- `..` of a node on a child of the directory's structure node, neither a module nor a
registry entry. -/
theorem lookupDotDot_child {t : Tree} {g : GSnapshot} {c p : ℕ} {n : Sfsnode}
    (hsn : n.nodeStructureNode = c) (hp : (t.node c).ssnParent = some p)
    (hmod : (t.node c).ssnNodeType ≠ .SFSmodule)
    (hreg : n.nodeId.nodeidRegid = 0) (hobj : n.nodeId.nodeidObjectid = 0) :
    lookupDotDot t g n = (⟨0, 0, (t.node p).ssnBaseNodeId⟩, p) := by
  have hpar : t.parentOrSelf c = p := by rw [Tree.parentOrSelf, hp, Option.getD_some]
  rw [lookupDotDot, hsn]
  dsimp only
  rw [if_neg fun hm => hmod hm.1, if_neg fun hd => hd.2 hreg, sysfsGetParentNodeId, hsn, hpar,
    hreg, hobj]
  split <;> rfl

theorem lookupDotDot_module {t : Tree} {g : GSnapshot} {n : Sfsnode}
    (ht : (t.node n.nodeStructureNode).ssnNodeType = .SFSmodule)
    (hobj : n.nodeId.nodeidObjectid = sysfsModDirObjid) :
    lookupDotDot t g n =
      (⟨sysfsNoRegid, sysfsNoObjectid,
        (t.node (t.parentOrSelf n.nodeStructureNode)).ssnBaseNodeId⟩,
        t.parentOrSelf n.nodeStructureNode) := by
  rw [lookupDotDot]
  exact if_pos ⟨ht, decide_eq_true hobj⟩

theorem lookupDotDot_device {t : Tree} {g : GSnapshot} {n : Sfsnode}
    (ht : (t.node n.nodeStructureNode).ssnNodeType = .SFSdevice)
    (hreg : n.nodeId.nodeidRegid ≠ 0) :
    lookupDotDot t g n =
      (⟨(sysfsIokitParent g n.nodeId.nodeidRegid).getD 0, sysfsDevDirObjid,
        (t.node n.nodeStructureNode).ssnBaseNodeId⟩, n.nodeStructureNode) := by
  rw [lookupDotDot]
  dsimp only
  rw [if_neg (by rw [ht]; simp), if_pos ⟨ht, hreg⟩]

namespace Built

variable {es : List RegEntry} {snap : Snapshot} (h : Built es snap)
include h

theorem find_zero : sysfsHashFind (some snap) 0 = some 0 := by
  have hpos : 0 < snap.nodeCount := by
    have hlen := congrArg List.length h.entries
    rw [List.length_map, List.length_cons] at hlen
    rw [Snapshot.nodeCount]
    omega
  have hzero : (snap.node 0).regid = 0 := by
    show (snap.node 0).core.regid = 0
    rw [h.node_core]
    rfl
  rw [← hzero]
  exact h.find_node hpos

theorem find_lt {r : UInt64} {i : ℕ} (hf : sysfsHashFind (some snap) r = some i) :
    i < snap.nodeCount ∧ (snap.node i).regid = r := by
  have ⟨nd, hnd, hr⟩ := (h.find r i).mp hf
  have hi : i < snap.nodeCount := (List.getElem?_eq_some_iff.mp hnd).1
  rw [Snapshot.node, List.getD_eq_getElem?_getD, hnd]
  exact ⟨hi, hr⟩

theorem parentIdx_childAt {p k : ℕ} (hk : k < (snap.node p).numChildren) :
    parentIdx snap (snap.childAt p k) = p := by
  -- a child is listed under the node that its parent's id is found at
  have hmem := mem_children_iff.mpr ⟨k, hk, rfl⟩
  rcases h.children with hempty | hkids
  · rw [hempty p] at hmem
    cases hmem
  · have hp : p < snap.nodeCount := by
      by_contra hp
      rw [node_ge (Nat.le_of_not_lt hp)] at hk
      exact absurd hk (Nat.not_lt_zero k)
    rw [hkids p hp, Csr.kids, List.mem_filter, decide_eq_true_eq] at hmem
    exact hmem.2

theorem child_of_named {regid c : UInt64} {nm : CStr} {k : ℕ}
    (hc : sysfsIokitChildNamed (some snap) regid nm k = some c) :
    ∃ p j, sysfsHashFind (some snap) regid = some p ∧ j < (snap.node p).numChildren ∧
      c = snap.childRegid p j := by
  have hfrom : ∀ p n i, p < snap.nodeCount → childNamedFrom snap p nm k n i = some c →
      ∃ j < (snap.node p).numChildren, c = snap.childRegid p j := by
    intro p n
    induction n with
    | zero =>
      intro i _ hn
      cases hn
    | succ n ih =>
      intro i hp hn
      rw [childNamedFrom, h.sysfsChildDisplay_eq hp (by decide)] at hn
      by_cases hi : i < (snap.node p).numChildren
      · rw [if_pos hi] at hn
        dsimp only at hn
        split at hn
        · exact ⟨i, hi, (Option.some_inj.mp hn).symm⟩
        · exact ih (i + 1) hp hn
      · rw [if_neg hi] at hn
        cases hn
  cases hf : sysfsHashFind (some snap) regid with
  | none =>
    simp only [sysfsIokitChildNamed, hf] at hc
    cases hc
  | some p =>
    simp only [sysfsIokitChildNamed, hf] at hc
    obtain ⟨j, hj, hcj⟩ := hfrom p _ 0 (h.find_lt hf).1 hc
    exact ⟨p, j, rfl, hj, hcj⟩

/-- The id of a child is not the root's, and its recorded parent is the entry it is listed
under or was not captured. -/
theorem child_parent {regid : UInt64} {p j : ℕ} (hf : sysfsHashFind (some snap) regid = some p)
    (hj : j < (snap.node p).numChildren) :
    snap.childRegid p j ≠ 0 ∧
      sysfsHashFind (some snap) (snap.childRegid p j) = some (snap.childAt p j) ∧
      ((snap.node (snap.childAt p j)).parentRegid = regid ↔
        (sysfsHashFind (some snap) (snap.node (snap.childAt p j)).parentRegid).isSome) := by
  obtain ⟨hpos, hlt⟩ := h.childAt_mem hj
  have hfind := h.find_node hlt
  refine ⟨?_, hfind, ?_⟩
  · intro hzero
    have hroot := h.find_zero
    rw [← hzero, Snapshot.childRegid, hfind, Option.some_inj] at hroot
    omega
  · have hpar := h.parentIdx_childAt hj
    rw [parentIdx] at hpar
    cases hq : sysfsHashFind (some snap) (snap.node (snap.childAt p j)).parentRegid with
    | none =>
      constructor
      · intro heq
        rw [heq, hf] at hq
        cases hq
      · simp
    | some q =>
      rw [hq, Option.getD_some] at hpar
      rw [← (h.find_lt hq).2, ← (h.find_lt hf).2, hpar]
      exact ⟨fun _ => rfl, fun _ => rfl⟩

end Built

/-- The parent of the registry entry that the node stands for is in the snapshot, if the node
is the directory of an entry of the snapshot. -/
def ParentCaptured (t : Tree) (snap : Snapshot) (n : Sfsnode) : Prop :=
  (t.node n.nodeStructureNode).ssnNodeType = .SFSdevice →
    ∀ i, sysfsHashFind (some snap) n.nodeId.nodeidRegid = some i →
      (sysfsHashFind (some snap) (snap.node i).parentRegid).isSome

/-- The lookup has found a node with the mount and the id of `dir`. -/
def LeadsBack (found : Except Errno Sfsnode) (dir : Sfsnode) : Prop :=
  ∃ r, found = .ok r ∧ r.nodeMntId = dir.nodeMntId ∧ r.nodeId = dir.nodeId

section Descent

variable {t : Tree} {es : List RegEntry} {snap : Snapshot} {dir : Sfsnode} {id : Sfsid} {c : ℕ}

theorem leadsBack_of_eq {g : GSnapshot} (hc : vnodeVtype t ⟨dir.nodeMntId, id, c⟩ = .VDIR)
    (heq : (lookupDotDot t g ⟨dir.nodeMntId, id, c⟩).1 = dir.nodeId) :
    LeadsBack (sysfsVnopLookup t g ⟨dir.nodeMntId, id, c⟩ (cstr "..")) dir :=
  ⟨_, lookup_dotdot hc, rfl, heq⟩

theorem NodeOk.nodeId_eq (hok : NodeOk t dir) (hdir : vnodeVtype t dir = .VDIR) :
    dir.nodeId =
      ⟨dir.nodeId.nodeidRegid, 0, (t.node dir.nodeStructureNode).ssnBaseNodeId⟩ := by
  rw [← hok.base, ← hok.objectid hdir]

variable (hok : NodeOk t dir) (hdir : vnodeVtype t dir = .VDIR)
  (hc : vnodeVtype t ⟨dir.nodeMntId, id, c⟩ = .VDIR)
include hok hdir hc

theorem leadsBack_static {g : GSnapshot}
    (hp : (t.node c).ssnParent = some dir.nodeStructureNode)
    (hmod : (t.node c).ssnNodeType ≠ .SFSmodule) (hreg : dir.nodeId.nodeidRegid = 0)
    (hid : id.nodeidRegid = 0 ∧ id.nodeidObjectid = 0) :
    LeadsBack (sysfsVnopLookup t g ⟨dir.nodeMntId, id, c⟩ (cstr "..")) dir := by
  apply leadsBack_of_eq hc
  rw [lookupDotDot_child rfl hp hmod hid.1 hid.2, hok.nodeId_eq hdir, hreg]

theorem leadsBack_module {g : GSnapshot} (hmd : sysfsIsModuleDir (t.node dir.nodeStructureNode))
    (hmod : t.childOfType dir.nodeStructureNode .SFSmodule = some c)
    (hobj : id.nodeidObjectid = sysfsModDirObjid) :
    LeadsBack (sysfsVnopLookup t g ⟨dir.nodeMntId, id, c⟩ (cstr "..")) dir := by
  have ⟨_, hp, htype⟩ := Tree.childOfType_spec hmod
  have hdirType : (t.node dir.nodeStructureNode).ssnNodeType = .SFSdir := by
    rw [sysfsIsModuleDir, decide_eq_true_eq] at hmd
    exact hmd.2
  have ⟨hreg, _⟩ := hok.static (by rw [hdirType]; rfl)
  apply leadsBack_of_eq hc
  rw [lookupDotDot_module htype hobj, Tree.parentOrSelf, hp, Option.getD_some,
    hok.nodeId_eq hdir, hreg]
  rfl

theorem leadsBack_device_iff (hb : Built es snap) {nm : CStr} {k : ℕ}
    (hdev : (t.node dir.nodeStructureNode).ssnNodeType = .SFSdevice)
    (hchild : sysfsIokitChildNamed (some snap) dir.nodeId.nodeidRegid nm k = some id.nodeidRegid)
    (hcd : c = dir.nodeStructureNode) :
    LeadsBack (sysfsVnopLookup t (some snap) ⟨dir.nodeMntId, id, c⟩ (cstr "..")) dir ↔
      ParentCaptured t snap ⟨dir.nodeMntId, id, c⟩ := by
  have ⟨p, j, hf, hj, hcj⟩ := hb.child_of_named hchild
  have ⟨hne, hfind, hiff⟩ := hb.child_parent hf hj
  rw [← hcj] at hne hfind
  subst hcd
  have hdd : lookupDotDot t (some snap) ⟨dir.nodeMntId, id, dir.nodeStructureNode⟩ =
      (⟨(snap.node (snap.childAt p j)).parentRegid, sysfsDevDirObjid,
        (t.node dir.nodeStructureNode).ssnBaseNodeId⟩, dir.nodeStructureNode) := by
    rw [lookupDotDot_device (n := ⟨dir.nodeMntId, id, dir.nodeStructureNode⟩) hdev hne]
    simp only [sysfsIokitParent, if_neg hne, hfind, Option.getD_some]
  constructor
  · intro ⟨r, hr, _, hrid⟩ _ i hi
    rw [lookup_dotdot hc, hdd, Except.ok.injEq] at hr
    cases hfind.symm.trans hi
    rw [← hiff]
    exact congrArg Sfsid.nodeidRegid ((congrArg Sfsnode.nodeId hr).trans hrid)
  · intro hcap
    apply leadsBack_of_eq hc
    rw [hdd, hiff.mpr (hcap hdev _ hfind), hok.nodeId_eq hdir]
    rfl

end Descent

theorem parentCaptured_of_zero {t : Tree} {es : List RegEntry} {snap : Snapshot} {n : Sfsnode}
    (hb : Built es snap) (h : n.nodeId.nodeidRegid = 0) : ParentCaptured t snap n := by
  -- the root of the snapshot is recorded, so a node without an id is no orphan
  intro _ i hi
  rw [h, hb.find_zero, Option.some_inj] at hi
  have hroot : (snap.node 0).parentRegid = 0 := by
    show (snap.node 0).core.parentRegid = 0
    rw [hb.node_core]
    rfl
  rw [← hi, hroot, hb.find_zero]
  rfl

theorem leadsBack_iff {t : Tree} (ht : TreeOk t) {es : List RegEntry} {snap : Snapshot}
    (hb : Built es snap) {dir c : Sfsnode} {nm : CStr} (hok : NodeOk t dir)
    (hdotdot : nm ≠ cstr "..") (hdot : nm ≠ cstr ".")
    (hl : sysfsVnopLookup t (some snap) dir nm = .ok c) (hc : vnodeVtype t c = .VDIR) :
    LeadsBack (sysfsVnopLookup t (some snap) c (cstr "..")) dir ↔ ParentCaptured t snap c := by
  have ⟨hdir, hlooked⟩ := lookup_spec hl
  have hobj := hok.objectid hdir
  cases hlooked with
  | dotdot heq => exact absurd heq hdotdot
  | dot heq => exact absurd heq hdot
  | found _ _ hfound =>
    cases hfound with
    | module hmd _ hmod =>
      refine iff_of_true (leadsBack_module hok hdir hc hmd hmod rfl) fun hdev => ?_
      cases (Tree.childOfType_spec hmod).2.2.symm.trans hdev
    | moduleAttr _ hmod hattr =>
      cases hc.symm.trans (vnodeVtype_module_attr hmod.1 (sysfsModAttrs_objid hattr))
    | classMember _ _ _ _ hlink =>
      cases hc.symm.trans (vnodeVtype_link (Tree.childOfType_spec hlink).2.2)
    | deviceStatic hdev hroot hchild =>
      have ⟨hlt, hp, _⟩ := Tree.childNamed_spec hchild
      have hmod : (t.node _).ssnNodeType ≠ .SFSmodule := fun hm => by
        cases ((ht.kind hlt hp).device_child hdev).symm.trans hm
      exact iff_of_true (leadsBack_static hok hdir hc hp hmod hroot.1 ⟨rfl, rfl⟩)
        (parentCaptured_of_zero hb rfl)
    | deviceAttr hdev _ hattr =>
      cases hc.symm.trans (vnodeVtype_device_attr hdev (sysfsDevAttrs_objid hattr))
    | deviceChild hdev hchild => exact leadsBack_device_iff hok hdir hc hb hdev hchild rfl
    | static hnodir hnomod _ hnodev hchild =>
      have ⟨hlt, hp, _⟩ := Tree.childNamed_spec hchild
      have hreg := hok.regid hdir hnodev fun hmt => hnomod ⟨hmt, decide_eq_true hobj⟩
      have hmod := fun hmt => hnodir ((ht.kind hlt hp).module_parent hmt)
      exact iff_of_true (leadsBack_static hok hdir hc hp hmod hreg ⟨hreg, hobj⟩)
        (parentCaptured_of_zero hb hreg)

/-- In every snapshot a build returns, with distinct ids and whatever is in the hash: `..` in a
directory that a lookup in a reachable directory has found leads back to it, exactly if the
directory is not that of an entry whose parent was not captured. -/
theorem dotdot_inverts_descent_iff {lastNodeCount : ℕ} {counted : Option (List RegEntry)}
    {inp : BuildInput} {snap : Snapshot}
    (h : (sysfsSnapBuild lastNodeCount counted inp).1 = some snap) {start : UInt16} {ncpu : UInt32}
    (hids : BaseIdsDistinct (builtTree start ncpu)) (mnt : Int32) {dir c : Sfsnode} {nm : CStr}
    {hash : NodeHash (builtTree start ncpu)}
    (hdir : ReachableIn (builtTree start ncpu) (some snap) mnt dir)
    (hdotdot : nm ≠ cstr "..") (hdot : nm ≠ cstr ".")
    (hl : lookupIn (builtTree start ncpu) (some snap) hash dir nm = .ok c)
    (hc : vnodeVtype (builtTree start ncpu) c = .VDIR) (hash' : NodeHash (builtTree start ncpu)) :
    LeadsBack (lookupIn (builtTree start ncpu) (some snap) hash' c (cstr "..")) dir ↔
      ParentCaptured (builtTree start ncpu) snap c := by
  obtain ⟨es, hb, -⟩ := sysfsSnapBuild_built h
  have ht := builtTree_treeOk start ncpu
  have hok : NodeOk (builtTree start ncpu) dir := hdir.nodeOk hids
  rw [lookupIn_eq hids ht hok] at hl
  rw [lookupIn_eq hids ht (lookup_nodeOk ht hok hl)]
  exact leadsBack_iff ht hb hok hdotdot hdot hl hc

theorem eq_ok_of_toOption {x : Except Errno Sfsnode} {n : Sfsnode} (h : x.toOption = some n) :
    x = .ok n := by
  cases x with
  | error e => cases h
  | ok a => exact congrArg Except.ok (Option.some_inj.mp h)

theorem exists_ok_of_any {α : Type} {x : Except Errno α} {f : α → Bool}
    (h : x.toOption.any f = true) : ∃ a, x = .ok a ∧ f a = true := by
  cases x with
  | error e => cases h
  | ok a => exact ⟨a, rfl, h⟩

/-- A table of 65 nodes gets a device whose first parent comes after it is full. -/
def lateParent : List RegEntry :=
  { regid := 1, name := some (cstr "disk"), parent := .entry 100 } ::
    (List.range 63).map (fun i => { regid := i.toUInt64 + 2, name := some (cstr "port") }) ++
    [{ regid := 100, name := some (cstr "hub") }]

/-- The disk is found under the devices root, and its `..` is not the devices root. -/
theorem orphan_does_not_lead_back :
    ∃ snap dir c r, (sysfsSnapBuild 0 none
        { yields := some lateParent, kexts := none, uptime := 0 }).1 = some snap ∧
      vnodeVtype (builtTree 2 1) c = .VDIR ∧ dir.nodeId.nodeidRegid = 0 ∧
      c.nodeId.nodeidRegid = 1 ∧ r.nodeId.nodeidRegid = 100 ∧
      (∀ hash, resolveFromRoot (builtTree 2 1) (some snap) hash 1 [cstr "devices"] = .ok dir) ∧
      ∀ hash, lookupIn (builtTree 2 1) (some snap) hash dir (cstr "disk") = .ok c ∧
        lookupIn (builtTree 2 1) (some snap) hash c (cstr "..") = .ok r := by
  have hsome : ((sysfsSnapBuild 0 none
      { yields := some lateParent, kexts := none, uptime := 0 }).1.any fun snap =>
        let t := builtTree 2 1
        (resolve t (some snap) (sysfsRoot 1) [cstr "devices"]).toOption.any fun dir =>
        (sysfsVnopLookup t (some snap) dir (cstr "disk")).toOption.any fun c =>
        (sysfsVnopLookup t (some snap) c (cstr "..")).toOption.any fun r =>
          vnodeVtype t c = .VDIR ∧ dir.nodeId.nodeidRegid = 0 ∧ c.nodeId.nodeidRegid = 1 ∧
            r.nodeId.nodeidRegid = 100) = true := by
    decide +kernel
  obtain ⟨snap, hsnap, hdirs⟩ := (Option.any_eq_true _ _).mp hsome
  obtain ⟨dir, hdir, hcs⟩ := (Option.any_eq_true _ _).mp hdirs
  obtain ⟨c, hc, hrs⟩ := (Option.any_eq_true _ _).mp hcs
  obtain ⟨r, hr, hall⟩ := (Option.any_eq_true _ _).mp hrs
  obtain ⟨hvdir, hdirId, hcId, hrId⟩ := of_decide_eq_true hall
  replace hdir := eq_ok_of_toOption hdir
  replace hc := eq_ok_of_toOption hc
  have hids := firstTree_ids 1
  have ht := builtTree_treeOk 2 1
  have hdirOk : NodeOk (builtTree 2 1) dir := Reachable.nodeOk ⟨_, hdir⟩
  refine ⟨snap, dir, c, r, hsnap, hvdir, hdirId, hcId, hrId, fun hash => ?_, fun hash => ⟨?_, ?_⟩⟩
  · rw [resolveFromRoot_eq hids, hdir]
  · rw [lookupIn_eq hids ht hdirOk, hc]
  · rw [lookupIn_eq hids ht (lookup_nodeOk ht hdirOk hc), eq_ok_of_toOption hr]

def hubAndDisk : List RegEntry :=
  [{ regid := 100, name := some (cstr "hub") },
    { regid := 1, name := some (cstr "disk"), parent := .entry 100 }]

theorem disk_leads_back :
    ∃ snap dir c, (sysfsSnapBuild 0 none
        { yields := some hubAndDisk, kexts := none, uptime := 0 }).1 = some snap ∧
      ∀ hash, lookupIn (builtTree 2 1) (some snap) hash dir (cstr "disk") = .ok c ∧
        LeadsBack (lookupIn (builtTree 2 1) (some snap) hash c (cstr "..")) dir := by
  have hsome : ((sysfsSnapBuild 0 none
      { yields := some hubAndDisk, kexts := none, uptime := 0 }).1.any fun snap =>
        let t := builtTree 2 1
        (resolve t (some snap) (sysfsRoot 1) [cstr "devices", cstr "hub"]).toOption.any fun dir =>
        (sysfsVnopLookup t (some snap) dir (cstr "disk")).toOption.any fun c =>
          vnodeVtype t c = .VDIR ∧
            sysfsHashFind (some snap) c.nodeId.nodeidRegid = some 2 ∧
            sysfsHashFind (some snap) (snap.node 2).parentRegid = some 1) = true := by
    decide +kernel
  obtain ⟨snap, hsnap, hdirs⟩ := (Option.any_eq_true _ _).mp hsome
  obtain ⟨dir, hdir, hcs⟩ := (Option.any_eq_true _ _).mp hdirs
  obtain ⟨c, hc, hall⟩ := (Option.any_eq_true _ _).mp hcs
  obtain ⟨hvdir, hfind, hparent⟩ := of_decide_eq_true hall
  have hids := firstTree_ids 1
  have hreach : Reachable (builtTree 2 1) (some snap) 1 dir := ⟨_, eq_ok_of_toOption hdir⟩
  refine ⟨snap, dir, c, hsnap, fun hash => ?_⟩
  have hl : lookupIn (builtTree 2 1) (some snap) hash dir (cstr "disk") = .ok c := by
    rw [lookupIn_eq hids (builtTree_treeOk 2 1) hreach.nodeOk, eq_ok_of_toOption hc]
  refine ⟨hl, ?_⟩
  apply (dotdot_inverts_descent_iff hsnap hids 1 ((reachableIn_iff hids).mpr hreach) (by decide)
    (by decide) hl hvdir hash).mpr
  intro _ i hi
  rw [hfind, Option.some_inj] at hi
  rw [← hi, hparent]
  rfl

end SysFS
