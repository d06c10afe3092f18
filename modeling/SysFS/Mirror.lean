import SysFS.DeviceNames
import SysFS.Read

namespace SysFS
open ByteMemory CString Forest Relation

/-- The entries of a service plane, as an iterator yields them in any order and with
repetitions. Every parent is an entry, and no entry is above itself. -/
structure ServicePlane (registry : List RegEntry) : Prop where
  nonzero : ∀ e ∈ registry, e.regid ≠ 0
  same : ∀ e ∈ registry, ∀ e' ∈ registry, e.regid = e'.regid → e = e'
  parents : ∀ e ∈ registry, ∀ p, e.parent = .entry p → ∃ e' ∈ registry, e'.regid = p
  acyclic : ∀ r, ¬TransGen (fun p c => ∃ e ∈ registry, e.regid = c ∧ e.parent = .entry p) r r

/-- A path that only goes down. -/
def Downward (names : List CStr) : Prop := ∀ nm ∈ names, nm ≠ cstr "." ∧ nm ≠ cstr ".."

def RegEntry.shownName (e : RegEntry) : CStr :=
  strlcpy (e.name.getD (cstr "unknown")) sysfsIokitNamemax

/-- The directories of the devices are the entries of the registry, with `hash` in the hash
during the lookups of a path and `now` during a single one. -/
structure Mirrors (t : Tree) (g : GSnapshot) (mnt : Int32) (hash : ℕ → NodeHash t)
    (now : NodeHash t) (registry : List RegEntry) : Prop where
  path : ∀ e ∈ registry, ∃! names, Downward names ∧
    resolveFromRoot t g hash mnt (cstr "devices" :: names) = .ok (deviceDir t mnt e.regid)
  only : ∀ names n, Downward names →
    resolveFromRoot t g hash mnt (cstr "devices" :: names) = .ok n →
    n.nodeStructureNode = devicesNode → vnodeVtype t n = .VDIR →
    n = deviceDir t mnt 0 ∨ ∃ e ∈ registry, n = deviceDir t mnt e.regid
  below : ∀ e ∈ registry, ∃ nm, nm ≠ cstr "." ∧ nm ≠ cstr ".." ∧
    lookupIn t g now (deviceDir t mnt e.parentRegid) nm = .ok (deviceDir t mnt e.regid)
  above : ∀ e ∈ registry,
    lookupIn t g now (deviceDir t mnt e.regid) (cstr "..") = .ok (deviceDir t mnt e.parentRegid)
  name : ∀ e ∈ registry, ∃ file,
    lookupIn t g now (deviceDir t mnt e.regid) (cstr "name") = .ok file ∧
      ∀ readDataFn, Renders (sysfsVnopRead readDataFn t g file) (e.shownName ++ cstr "\n")

namespace Built
variable {es : List RegEntry} {snap : Snapshot} (hb : Built es snap)
include hb

/-- The child that `sysfs_iokit_child_named` finds has the name that was looked for. -/
theorem childNamed_display {regid c : UInt64} {nm : CStr}
    (hc : sysfsIokitChildNamed (some snap) regid (lookupName nm) nm.length = some c) :
    ∃ p j, sysfsHashFind (some snap) regid = some p ∧ j < (snap.node p).numChildren ∧
      c = snap.childRegid p j ∧ nm = snap.childDisplay p j := by
  have hfrom : ∀ p n i, p < snap.nodeCount →
      childNamedFrom snap p (lookupName nm) nm.length n i = some c →
      ∃ j < (snap.node p).numChildren, c = snap.childRegid p j ∧ nm = snap.childDisplay p j := by
    intro p n
    induction n with
    | zero =>
      intro i _ hn
      cases hn
    | succ n ih =>
      intro i hp hn
      rw [childNamedFrom, hb.sysfsChildDisplay_eq hp (by decide)] at hn
      by_cases hi : i < (snap.node p).numChildren
      · rw [if_pos hi] at hn
        dsimp only at hn
        split at hn
        · next hsame =>
          refine ⟨i, hi, (Option.some_inj.mp hn).symm, ?_⟩
          -- the display name is short, so the name was not cut
          have hlen : (snap.childDisplay p i).length = nm.length :=
            (of_decide_eq_true hsame).1
          have hshort := hb.childDisplay_length hi
          have hle : nm.length ≤ nameMax := by
            rw [nameMax]
            omega
          rw [lookupName_of_le hle] at hsame
          exact (sameName_iff.mp hsame).symm
        · exact ih (i + 1) hp hn
      · rw [if_neg hi] at hn
        cases hn
  cases hf : sysfsHashFind (some snap) regid with
  | none =>
    simp only [sysfsIokitChildNamed, hf] at hc
    cases hc
  | some p =>
    simp only [sysfsIokitChildNamed, hf] at hc
    obtain ⟨j, hj, hcj⟩ := hfrom p _ 0 (hb.find_lt hf).1 hc
    exact ⟨p, j, rfl, hj, hcj⟩

end Built

section Paths
variable (start : UInt16) (ncpu : UInt32) {es : List RegEntry} {snap : Snapshot}
  (hb : Built es snap)
include hb

def pathNames (snap : Snapshot) (l : List ℕ) : List CStr := l.dropLast.reverse.map snap.pathName

omit hb in
theorem pathNames_step {l : List ℕ} {p : ℕ} (hl : PathTo snap.child 0 l p) (c : ℕ) :
    pathNames snap (c :: l) = pathNames snap l ++ [snap.pathName c] := by
  have hne : l ≠ [] := by
    cases hl <;> simp
  rw [pathNames, List.dropLast_cons_of_ne_nil hne, List.reverse_cons, List.map_append]
  rfl

theorem device_lookup_name (mnt : Int32) {nm : CStr} (hdot : nm ≠ cstr ".")
    (hdotdot : nm ≠ cstr "..") {p c : ℕ} (hp : p < snap.nodeCount) (hc : c < snap.nodeCount)
    (hl : sysfsVnopLookup (builtTree start ncpu) (some snap)
      (deviceDir (builtTree start ncpu) mnt (snap.node p).regid) nm =
        .ok (deviceDir (builtTree start ncpu) mnt (snap.node c).regid)) :
    nm = snap.pathName c := by
  have hdev := (devicesNode_facts start ncpu).2.2.1
  obtain ⟨-, hm⟩ := lookup_spec hl
  generalize htarget : deviceDir (builtTree start ncpu) mnt (snap.node c).regid = m at hm
  cases hm with
  | dotdot heq => exact absurd heq hdotdot
  | dot heq => exact absurd heq hdot
  | @found id snode _ _ hfound =>
    have hsnode : devicesNode = snode := congrArg Sfsnode.nodeStructureNode htarget
    have hobj : id.nodeidObjectid = sysfsDevDirObjid :=
      (congrArg (fun n => n.nodeId.nodeidObjectid) htarget).symm
    have hregid : (snap.node c).regid = id.nodeidRegid :=
      congrArg (fun n => n.nodeId.nodeidRegid) htarget
    cases hfound with
    | module hdir => cases hdev.symm.trans (sysfsIsModuleDir_type hdir)
    | moduleAttr _ hmod => cases hdev.symm.trans hmod.1
    | classMember _ _ hclass => cases hdev.symm.trans (sysfsIsClassDir_type hclass)
    | static _ _ _ hnodev => exact absurd hdev hnodev
    | deviceStatic _ _ hfind =>
      have hbefore := builtTree_parentsBefore start ncpu _ _ (Tree.childNamed_spec hfind).2.1
      exact absurd hbefore (hsnode ▸ Nat.lt_irrefl _)
    | deviceAttr _ _ hattr => exact absurd hobj (sysfsDevAttrs_objid hattr)
    | deviceChild _ hchild =>
      obtain ⟨q, j, hq, hj, hcj, hnm⟩ := hb.childNamed_display hchild
      cases (hb.find_node hp).symm.trans hq
      have hat : c = snap.childAt p j :=
        hb.regid_inj hc (hb.childAt_mem hj).2 (hregid.trans hcj)
      rw [hnm, hat, hb.pathName_childAt hj]

/-- A path down from the directory of an entry ends further down the structure, at an
attribute file, or in the directory of an entry whose names are the path. -/
theorem resolve_downward (mnt : Int32) {names : List CStr} (hnames : Downward names)
    {l : List ℕ} {p : ℕ} (hl : PathTo snap.child 0 l p) (hp : p < snap.nodeCount) {n : Sfsnode}
    (hr : resolve (builtTree start ncpu) (some snap)
      (deviceDir (builtTree start ncpu) mnt (snap.node p).regid) names = .ok n) :
    devicesNode < n.nodeStructureNode ∨
      n.nodeStructureNode = devicesNode ∧ n.nodeId.nodeidObjectid ≠ 0 ∨
      ∃ i l', i < snap.nodeCount ∧ PathTo snap.child 0 l' i ∧
        pathNames snap l' = pathNames snap l ++ names ∧
        n = deviceDir (builtTree start ncpu) mnt (snap.node i).regid := by
  have hdev := (devicesNode_facts start ncpu).2.2.1
  induction names generalizing l p with
  | nil =>
    rw [List.append_nil]
    exact .inr (.inr ⟨p, l, hp, hl, rfl, (Except.ok.inj hr).symm⟩)
  | cons nm names ih =>
    obtain ⟨⟨hdot, hdotdot⟩, hrest⟩ := List.forall_mem_cons.mp hnames
    rw [resolve] at hr
    cases hlook : sysfsVnopLookup (builtTree start ncpu) (some snap)
        (deviceDir (builtTree start ncpu) mnt (snap.node p).regid) nm with
    | error e =>
      rw [hlook] at hr
      cases hr
    | ok m =>
      rw [hlook] at hr
      have hgo : resolve (builtTree start ncpu) (some snap) m names = .ok n := hr
      obtain hdown | ⟨hsnode, hobj⟩ | ⟨c, hc, hlt, rfl⟩ :=
        device_lookup start ncpu hb mnt hdot hdotdot hp hlook
      · have hup : cstr ".." ∉ names := fun hmem => (hrest _ hmem).2 rfl
        exact .inl (hdown.trans_le (resolve_snode_le (builtTree_treeOk start ncpu) hup hgo))
      · rw [resolve_device_attr (hsnode ▸ hdev) hobj hgo]
        exact .inr (.inl ⟨hsnode, hobj⟩)
      · have hnm := device_lookup_name start ncpu hb mnt hdot hdotdot hp hlt hlook
        have hstep : pathNames snap (c :: l) ++ names = pathNames snap l ++ nm :: names := by
          rw [pathNames_step hl, ← hnm, List.append_assoc]
          rfl
        rw [← hstep]
        exact ih hrest (.step hl hc) hlt hgo

end Paths

structure NodeOf (snap : Snapshot) (i : ℕ) (e : RegEntry) : Prop where
  regid : (snap.node i).regid = e.regid
  parentRegid : (snap.node i).parentRegid = e.parentRegid
  name : (snap.node i).name = e.shownName

/-- The snapshot is a tree of all entries of the registry. -/
structure Captured (registry : List RegEntry) (snap : Snapshot) : Prop where
  produced : Produced snap
  listed : ChildrenListed snap
  tree : IsTree snap
  entry : ∀ e ∈ registry, ∃ i, 0 < i ∧ i < snap.nodeCount ∧ NodeOf snap i e
  only : ∀ i, 0 < i → i < snap.nodeCount → ∃ e ∈ registry, NodeOf snap i e

theorem Built.nodeOf {es : List RegEntry} {snap : Snapshot} (hb : Built es snap) {i : ℕ}
    (hpos : 0 < i) (hi : i < snap.nodeCount) : ∃ e ∈ es, NodeOf snap i e := by
  obtain ⟨j, rfl⟩ : ∃ j, i = j + 1 := ⟨i - 1, by omega⟩
  have hlen := congrArg List.length hb.entries
  rw [List.length_map, List.length_cons, List.length_map] at hlen
  have hlt : j < es.length := by
    rw [Snapshot.nodeCount] at hi
    omega
  have hcore := hb.node_core (j + 1)
  rw [List.getD_cons_succ, List.getD_eq_getElem _ _ (by rwa [List.length_map]),
    List.getElem_map] at hcore
  refine ⟨es[j], List.getElem_mem hlt, ?_, ?_, ?_⟩
  · rw [← snapNode_regid, ← hcore]
    rfl
  · rw [← snapNode_parentRegid, ← hcore]
    rfl
  · rw [RegEntry.shownName, ← snapNode_name, ← hcore]
    rfl

theorem captured_of_room {lastNodeCount : ℕ} {counted : Option (List RegEntry)} {inp : BuildInput}
    {snap : Snapshot} {registry : List RegEntry} (hplane : ServicePlane registry)
    (hyields : inp.yields = some registry) (halloc : inp.allocs = {})
    (h : (sysfsSnapBuild lastNodeCount counted inp).1 = some snap)
    (hroom : snap.nodeCount < buildCap
      (if lastNodeCount ≠ 0 then lastNodeCount else sysfsCountEntries counted)) :
    Captured registry snap := by
  have hproduced : Produced snap := ⟨_, _, _, h⟩
  have hpos := buildCap_pos (if lastNodeCount ≠ 0 then lastNodeCount else sysfsCountEntries counted)
  have hcap := buildCap_le (if lastNodeCount ≠ 0 then lastNodeCount else sysfsCountEntries counted)
  rw [sysfsSnapBuild, if_neg (by simp [halloc])] at h
  dsimp only at h
  generalize buildCap (if lastNodeCount ≠ 0 then lastNodeCount else sysfsCountEntries counted) =
    cap at h hroom hpos hcap
  have hlist : ChildrenListed snap := by
    obtain ⟨es, hrec, -⟩ := snapWalk_spec hpos hcap inp.yields
    rw [snapBuildSized, halloc] at h
    exact fun p hp => hrec.snapFinish_children (by rw [halloc]) (by rw [halloc]) h hp
  obtain ⟨es, hb, hsub, hall⟩ := snapBuildSized_built hpos hcap h
  rw [hyields, Option.getD_some] at hsub hall
  have hall := hall.resolve_left (Nat.not_le.mpr hroom)
  have honplane : ∀ e ∈ es,
      OnPlane (fun p c => ∃ e ∈ registry, e.regid = c ∧ e.parent = .entry p) e :=
    fun e he p hp => ⟨e, hsub.subset he, rfl, hp⟩
  refine ⟨hproduced, hlist, hb.isTree hlist hplane.acyclic honplane, fun e he => ?_, ?_⟩
  · obtain ⟨e', he', hid⟩ := hall e he (hplane.nonzero e he)
    have hmem : e.regid ∈ snap.nodes.map SnapNode.regid := by
      rw [hb.regids, ← hid]
      exact List.mem_cons_of_mem _ (List.mem_map_of_mem he')
    obtain ⟨nd, hnd, hregid⟩ := List.mem_map.mp hmem
    obtain ⟨i, hi, hget⟩ := List.getElem_of_mem hnd
    have hnode : (snap.node i).regid = e.regid := by
      rw [Snapshot.node, List.getD_eq_getElem _ _ hi, hget, hregid]
    have hne : i ≠ 0 := by
      rintro rfl
      rw [(hb.find_lt hb.find_zero).2] at hnode
      exact hplane.nonzero e he hnode.symm
    have hipos : 0 < i := Nat.pos_of_ne_zero hne
    obtain ⟨e₁, he₁, hof⟩ := hb.nodeOf hipos hi
    have heq : e₁ = e :=
      hplane.same e₁ (hsub.subset he₁) e he (hof.regid.symm.trans hnode)
    exact ⟨i, hipos, hi, heq ▸ hof⟩
  · intro i hipos hi
    obtain ⟨e, he, hof⟩ := hb.nodeOf hipos hi
    exact ⟨e, hsub.subset he, hof⟩

section Mirror
variable (start : UInt16) (ncpu : UInt32) {registry : List RegEntry} {snap : Snapshot}
  (hcap : Captured registry snap) (hnames : PlainNames snap) (mnt : Int32)
include hcap

theorem Captured.parent (hplane : ServicePlane registry) {i : ℕ} {e : RegEntry} (he : e ∈ registry)
    (hpos : 0 < i) (hi : i < snap.nodeCount) (hof : NodeOf snap i e) :
    snap.child (parentIdx snap i) i ∧ parentIdx snap i < snap.nodeCount ∧
      (snap.node (parentIdx snap i)).regid = e.parentRegid := by
  obtain ⟨es, hb⟩ := hcap.produced.built
  have hlt := hb.parentIdx_lt i
  refine ⟨(child_iff hcap.listed).mpr ⟨hlt, hpos, hi, rfl⟩, hlt, ?_⟩
  have hfound : ∃ p, sysfsHashFind (some snap) e.parentRegid = some p := by
    by_cases hzero : e.parentRegid = 0
    · rw [hzero]
      exact ⟨0, hb.find_zero⟩
    · obtain ⟨e', he', hid⟩ := hplane.parents e he _ (RegEntry.parent_eq_entry hzero)
      obtain ⟨j, -, hj, hof'⟩ := hcap.entry e' he'
      exact ⟨j, by rw [← hid, ← hof'.regid, hb.find_node hj]⟩
  obtain ⟨p, hp⟩ := hfound
  rw [parentIdx, hof.parentRegid, hp]
  exact (hb.find_lt hp).2

omit hcap in
theorem resolve_devices (g : GSnapshot) (names : List CStr) :
    resolve (builtTree start ncpu) g (sysfsRoot mnt) (cstr "devices" :: names) =
      resolve (builtTree start ncpu) g (deviceDir (builtTree start ncpu) mnt 0) names := by
  have hroot : sysfsRoot mnt = staticNode (builtTree start ncpu) mnt 0 := by
    rw [staticNode, builtTree_root_id]
    rfl
  rw [resolve, hroot, lookup_devices]
  rfl

theorem Captured.nameFile {i : ℕ} {e : RegEntry} (hi : i < snap.nodeCount)
    (hne : e.regid ≠ 0) (hof : NodeOf snap i e) : ∃ file,
    sysfsVnopLookup (builtTree start ncpu) (some snap)
        (deviceDir (builtTree start ncpu) mnt e.regid) (cstr "name") = .ok file ∧
      ∀ readDataFn, Renders (sysfsVnopRead readDataFn (builtTree start ncpu) (some snap) file)
        (e.shownName ++ cstr "\n") := by
  obtain ⟨es, hb⟩ := hcap.produced.built
  have hg : ∀ s ∈ some snap, Produced s := fun s hs => Option.some_inj.mp hs ▸ hcap.produced
  refine ⟨⟨mnt, ⟨e.regid, sysfsDevAttrName, ((builtTree start ncpu).node
    devicesNode).ssnBaseNodeId⟩, devicesNode⟩, ?_, fun readDataFn => ?_⟩
  · have hattr : findTarget (attrTargets (builtTree start ncpu)
        (deviceDir (builtTree start ncpu) mnt e.regid) sysfsDevAttrs) (cstr "name") =
        some (⟨e.regid, sysfsDevAttrName, ((builtTree start ncpu).node
          devicesNode).ssnBaseNodeId⟩, devicesNode) := rfl
    rw [lookup_eq_match (deviceDir_vtype start ncpu mnt _) (by decide) (by decide) (by decide)
      (by decide), lookupMatch_eq hg _ rfl, dirTargets_deviceDir, if_pos (by exact hne),
      findTarget_append, hattr]
    rfl
  · have htext : deviceNameText (some snap) e.regid = e.shownName ++ cstr "\n" := by
      have hlen : (snap.node i).name.length < sysfsIokitNamemax := hb.name_length i
      have hfind : sysfsHashFind (some snap) e.regid = some i := by
        rw [← hof.regid, hb.find_node hi]
      have hfits : (snap.node i).name.length < sysfsAttrValueMax - 1 :=
        hlen.trans_le (by decide)
      simp only [deviceNameText, hfind]
      rw [strlcpy_of_fits hfits, hof.name]
    rw [← htext]
    exact (FileContent.device (devicesNode_facts start ncpu).2.2.1 rfl).renders

theorem Captured.onlyEntries {names : List CStr} (hdown : Downward names) {n : Sfsnode}
    (hres : resolve (builtTree start ncpu) (some snap) (sysfsRoot mnt)
      (cstr "devices" :: names) = .ok n)
    (hsnode : n.nodeStructureNode = devicesNode)
    (hdir : vnodeVtype (builtTree start ncpu) n = .VDIR) :
    n = deviceDir (builtTree start ncpu) mnt 0 ∨
      ∃ e ∈ registry, n = deviceDir (builtTree start ncpu) mnt e.regid := by
  obtain ⟨es, hb⟩ := hcap.produced.built
  have hroot := hb.find_lt hb.find_zero
  have hdev := (devicesNode_facts start ncpu).2.2.1
  rw [resolve_devices, ← hroot.2] at hres
  obtain hlt | ⟨-, hobj⟩ | ⟨j, -, hj, -, -, rfl⟩ :=
    resolve_downward start ncpu hb mnt hdown .root hroot.1 hres
  · rw [hsnode] at hlt
    exact absurd hlt (Nat.lt_irrefl _)
  · rw [vnodeVtype_device_attr (by rw [hsnode, hdev]) hobj] at hdir
    cases hdir
  · by_cases hzero : j = 0
    · left
      rw [hzero, hroot.2]
    · right
      obtain ⟨e, he, hof⟩ := hcap.only j (Nat.pos_of_ne_zero hzero) hj
      exact ⟨e, he, by rw [hof.regid]⟩

include hnames

omit hcap in
theorem pathNames_downward (hlist : ChildrenListed snap) {l : List ℕ} {i : ℕ}
    (hl : PathTo snap.child 0 l i) : Downward (pathNames snap l) := by
  induction hl with
  | root =>
    intro nm hnm
    cases hnm
  | step hp hc ih =>
    rw [pathNames_step hp]
    intro nm hnm
    rcases List.mem_append.mp hnm with hup | hlast
    · exact ih nm hup
    · rw [List.mem_singleton.mp hlast]
      obtain ⟨-, hpos, hlt, -⟩ := (child_iff hlist).mp hc
      have hnot := (hnames.plain _ hpos hlt).2.2
      simp only [List.mem_cons, List.not_mem_nil, or_false, not_or] at hnot
      exact ⟨hnot.1, hnot.2.1⟩

theorem Captured.path {i : ℕ} (hi : i < snap.nodeCount) : ∃! names, Downward names ∧
    resolve (builtTree start ncpu) (some snap) (sysfsRoot mnt) (cstr "devices" :: names) =
      .ok (deviceDir (builtTree start ncpu) mnt (snap.node i).regid) := by
  obtain ⟨es, hb⟩ := hcap.produced.built
  obtain ⟨l, hl, hunique⟩ := hcap.tree.path i hi
  have hroot := hb.find_lt hb.find_zero
  refine ⟨pathNames snap l, ⟨pathNames_downward hnames hcap.listed hl, ?_⟩, ?_⟩
  · rw [resolve_devices]
    exact (resolve_path start ncpu hcap.produced hnames mnt hl).2
  · rintro names ⟨hdown, hres⟩
    rw [resolve_devices, ← hroot.2] at hres
    obtain hlt | ⟨-, hobj⟩ | ⟨j, l', hj, hl', hnames', heq⟩ :=
      resolve_downward start ncpu hb mnt hdown .root hroot.1 hres
    · exact absurd hlt (Nat.lt_irrefl _)
    · exact absurd rfl hobj
    · have hij : i = j := hb.regid_inj hi hj
        (congrArg (fun n => n.nodeId.nodeidRegid) heq)
      subst hij
      rw [hunique l' hl'] at hnames'
      exact hnames'.symm

end Mirror

theorem nodeOk_deviceDir (start : UInt16) (ncpu : UInt32) (mnt : Int32) (regid : UInt64) :
    NodeOk (builtTree start ncpu) (deviceDir (builtTree start ncpu) mnt regid) := by
  obtain ⟨hlt, -, htype, -⟩ := devicesNode_facts start ncpu
  refine ⟨hlt, rfl, fun hstatic => ?_⟩
  rw [deviceDir] at hstatic
  dsimp only at hstatic
  rw [htype] at hstatic
  cases hstatic

/-- When a build captures the whole service plane without a failed allocation and its names
are plain, with distinct ids and whatever is in the hash, `/sys/devices` mirrors it: every entry
has one directory on one path, in the directory of its parent and with `..` leading back there,
its file `name` reads as its name, and there are no other directories of devices. -/
theorem devices_mirror_registry {lastNodeCount : ℕ} {counted : Option (List RegEntry)}
    {inp : BuildInput} {snap : Snapshot} {registry : List RegEntry}
    (hplane : ServicePlane registry) (hyields : inp.yields = some registry)
    (halloc : inp.allocs = {}) (h : (sysfsSnapBuild lastNodeCount counted inp).1 = some snap)
    (hroom : snap.nodeCount < buildCap
      (if lastNodeCount ≠ 0 then lastNodeCount else sysfsCountEntries counted))
    (hnames : PlainNames snap) {start : UInt16} {ncpu : UInt32}
    (hids : BaseIdsDistinct (builtTree start ncpu)) (mnt : Int32)
    (hash : ℕ → NodeHash (builtTree start ncpu)) (now : NodeHash (builtTree start ncpu)) :
    Mirrors (builtTree start ncpu) (some snap) mnt hash now registry := by
  have hlookup := fun regid => lookupIn_eq hids (builtTree_treeOk start ncpu)
    (nodeOk_deviceDir start ncpu mnt regid) (some snap) now
  have hcap := captured_of_room hplane hyields halloc h hroom
  obtain ⟨es, hb⟩ := hcap.produced.built
  refine ⟨fun e he => ?_, ?_, fun e he => ?_, fun e he => ?_, fun e he => ?_⟩
  · obtain ⟨i, -, hi, hof⟩ := hcap.entry e he
    rw [← hof.regid]
    simp only [resolveFromRoot_eq hids]
    exact hcap.path start ncpu hnames mnt hi
  · intro names n hdown hres hsnode hdir
    rw [resolveFromRoot_eq hids] at hres
    exact hcap.onlyEntries start ncpu mnt hdown hres hsnode hdir
  · obtain ⟨i, hpos, hi, hof⟩ := hcap.entry e he
    obtain ⟨hchild, hlt, hregid⟩ := hcap.parent hplane he hpos hi hof
    have hnot := (hnames.plain i hpos hi).2.2
    simp only [List.mem_cons, List.not_mem_nil, or_false, not_or] at hnot
    have hlook := lookup_child start ncpu hcap.produced hnames mnt hlt hchild
    rw [hregid, hof.regid] at hlook
    refine ⟨snap.pathName i, hnot.1, hnot.2.1, ?_⟩
    rw [hlookup, hlook]
  · obtain ⟨i, hpos, hi, hof⟩ := hcap.entry e he
    have hfind : sysfsHashFind (some snap) e.regid = some i := by
      rw [← hof.regid, hb.find_node hi]
    have hne := hplane.nonzero e he
    rw [hlookup, lookup_dotdot (deviceDir_vtype start ncpu mnt _),
      lookupDotDot_device (devicesNode_facts start ncpu).2.2.1 hne]
    have hparent : sysfsIokitParent (some snap) e.regid = some e.parentRegid := by
      simp only [sysfsIokitParent, if_neg hne, hfind, hof.parentRegid]
    show Except.ok (⟨mnt, ⟨(sysfsIokitParent (some snap) e.regid).getD 0, _, _⟩, _⟩ : Sfsnode) = _
    rw [hparent]
    rfl
  · obtain ⟨i, -, hi, hof⟩ := hcap.entry e he
    simp only [hlookup]
    exact hcap.nameFile start ncpu mnt hi (hplane.nonzero e he) hof

theorem chain_servicePlane : ServicePlane (deepChain 2) := by
  have hall : ∀ e ∈ deepChain 2, e.parent = .registryRoot ∨
      (e.parent = .entry 1 ∧ 1 < e.regid) := by decide
  refine ⟨by decide, by decide, fun e he p hp => ?_, fun r hcycle => ?_⟩
  · rcases hall e he with h | ⟨h, -⟩
    · cases h.symm.trans hp
    · cases h.symm.trans hp
      exact ⟨(deepChain 2).head (by decide), by decide, by decide⟩
  · have hlt : ∀ p c, (∃ e ∈ deepChain 2, e.regid = c ∧ e.parent = .entry p) → p < c := by
      rintro p c ⟨e, he, rfl, hp⟩
      rcases hall e he with h | ⟨h, hlt⟩
      · cases h.symm.trans hp
      · cases h.symm.trans hp
        exact hlt
    have hself : TransGen (fun p c : UInt64 => p < c) r r := TransGen.mono hlt r r hcycle
    rw [transGen_eq_self] at hself
    exact UInt64.lt_irrefl r hself

/-- A chain of two entries of one name is mirrored. -/
theorem chain_mirrored :
    ∃ snap, chainSnapshot 2 = some snap ∧
      ∀ hash now, Mirrors (builtTree 2 1) (some snap) 1 hash now (deepChain 2) := by
  have hrun : ((chainSnapshot 2).any fun snap => isChain 2 snap) = true := by decide +kernel
  obtain ⟨snap, hsnap, hchain⟩ := (Option.any_eq_true _ _).mp hrun
  have hroom : snap.nodeCount < buildCap (if (0 : ℕ) ≠ 0 then 0
      else sysfsCountEntries (some (deepChain 2))) := by
    rw [isChain, decide_eq_true_eq] at hchain
    rw [hchain.1]
    decide
  refine ⟨snap, hsnap, fun hash now => ?_⟩
  exact devices_mirror_registry chain_servicePlane rfl rfl hsnap hroom
    (plainNames_of_isChain hchain) (firstTree_ids 1) 1 hash now

end SysFS
