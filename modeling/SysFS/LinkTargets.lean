import SysFS.EntryLookup
import SysFS.Readlink
import SysFS.SnapTree

namespace SysFS
open CString Forest

def joined (names : List CStr) : CStr := List.intercalate [47] names

theorem joined_singleton (nm : CStr) : joined [nm] = nm := List.intercalate_singleton

theorem joined_cons {names : List CStr} (nm : CStr) (h : names ≠ []) :
    joined (nm :: names) = nm ++ [47] ++ joined names := by
  cases names with
  | nil => exact absurd rfl h
  | cons nm' names => exact List.intercalate_cons_cons

theorem joined_ne_nil {names : List CStr} (h : names ≠ []) (hplain : ∀ nm ∈ names, nm ≠ []) :
    joined names ≠ [] := by
  cases names with
  | nil => exact absurd rfl h
  | cons nm names =>
    have hnm := hplain nm List.mem_cons_self
    cases names with
    | nil => rwa [joined_singleton]
    | cons nm' names =>
      rw [joined_cons nm (by simp)]
      simp

/-- The target of a link `depth` levels below the root to the entry with these names. -/
def targetText (depth : ℕ) (names : List CStr) : CStr :=
  (List.replicate depth (cstr "../")).flatten ++ cstr "devices/" ++ joined names

theorem targetText_eq (depth : ℕ) {names : List CStr} (h : names ≠ []) :
    targetText depth names =
      joined (List.replicate depth (cstr "..") ++ cstr "devices" :: names) := by
  induction depth with
  | zero =>
    rw [List.replicate_zero, List.nil_append, joined_cons _ h]
    rfl
  | succ depth ih =>
    rw [List.replicate_succ, List.cons_append, joined_cons _ (by simp), ← ih, targetText,
      targetText, List.replicate_succ]
    simp only [List.flatten_cons, List.append_assoc]
    rfl

theorem pathComponents_joined {names : List CStr} (h : names ≠ [])
    (hplain : ∀ nm ∈ names, nm ≠ [] ∧ 47 ∉ nm) : pathComponents (joined names) = names := by
  rw [pathComponents, joined, List.splitOn_intercalate 47 (fun nm hnm => (hplain nm hnm).2) h,
    List.filter_eq_self]
  intro nm hnm
  exact decide_eq_true (hplain nm hnm).1

theorem mem_pathComponents {path cn : CStr} (h : cn ∈ pathComponents path) : cn ≠ [] ∧ 47 ∉ cn := by
  have ⟨hsplit, hne⟩ := List.mem_filter.mp h
  refine ⟨of_decide_eq_true hne, ?_⟩
  clear h hne
  induction path generalizing cn with
  | nil =>
    rw [List.splitOn_nil, List.mem_singleton] at hsplit
    rw [hsplit]
    exact List.not_mem_nil
  | cons b path ih =>
    rw [List.splitOn_cons_eq_if_modifyHead] at hsplit
    split at hsplit
    · rcases List.mem_cons.mp hsplit with heq | hrest
      · rw [heq]
        exact List.not_mem_nil
      · exact ih hrest
    · next hb =>
      -- the byte belongs to the first component of the rest
      cases hparts : path.splitOn 47 with
      | nil =>
        rw [hparts] at hsplit
        cases hsplit
      | cons part parts =>
        rw [hparts, List.modifyHead_cons] at hsplit
        rcases List.mem_cons.mp hsplit with heq | hrest
        · have hpart := ih (hparts ▸ List.mem_cons_self)
          rw [heq, List.mem_cons, not_or]
          exact ⟨fun h47 => hb (by simp [← h47]), hpart⟩
        · exact ih (hparts ▸ List.mem_cons_of_mem part hrest)

theorem pathComponents_targetText (depth : ℕ) {names : List CStr} (h : names ≠ [])
    (hplain : ∀ nm ∈ names, nm ≠ [] ∧ 47 ∉ nm) :
    pathComponents (targetText depth names) =
      List.replicate depth (cstr "..") ++ cstr "devices" :: names := by
  rw [targetText_eq depth h]
  apply pathComponents_joined (by simp)
  intro nm hnm
  rcases List.mem_append.mp hnm with hup | hdown
  · rw [List.eq_of_mem_replicate hup]
    decide
  · rcases List.mem_cons.mp hdown with heq | hmem
    · rw [heq]
      decide
    · exact hplain nm hmem

/-- What `sysfs_iokit_path` has written after more names. -/
def joinedFrom : CStr → List CStr → CStr
  | buf, [] => buf
  | buf, nm :: names => joinedFrom (buf ++ ((if buf.length = 0 then [] else [47]) ++ nm)) names

theorem length_le_joinedFrom (buf : CStr) (names : List CStr) :
    buf.length ≤ (joinedFrom buf names).length := by
  induction names generalizing buf with
  | nil => exact le_refl _
  | cons nm names ih =>
    refine le_trans ?_ (ih _)
    rw [List.length_append]
    omega

theorem joinedFrom_eq {buf : CStr} (h : buf ≠ []) (names : List CStr) :
    joinedFrom buf names = joined (buf :: names) := by
  induction names generalizing buf with
  | nil => exact (joined_singleton buf).symm
  | cons nm names ih =>
    have hlen : buf.length ≠ 0 := fun h0 => h (List.length_eq_zero_iff.mp h0)
    rw [joinedFrom, if_neg hlen, ih (by simp [h]), joined_cons buf (by simp)]
    cases names with
    | nil =>
      rw [joined_singleton, joined_singleton]
      simp
    | cons nm' names =>
      rw [joined_cons _ (by simp), joined_cons nm (by simp)]
      simp

theorem joinedFrom_nil {names : List CStr} (h : ∀ nm ∈ names, nm ≠ []) :
    joinedFrom [] names = joined names := by
  cases names with
  | nil => rfl
  | cons nm names =>
    rw [joinedFrom]
    exact joinedFrom_eq (h nm List.mem_cons_self) names

theorem pathFrom_eq {snap : Snapshot} {buflen : ℕ} {l : List ℕ} {buf : CStr}
    (hplain : ∀ i ∈ l, snap.pathName i ≠ []) (hbuf : buf.length < buflen) :
    pathFrom snap buflen l buf =
      if (joinedFrom buf (l.map snap.pathName)).length < buflen
        then joinedFrom buf (l.map snap.pathName) else [] := by
  induction l generalizing buf with
  | nil =>
    rw [pathFrom, List.map_nil, joinedFrom, if_pos hbuf]
  | cons i l ih =>
    have hne : ((if buf.length = 0 then [] else [47]) ++ snap.pathName i).length ≠ 0 := by
      have hname := List.length_pos_iff.mpr (hplain i List.mem_cons_self)
      rw [List.length_append]
      omega
    rw [pathFrom, List.map_cons, joinedFrom]
    generalize (if buf.length = 0 then [] else [47]) ++ snap.pathName i = s at hne ⊢
    by_cases hfits : buf.length + s.length < buflen
    · rw [if_neg (by omega)]
      apply ih (fun j hj => hplain j (List.mem_cons_of_mem _ hj))
      rwa [List.length_append]
    · have hlong := length_le_joinedFrom (buf ++ s) (l.map snap.pathName)
      rw [List.length_append] at hlong
      rw [if_pos (by omega), if_neg (by omega)]

theorem climbFrom_spec (buflen n : ℕ) (buf : CStr) :
    (climbFrom buflen n buf).length ≤
        (buf ++ (List.replicate n (cstr "../")).flatten).length ∧
      (climbFrom buflen n buf = buf ++ (List.replicate n (cstr "../")).flatten ∨
        buflen ≤ (climbFrom buflen n buf).length) := by
  induction n generalizing buf with
  | zero => exact ⟨by simp [climbFrom], Or.inl (by simp [climbFrom])⟩
  | succ n ih =>
    rw [climbFrom]
    split
    · have hnext := ih (buf ++ cstr "../")
      rw [List.append_assoc] at hnext
      rw [List.replicate_succ, List.flatten_cons]
      exact hnext
    · next hge => exact ⟨by simp, Or.inr (Nat.not_lt.mp hge)⟩

/-- What is assumed of the display names: siblings differ, they are single components, and no
device hides behind an attribute file or the static directory. -/
structure PlainNames (snap : Snapshot) : Prop where
  distinct : ∀ i j, 0 < i → i < snap.nodeCount → 0 < j → j < snap.nodeCount →
    parentIdx snap i = parentIdx snap j → snap.pathName i = snap.pathName j → i = j
  plain : ∀ i, 0 < i → i < snap.nodeCount →
    snap.pathName i ≠ [] ∧ 47 ∉ snap.pathName i ∧
      snap.pathName i ∉ [cstr ".", cstr "..", cstr "name"]
  top : ∀ i, 0 < i → i < snap.nodeCount → parentIdx snap i = 0 → snap.pathName i ≠ cstr "system"

section Chain

variable {es : List RegEntry} {snap : Snapshot} (h : Built es snap)
include h

theorem Built.pathName_childAt {p k : ℕ} (hk : k < (snap.node p).numChildren) :
    snap.pathName (snap.childAt p k) = snap.childDisplay p k := by
  have hdup : (snap.node (snap.childAt p k)).dupOrdinal = Ordinals.ordinal (snap.childName p) k :=
    h.ordinal p k hk
  rw [Snapshot.pathName, hdup]
  rfl

theorem Built.chain_bounds (n : ℕ) (r : UInt64) :
    ∀ i ∈ chainFrom snap n (sysfsHashFind (some snap) r), 0 < i ∧ i < snap.nodeCount := by
  induction n generalizing r with
  | zero => exact fun i hi => nomatch hi
  | succ n ih =>
    intro i hi
    cases hf : sysfsHashFind (some snap) r with
    | none =>
      rw [hf] at hi
      cases hi
    | some j =>
      rw [hf, chainFrom] at hi
      split at hi
      · cases hi
      · next hj =>
        rcases List.mem_cons.mp hi with heq | hrest
        · exact heq ▸ ⟨by omega, (h.find_lt hf).1⟩
        · exact ih _ i hrest

theorem Built.ne_zero_of_find {r : UInt64} {i : ℕ} (hr : r ≠ 0)
    (hf : sysfsHashFind (some snap) r = some i) : i ≠ 0 := by
  intro hzero
  have hregid := (h.find_lt hf).2
  rw [hzero] at hregid
  exact hr (hregid.symm.trans (h.find_lt h.find_zero).2)

/-- The chain of an entry that is in the child lists goes up its way from the root. -/
theorem Built.chain_eq {l : List ℕ} {i : ℕ} (hl : PathTo snap.child 0 l i) (n : ℕ) :
    chainFrom snap n (some i) = l.dropLast.take n := by
  induction hl generalizing n with
  | root => cases n <;> rfl
  | @step l p c hp hc ih =>
    cases n with
    | zero => rfl
    | succ n =>
      have ⟨k, hk, hck⟩ := mem_children_iff.mp hc
      have hpos : c ≠ 0 := by
        have := (h.childAt_mem hk).1
        omega
      have hpar := h.parentIdx_childAt hk
      rw [hck, parentIdx] at hpar
      have hne : l ≠ [] := by
        cases hp <;> simp
      rw [chainFrom, if_neg hpos, List.dropLast_cons_of_ne_nil hne, List.take_succ_cons]
      congr 1
      cases hf : sysfsHashFind (some snap) (snap.node c).parentRegid with
      | some q =>
        rw [hf, Option.getD_some] at hpar
        rw [hpar]
        exact ih n
      | none =>
        -- an orphan is listed under the root
        rw [hf, Option.getD_none] at hpar
        rw [← ih n, ← hpar]
        cases n <;> rfl

end Chain

def devicesNode : ℕ := 38

/-- The directory of a registry entry, and the devices root for the id 0. -/
def deviceDir (t : Tree) (mnt : Int32) (r : UInt64) : Sfsnode :=
  ⟨mnt, ⟨r, sysfsDevDirObjid, (t.node devicesNode).ssnBaseNodeId⟩, devicesNode⟩

theorem resolve_append_path (t : Tree) (g : GSnapshot) (dir : Sfsnode) (p q : List CStr) :
    resolve t g dir (p ++ q) = (resolve t g dir p).bind fun n => resolve t g n q := by
  induction p generalizing dir with
  | nil => rfl
  | cons cn p ih =>
    rw [List.cons_append, resolve, resolve]
    cases sysfsVnopLookup t g dir cn with
    | error e => rfl
    | ok r => exact ih r

section Devices

variable (start : UInt16) (ncpu : UInt32)

theorem devices_head : ((headNodes.getD 38 default).ssnName = cstr "devices" ∧
      (headNodes.getD 38 default).ssnNodeType = .SFSdevice ∧
      (headNodes.getD 38 default).ssnParent = some 0) ∧
    (∀ i < 74, (headNodes.getD i default).ssnParent = some 38 ↔ i = 39) ∧
    (headNodes.getD 39 default).ssnName = cstr "system" := by
  decide +kernel

theorem devicesNode_facts :
    devicesNode < (builtTree start ncpu).nodes.length ∧
      ((builtTree start ncpu).node devicesNode).ssnName = cstr "devices" ∧
      ((builtTree start ncpu).node devicesNode).ssnNodeType = .SFSdevice ∧
      ((builtTree start ncpu).node devicesNode).ssnParent = some 0 := by
  have hhead := devices_head.1
  rw [← builtTree_head_node start ncpu (by decide)] at hhead
  rw [builtTree_length]
  exact ⟨by rw [devicesNode]; omega, hhead⟩

/-- `system` is the one structure child of the devices node, and was created after it. -/
theorem devices_children :
    (builtTree start ncpu).ssnChildren devicesNode = [devicesNode + 1] := by
  have hhead := devices_head.2.1
  apply List.perm_singleton.mp
  rw [List.perm_ext_iff_of_nodup (Tree.ssnChildren_nodup _ _) (List.nodup_singleton _)]
  intro i
  have hlen : devicesNode + 1 < (builtTree start ncpu).nodes.length := by
    rw [builtTree_length, devicesNode]
    omega
  rw [mem_ssnChildren, List.mem_singleton]
  constructor
  · rintro ⟨hi, hp⟩
    have hlt := builtTree_head_child hi hp (by decide) (by decide) (by decide)
    apply (hhead i hlt).mp
    rwa [← builtTree_head_node start ncpu hlt]
  · rintro rfl
    have hp := (hhead 39 (by decide)).mpr rfl
    rw [← builtTree_head_node start ncpu (by decide)] at hp
    exact ⟨hlen, hp⟩

theorem devices_child_name :
    ((builtTree start ncpu).node (devicesNode + 1)).ssnName = cstr "system" := by
  have hname := devices_head.2.2
  rwa [← builtTree_head_node start ncpu (by decide)] at hname

theorem deviceDir_vtype (mnt : Int32) (r : UInt64) :
    vnodeVtype (builtTree start ncpu) (deviceDir (builtTree start ncpu) mnt r) = .VDIR := by
  rw [vnodeVtype, deviceDir]
  dsimp only
  rw [(devicesNode_facts start ncpu).2.2.1]
  rfl

theorem dirTargets_deviceDir (g : GSnapshot) (mnt : Int32) (r : UInt64) :
    dirTargets (builtTree start ncpu) g (deviceDir (builtTree start ncpu) mnt r) =
      (if r ≠ sysfsNoRegid then
        attrTargets (builtTree start ncpu) (deviceDir (builtTree start ncpu) mnt r) sysfsDevAttrs
      else staticTargets (builtTree start ncpu) (deviceDir (builtTree start ncpu) mnt r)
        sysfsNoRegid sysfsNoObjectid) ++
      childTargets (builtTree start ncpu) g (deviceDir (builtTree start ncpu) mnt r) := by
  have hdev : ((builtTree start ncpu).node
      (deviceDir (builtTree start ncpu) mnt r).nodeStructureNode).ssnNodeType = .SFSdevice :=
    (devicesNode_facts start ncpu).2.2.1
  rw [dirTargets, if_neg, if_neg, if_neg, if_pos hdev]
  · rfl
  · intro hclass
    cases hdev.symm.trans (sysfsIsClassDir_type hclass)
  · rw [hdev]
    simp
  · intro hmod
    cases hdev.symm.trans (sysfsIsModuleDir_type hmod)

variable {snap : Snapshot} (hsnap : Produced snap) (hnames : PlainNames snap)

include hsnap hnames in
/-- Neither the attribute files nor the static directory have the display name of a child. -/
theorem child_not_static (mnt : Int32) {p c : ℕ} (hp : p < snap.nodeCount)
    (hpos : 0 < c) (hlt : c < snap.nodeCount) (hpar : parentIdx snap c = p) :
    findTarget (if (snap.node p).regid ≠ sysfsNoRegid then
      attrTargets (builtTree start ncpu)
        (deviceDir (builtTree start ncpu) mnt (snap.node p).regid) sysfsDevAttrs
      else staticTargets (builtTree start ncpu)
        (deviceDir (builtTree start ncpu) mnt (snap.node p).regid) sysfsNoRegid sysfsNoObjectid)
      (snap.pathName c) = none := by
  have ⟨es, hb⟩ := hsnap.built
  have hnot := (hnames.plain c hpos hlt).2.2
  simp only [List.mem_cons, List.not_mem_nil, or_false, not_or] at hnot
  rw [← Option.not_isSome_iff_eq_none, findTarget_isSome_iff, List.mem_map]
  intro ⟨x, hx, hxname⟩
  split at hx
  · have ⟨a, ha, heq⟩ := List.mem_map.mp hx
    rw [← heq, List.mem_singleton.mp ha] at hxname
    exact hnot.2.2 hxname.symm
  · next hzero =>
    have ⟨s, hs, heq⟩ := List.mem_map.mp hx
    rw [deviceDir, devices_children, List.mem_singleton] at hs
    have hproot : p = 0 := by
      have hroot := hb.find_node hp
      rw [not_not.mp hzero] at hroot
      exact Option.some_inj.mp (hroot.symm.trans hb.find_zero)
    rw [← heq, hs] at hxname
    exact hnames.top c hpos hlt (hpar.trans hproot)
      (hxname.symm.trans (devices_child_name start ncpu))

include hnames in
theorem PlainNames.childName_distinct {es : List RegEntry} (hb : Built es snap) (p : ℕ) :
    Ordinals.Distinct numbered (snap.childName p) (snap.node p).numChildren := by
  intro i hi j hj heq
  have hmi := hb.childAt_mem hi
  have hmj := hb.childAt_mem hj
  apply hb.childAt_inj hi hj
  apply hnames.distinct _ _ hmi.1 hmi.2 hmj.1 hmj.2
  · rw [hb.parentIdx_childAt hi, hb.parentIdx_childAt hj]
  · rw [hb.pathName_childAt hi, hb.pathName_childAt hj]
    exact heq

include hsnap hnames in
theorem lookup_child (mnt : Int32) {p c : ℕ} (hp : p < snap.nodeCount) (hc : snap.child p c) :
    sysfsVnopLookup (builtTree start ncpu) (some snap)
      (deviceDir (builtTree start ncpu) mnt (snap.node p).regid) (snap.pathName c) =
      .ok (deviceDir (builtTree start ncpu) mnt (snap.node c).regid) := by
  have ⟨es, hb⟩ := hsnap.built
  have hg : ∀ s ∈ some snap, Produced s := fun s hs => Option.some_inj.mp hs ▸ hsnap
  have ⟨k, hk, hck⟩ := mem_children_iff.mp hc
  have ⟨hpos, hlt⟩ := hb.childAt_mem hk
  have hpar := hb.parentIdx_childAt hk
  have hname := hb.pathName_childAt hk
  rw [hck] at hpos hlt hpar hname
  have ⟨hne, _, hnot⟩ := hnames.plain c hpos hlt
  simp only [List.mem_cons, List.not_mem_nil, or_false, not_or] at hnot
  have hlen : (snap.pathName c).length ≤ nameMax := by
    rw [hname]
    exact (hb.childDisplay_length hk).le.trans (by decide)
  have hfirst := child_not_static start ncpu hsnap hnames mnt hp hpos hlt hpar
  have hchild : findTarget (childTargets (builtTree start ncpu) (some snap)
      (deviceDir (builtTree start ncpu) mnt (snap.node p).regid)) (snap.pathName c) =
      some (⟨(snap.node c).regid, sysfsDevDirObjid,
        ((builtTree start ncpu).node devicesNode).ssnBaseNodeId⟩, devicesNode) := by
    have hnamed := hb.sysfsIokitChildNamed_display (hb.find_node hp) hk
      (hnames.childName_distinct hb p)
    rw [← childNamed_eq_findTarget hg, hname]
    show Option.map _ (sysfsIokitChildNamed (some snap) (snap.node p).regid _ _) = _
    rw [hnamed, Snapshot.childRegid, hck]
    rfl
  rw [lookup_eq_match (deviceDir_vtype start ncpu mnt _) hne hlen hnot.1 hnot.2.1,
    lookupMatch_eq hg _ rfl, dirTargets_deviceDir, findTarget_append, hfirst, hchild]
  rfl

include hsnap hnames in
/-- The names on the way to an entry lead to its directory. -/
theorem resolve_path (mnt : Int32) {l : List ℕ} {i : ℕ} (hl : PathTo snap.child 0 l i) :
    i < snap.nodeCount ∧ resolve (builtTree start ncpu) (some snap)
      (deviceDir (builtTree start ncpu) mnt 0) (l.dropLast.reverse.map snap.pathName) =
      .ok (deviceDir (builtTree start ncpu) mnt (snap.node i).regid) := by
  have ⟨es, hb⟩ := hsnap.built
  induction hl with
  | root =>
    have hroot := hb.find_lt hb.find_zero
    rw [hroot.2]
    exact ⟨hroot.1, rfl⟩
  | @step l p c hp hc ih =>
    have ⟨k, hk, hck⟩ := mem_children_iff.mp hc
    have hne : l ≠ [] := by
      cases hp <;> simp
    refine ⟨hck ▸ (hb.childAt_mem hk).2, ?_⟩
    rw [List.dropLast_cons_of_ne_nil hne, List.reverse_cons, List.map_append, resolve_append_path,
      ih.2]
    show resolve _ _ _ [snap.pathName c] = _
    rw [resolve, lookup_child start ncpu hsnap hnames mnt ih.1 hc]
    rfl

end Devices

/-- A lookup of another name than `..` does not leave the subtree of the structure. -/
theorem lookup_snode_le {t : Tree} (ht : TreeOk t) {g : GSnapshot} {dir n : Sfsnode} {cn : CStr}
    (hcn : cn ≠ cstr "..") (hl : sysfsVnopLookup t g dir cn = .ok n) :
    dir.nodeStructureNode ≤ n.nodeStructureNode := by
  have ⟨_, hn⟩ := lookup_spec hl
  cases hn with
  | dotdot heq => exact absurd heq hcn
  | dot => exact le_refl _
  | found _ _ hfound =>
    cases hfound with
    | module _ _ hc | classMember _ _ _ _ hc =>
      exact (ht.parentsBefore _ _ (Tree.childOfType_spec hc).2.1).le
    | deviceStatic _ _ hc | static _ _ _ _ hc =>
      exact (ht.parentsBefore _ _ (Tree.childNamed_spec hc).2.1).le
    | moduleAttr | deviceAttr | deviceChild => exact le_refl _

theorem resolve_snode_le {t : Tree} (ht : TreeOk t) {g : GSnapshot} {dir n : Sfsnode}
    {path : List CStr} (hpath : cstr ".." ∉ path) (hr : resolve t g dir path = .ok n) :
    dir.nodeStructureNode ≤ n.nodeStructureNode := by
  induction path generalizing dir with
  | nil =>
    cases hr
    exact le_refl _
  | cons cn path ih =>
    rw [List.mem_cons, not_or] at hpath
    rw [resolve] at hr
    cases hl : sysfsVnopLookup t g dir cn with
    | error e =>
      rw [hl] at hr
      cases hr
    | ok m =>
      rw [hl] at hr
      exact (lookup_snode_le ht (Ne.symm hpath.1) hl).trans (ih hpath.2 hr)

theorem resolve_device_attr {t : Tree} {g : GSnapshot} {n m : Sfsnode} {path : List CStr}
    (hdev : (t.node n.nodeStructureNode).ssnNodeType = .SFSdevice)
    (hobj : n.nodeId.nodeidObjectid ≠ 0) (hr : resolve t g n path = .ok m) : m = n := by
  cases path with
  | nil => exact (Except.ok.inj hr).symm
  | cons nm path =>
    rw [resolve, sysfsVnopLookup, if_pos] at hr
    · cases hr
    · left
      rw [vnodeVtype_device_attr hdev hobj]
      simp

section Reached

variable (start : UInt16) (ncpu : UInt32) {es : List RegEntry} {snap : Snapshot}
  (hb : Built es snap)
include hb

/-- What a name other than `.` and `..` leads to in the directory of an entry: further down
the structure, to an attribute file, or to the directory of a child. -/
theorem device_lookup (mnt : Int32) {nm : CStr} (hdot : nm ≠ cstr ".") (hdotdot : nm ≠ cstr "..")
    {p : ℕ} (hp : p < snap.nodeCount) {m : Sfsnode}
    (hl : sysfsVnopLookup (builtTree start ncpu) (some snap)
      (deviceDir (builtTree start ncpu) mnt (snap.node p).regid) nm = .ok m) :
    devicesNode < m.nodeStructureNode ∨
      m.nodeStructureNode = devicesNode ∧ m.nodeId.nodeidObjectid ≠ 0 ∨
      ∃ c, snap.child p c ∧ c < snap.nodeCount ∧
        m = deviceDir (builtTree start ncpu) mnt (snap.node c).regid := by
  have hdev := (devicesNode_facts start ncpu).2.2.1
  have ⟨_, hm⟩ := lookup_spec hl
  cases hm with
  | dotdot heq => exact absurd heq hdotdot
  | dot heq => exact absurd heq hdot
  | found _ _ hfound =>
    cases hfound with
    | module hdir => cases hdev.symm.trans (sysfsIsModuleDir_type hdir)
    | moduleAttr _ hmod => cases hdev.symm.trans hmod.1
    | classMember _ _ hclass => cases hdev.symm.trans (sysfsIsClassDir_type hclass)
    | static _ _ _ hnodev => exact absurd hdev hnodev
    | deviceStatic _ _ hc =>
      exact .inl (builtTree_parentsBefore start ncpu _ _ (Tree.childNamed_spec hc).2.1)
    | deviceAttr _ _ hattr => exact .inr (.inl ⟨rfl, sysfsDevAttrs_objid hattr⟩)
    | deviceChild _ hchild =>
      have ⟨q, j, hq, hj, hc⟩ := hb.child_of_named hchild
      cases (hb.find_node hp).symm.trans hq
      refine .inr (.inr ⟨snap.childAt p j, mem_children_iff.mpr ⟨j, hj, rfl⟩,
        (hb.childAt_mem hj).2, ?_⟩)
      rw [hc]
      rfl

/-- A path of names from the directory of an entry to that of another one follows the child
lists. -/
theorem path_of_resolve (mnt : Int32) {names : List CStr}
    (hnames : ∀ nm ∈ names, nm ≠ cstr "." ∧ nm ≠ cstr "..") {r : UInt64} {l : List ℕ} {p : ℕ}
    (hl : PathTo snap.child 0 l p) (hp : p < snap.nodeCount)
    (hr : resolve (builtTree start ncpu) (some snap)
      (deviceDir (builtTree start ncpu) mnt (snap.node p).regid) names =
        .ok (deviceDir (builtTree start ncpu) mnt r)) :
    ∃ i l', sysfsHashFind (some snap) r = some i ∧ PathTo snap.child 0 l' i ∧
      l'.length = l.length + names.length := by
  have ht := builtTree_treeOk start ncpu
  induction names generalizing l p with
  | nil =>
    have hregid : (snap.node p).regid = r :=
      congrArg (fun n => n.nodeId.nodeidRegid) (Except.ok.inj hr)
    exact ⟨p, l, hregid ▸ hb.find_node hp, hl, rfl⟩
  | cons nm names ih =>
    obtain ⟨⟨hdot, hdotdot⟩, hrest⟩ := List.forall_mem_cons.mp hnames
    rw [resolve] at hr
    cases hlook : sysfsVnopLookup (builtTree start ncpu) (some snap)
        (deviceDir (builtTree start ncpu) mnt (snap.node p).regid) nm with
    | error e =>
      rw [hlook] at hr
      cases hr
    | ok m =>
      rw [hlook] at hr
      have hgo : resolve (builtTree start ncpu) (some snap) m names =
        .ok (deviceDir (builtTree start ncpu) mnt r) := hr
      obtain hdown | ⟨hsnode, hobj⟩ | ⟨c, hc, hlt, rfl⟩ :=
        device_lookup start ncpu hb mnt hdot hdotdot hp hlook
      · -- the way went down the structure and cannot come back
        have hup : cstr ".." ∉ names := fun hmem => (hrest _ hmem).2 rfl
        exact absurd (resolve_snode_le ht hup hgo) (Nat.not_le.mpr hdown)
      · have hdev := (devicesNode_facts start ncpu).2.2.1
        have hfile := resolve_device_attr (hsnode ▸ hdev) hobj hgo
        exact absurd (congrArg (fun n => n.nodeId.nodeidObjectid) hfile).symm hobj
      · obtain ⟨i, l', hi, hl', hlen⟩ := ih hrest (.step hl hc) hlt hgo
        refine ⟨i, l', hi, hl', ?_⟩
        rw [hlen, List.length_cons, List.length_cons]
        omega

end Reached

theorem TreeOk.eq_zero_of_root {t : Tree} (ht : TreeOk t) {i : ℕ} (hi : i < t.nodes.length)
    (htype : (t.node i).ssnNodeType = .SFSroot) : i = 0 := by
  by_contra hne
  have ⟨p, hp⟩ := ht.parent hi (Nat.pos_of_ne_zero hne)
  have hnot := (ht.kind hi hp).childType
  rw [htype] at hnot
  exact hnot (by decide)

/-- As many `..` as the loop of `sysfs_link_target` counts lead to the root. -/
theorem resolve_climb {t : Tree} (ht : TreeOk t) (g : GSnapshot) (mnt : Int32) {n i : ℕ}
    (hin : i < n) (hi : i < t.nodes.length)
    (htype : (t.node i).ssnNodeType ∈ [Sfstype.SFSroot, .SFSdir, .SFSdevice]) :
    resolve t g (staticNode t mnt i) (List.replicate (linkDepthFrom t n (some i)) (cstr "..")) =
      .ok (staticNode t mnt 0) := by
  induction n generalizing i with
  | zero => exact absurd hin (Nat.not_lt_zero i)
  | succ n ih =>
    rw [linkDepthFrom]
    split
    · next hroot =>
      rw [ht.eq_zero_of_root hi hroot]
      rfl
    · next hroot =>
      have hpos : 0 < i := by
        rcases Nat.eq_zero_or_pos i with hzero | hpos
        · exact absurd (hzero ▸ ht.rootType) hroot
        · exact hpos
      have ⟨p, hp⟩ := ht.parent hi hpos
      have hlt := (ht.kinds hi hp).1
      have hmod : (t.node i).ssnNodeType ≠ .SFSmodule := by
        intro hmod
        rw [hmod] at htype
        exact absurd htype (by decide)
      have hup : sysfsVnopLookup t g (staticNode t mnt i) (cstr "..") =
          .ok (staticNode t mnt p) := by
        rw [lookup_dotdot (vnodeVtype_staticNode htype mnt), lookupDotDot_child rfl hp hmod rfl rfl]
        rfl
      rw [hp, List.replicate_succ, resolve, hup]
      exact ih (by omega) (by omega) (ht.parentType hi hp)

section Links

variable {start : UInt16} {ncpu : UInt32} {g : GSnapshot}

theorem lookup_devices (g : GSnapshot) (mnt : Int32) :
    sysfsVnopLookup (builtTree start ncpu) g (staticNode (builtTree start ncpu) mnt 0)
      (cstr "devices") = .ok (deviceDir (builtTree start ncpu) mnt 0) := by
  have ht := builtTree_treeOk start ncpu
  have ⟨hlt, hname, _, hp⟩ := devicesNode_facts start ncpu
  have hdot : isDotOrMarker ((builtTree start ncpu).node devicesNode) = false := by
    rw [isDotOrMarker, hname]
    decide
  have hclass : sysfsIsClassDir ((builtTree start ncpu).node 0) = false := by
    rw [← Bool.not_eq_true]
    intro hclass
    cases ht.rootType.symm.trans (sysfsIsClassDir_type hclass)
  rw [← hname]
  exact lookup_static_child ht.siblings hlt hp (ht.kind hlt hp).childOk hdot hclass g mnt

theorem type_of_vlnk {t : Tree} {n : Sfsnode} (h : vnodeVtype t n = .VLNK) :
    (t.node n.nodeStructureNode).ssnNodeType = .SFSlink := by
  rw [vnodeVtype] at h
  cases htype : (t.node n.nodeStructureNode).ssnNodeType with
  | SFSlink => rfl
  | SFSdevice | SFSmodule =>
    rw [htype] at h
    dsimp only at h
    split at h <;> cases h
  | _ =>
    rw [htype] at h
    cases h

theorem Built.tail_regid {es : List RegEntry} {snap : Snapshot} (hb : Built es snap)
    {nd : SnapNode} (hnd : nd ∈ snap.nodes.tail) : nd.regid ≠ 0 := by
  intro hzero
  have ⟨j, hj⟩ := List.mem_iff_getElem?.mp hnd
  rw [List.getElem?_tail] at hj
  have hfind := (hb.find 0 (j + 1)).mpr ⟨nd, hj, hzero⟩
  cases hb.find_zero.symm.trans hfind

theorem class_member_regid (hg : ∀ snap ∈ g, Produced snap) {classId flags : UInt32} {nm : CStr}
    {k : ℕ} {r : UInt64} (h : sysfsIokitClassChildNamed g classId flags nm k = some r) : r ≠ 0 := by
  cases g with
  | none => cases h
  | some snap =>
    have ⟨es, hb⟩ := (hg snap rfl).built
    have ⟨nd, hnd, hr⟩ := Option.map_eq_some_iff.mp h
    exact hr ▸ hb.tail_regid (List.mem_of_find?_eq_some hnd)

theorem link_found {t : Tree} (ht : TreeOk t) (hg : ∀ snap ∈ g, Produced snap)
    {dir link : Sfsnode} (hok : NodeOk t dir) {nm : CStr}
    (hl : sysfsVnopLookup t g dir nm = .ok link) (hlnk : vnodeVtype t link = .VLNK) :
    sysfsIsClassDir (t.node dir.nodeStructureNode) = true ∧
      (t.node link.nodeStructureNode).ssnParent = some dir.nodeStructureNode ∧
      link.nodeId.nodeidRegid ≠ 0 := by
  have ⟨hdir, hn⟩ := lookup_spec hl
  have htype := type_of_vlnk hlnk
  cases hn with
  | dotdot => cases hlnk.symm.trans (parentNode_vtype ht hok hdir)
  | dot => cases hlnk.symm.trans hdir
  | found _ _ hfound =>
    cases hfound with
    | module _ _ hmod => cases htype.symm.trans (Tree.childOfType_spec hmod).2.2
    | moduleAttr _ hmod => cases htype.symm.trans hmod.1
    | deviceAttr hdev | deviceChild hdev => cases htype.symm.trans hdev
    | deviceStatic hdev _ hc =>
      have ⟨hlt, hp, _⟩ := Tree.childNamed_spec hc
      cases htype.symm.trans ((ht.kind hlt hp).device_child hdev)
    | static _ _ hnoclass _ hc =>
      have ⟨hlt, hp, _⟩ := Tree.childNamed_spec hc
      exact absurd ((ht.kind hlt hp).link_parent htype) hnoclass
    | classMember _ _ hclass hmember hlink =>
      exact ⟨hclass, (Tree.childOfType_spec hlink).2.1, class_member_regid hg hmember⟩

theorem resolve_over_root {dir : Sfsnode} (hok : NodeOk (builtTree start ncpu) dir)
    (hclass : sysfsIsClassDir ((builtTree start ncpu).node dir.nodeStructureNode) = true)
    {snode : ℕ} (hp : ((builtTree start ncpu).node snode).ssnParent = some dir.nodeStructureNode)
    (names : List CStr) :
    resolve (builtTree start ncpu) g dir
      (List.replicate (linkDepth (builtTree start ncpu) snode) (cstr "..") ++
        cstr "devices" :: names) =
      resolve (builtTree start ncpu) g
        (deviceDir (builtTree start ncpu) dir.nodeMntId 0) names := by
  have ht := builtTree_treeOk start ncpu
  have htype := sysfsIsClassDir_type hclass
  have ⟨hregid, hobjectid⟩ := hok.static (by rw [htype]; rfl)
  have hdir : dir = staticNode (builtTree start ncpu) dir.nodeMntId dir.nodeStructureNode := by
    rw [staticNode, ← hregid, ← hobjectid, ← hok.base]
  have hclimb := resolve_climb ht g dir.nodeMntId hok.lt hok.lt (by rw [htype]; decide)
  rw [← hdir] at hclimb
  rw [resolve_append_path, linkDepth, hp, hclimb]
  show resolve _ _ _ (cstr "devices" :: names) = _
  rw [resolve, lookup_devices]
  rfl

end Links

theorem chainFrom_length_le (snap : Snapshot) (n : ℕ) (i : Option ℕ) :
    (chainFrom snap n i).length ≤ n := by
  induction n generalizing i with
  | zero => exact le_refl _
  | succ n ih =>
    cases i with
    | none => exact Nat.zero_le _
    | some i =>
      rw [chainFrom]
      split
      · exact Nat.zero_le _
      · exact Nat.succ_le_succ (ih _)

/-- The target of a link at `depth` to the entry at index `i`, when at most `n` entries of its
path are taken. -/
def linkText (snap : Snapshot) (n depth i : ℕ) : CStr :=
  targetText depth ((chainFrom snap n (some i)).reverse.map snap.pathName)

section Target

variable {es : List RegEntry} {snap : Snapshot} (hb : Built es snap) (hnames : PlainNames snap)
include hb hnames

theorem linkNames_plain {n i : ℕ} (hi : i < snap.nodeCount) :
    ∀ nm ∈ (chainFrom snap n (some i)).reverse.map snap.pathName,
      (nm ≠ [] ∧ 47 ∉ nm) ∧ nm ≠ cstr "." ∧ nm ≠ cstr ".." := by
  intro nm hnm
  have ⟨j, hj, heq⟩ := List.mem_map.mp hnm
  rw [List.mem_reverse, ← hb.find_node hi] at hj
  have ⟨hpos, hlt⟩ := hb.chain_bounds n _ j hj
  have ⟨hne, hsep, hnot⟩ := hnames.plain j hpos hlt
  simp only [List.mem_cons, List.not_mem_nil, or_false, not_or] at hnot
  exact heq ▸ ⟨⟨hne, hsep⟩, hnot.1, hnot.2.1⟩

omit hb hnames in
theorem linkNames_ne_nil {n i : ℕ} (hi : i ≠ 0) :
    (chainFrom snap (n + 1) (some i)).reverse.map snap.pathName ≠ [] := by
  rw [chainFrom, if_neg hi]
  simp

theorem sysfsIokitPath_eq {r : UInt64} {i : ℕ} (hr : r ≠ 0)
    (hf : sysfsHashFind (some snap) r = some i) :
    let path := joined ((chainFrom snap sysfsIokitPathdepth (some i)).reverse.map snap.pathName)
    sysfsIokitPath (some snap) r sysfsLinkTargetMax =
      if path.length < sysfsLinkTargetMax then path else [] := by
  have hplain := linkNames_plain hb hnames (n := sysfsIokitPathdepth) (hb.find_lt hf).1
  have hcond : ¬(sysfsLinkTargetMax = 0 ∨ r = 0) := by
    intro hor
    rcases hor with hzero | hzero
    · exact absurd hzero (by decide)
    · exact hr hzero
  rw [sysfsIokitPath, if_neg hcond, hf]
  dsimp only
  rw [pathFrom_eq (fun j hj => (hplain _ (List.mem_map_of_mem hj)).1.1) (by decide),
    joinedFrom_nil fun nm hnm => (hplain nm hnm).1.1]

omit hb hnames in
theorem readlink_none {t : Tree} {link : Sfsnode}
    (hlink : (t.node link.nodeStructureNode).ssnNodeType = .SFSlink)
    (hf : sysfsHashFind (some snap) link.nodeId.nodeidRegid = none) :
    sysfsVnopReadlink t (some snap) link = .error .ENOENT := by
  have hpath : sysfsIokitPath (some snap) link.nodeId.nodeidRegid sysfsLinkTargetMax = [] := by
    rw [sysfsIokitPath, hf]
    split <;> rfl
  rw [sysfsVnopReadlink, if_pos hlink, sysfsLinkTarget, hpath]
  rfl

theorem readlink_eq {t : Tree} {link : Sfsnode}
    (hlink : (t.node link.nodeStructureNode).ssnNodeType = .SFSlink)
    (hr : link.nodeId.nodeidRegid ≠ 0) {i : ℕ}
    (hf : sysfsHashFind (some snap) link.nodeId.nodeidRegid = some i) :
    sysfsVnopReadlink t (some snap) link =
      if (linkText snap sysfsIokitPathdepth (linkDepth t link.nodeStructureNode) i).length <
          sysfsLinkTargetMax
        then .ok (linkText snap sysfsIokitPathdepth (linkDepth t link.nodeStructureNode) i)
        else .error .ENOENT := by
  have hi := hb.ne_zero_of_find hr hf
  have hplain := linkNames_plain hb hnames (n := sysfsIokitPathdepth) (hb.find_lt hf).1
  have hne : joined ((chainFrom snap sysfsIokitPathdepth (some i)).reverse.map snap.pathName)
      ≠ [] :=
    joined_ne_nil (linkNames_ne_nil hi) fun nm hnm => (hplain nm hnm).1.1
  have ⟨hle, hclimb⟩ := climbFrom_spec sysfsLinkTargetMax (linkDepth t link.nodeStructureNode) []
  rw [sysfsVnopReadlink, if_pos hlink, sysfsLinkTarget, sysfsIokitPath_eq hb hnames hr hf, linkText,
    targetText]
  rw [List.nil_append] at hle hclimb
  generalize joined ((chainFrom snap sysfsIokitPathdepth (some i)).reverse.map snap.pathName) = path
    at hne ⊢
  have hpos := List.length_pos_iff.mpr hne
  by_cases hfits : path.length < sysfsLinkTargetMax
  · rw [if_pos hfits, if_neg (by omega)]
    rcases hclimb with heq | hlong
    · rw [heq]
      dsimp only
      by_cases hlong :
          ((List.replicate (linkDepth t link.nodeStructureNode) (cstr "../")).flatten ++
          cstr "devices/" ++ path).length < sysfsLinkTargetMax
      · rw [if_neg (Nat.not_le.mpr hlong), if_pos hlong]
      · rw [if_pos (Nat.not_lt.mp hlong), if_neg hlong]
    · -- the climb alone does not fit
      simp only [List.length_append]
      rw [if_pos (by omega), if_neg (by omega)]
  · rw [if_neg hfits, if_pos List.length_nil, if_neg]
    simp only [List.length_append]
    omega

end Target

/-- The path of the entry of the link is not cut off and its child lists are there, or its
target does not fit in any case. -/
def LinkOk (snap : Snapshot) (depth : ℕ) (r : UInt64) : Prop :=
  ∀ i, sysfsHashFind (some snap) r = some i →
    (∃ l, PathTo snap.child 0 l i ∧ l.length ≤ sysfsIokitPathdepth + 1) ∨
      sysfsLinkTargetMax ≤ (linkText snap sysfsIokitPathdepth depth i).length

section Resolve

variable {start : UInt16} {ncpu : UInt32} {snap : Snapshot} (hsnap : Produced snap)
  (hnames : PlainNames snap) {dir : Sfsnode} (hok : NodeOk (builtTree start ncpu) dir)
  (hclass : sysfsIsClassDir ((builtTree start ncpu).node dir.nodeStructureNode) = true)
  {snode : ℕ} (hp : ((builtTree start ncpu).node snode).ssnParent = some dir.nodeStructureNode)
  {r : UInt64} {i : ℕ} (hr : r ≠ 0) (hf : sysfsHashFind (some snap) r = some i)
include hsnap hnames hok hclass hp hr hf

/-- The target leads to the entry exactly if this is not deeper than the path may be. -/
theorem resolve_linkText_iff :
    resolve (builtTree start ncpu) (some snap) dir (pathComponents
      (linkText snap sysfsIokitPathdepth (linkDepth (builtTree start ncpu) snode) i)) =
        .ok (deviceDir (builtTree start ncpu) dir.nodeMntId r) ↔
      ∃ l, PathTo snap.child 0 l i ∧ l.length ≤ sysfsIokitPathdepth + 1 := by
  have ⟨es, hb⟩ := hsnap.built
  have ⟨hlt, hregid⟩ := hb.find_lt hf
  have hplain := linkNames_plain hb hnames (n := sysfsIokitPathdepth) hlt
  have hlen := chainFrom_length_le snap sysfsIokitPathdepth (some i)
  have hne : (chainFrom snap sysfsIokitPathdepth (some i)).reverse.map snap.pathName ≠ [] :=
    linkNames_ne_nil (hb.ne_zero_of_find hr hf)
  rw [linkText, pathComponents_targetText _ hne fun nm hnm => (hplain nm hnm).1,
    resolve_over_root hok hclass hp]
  constructor
  · intro hres
    have hzero := hb.find_lt hb.find_zero
    rw [← hzero.2] at hres
    have ⟨j, l, hj, hl, hll⟩ := path_of_resolve start ncpu hb dir.nodeMntId
      (fun nm hnm => (hplain nm hnm).2) .root hzero.1 hres
    cases hf.symm.trans hj
    refine ⟨l, hl, ?_⟩
    rw [hll, List.length_map, List.length_reverse, List.length_singleton]
    omega
  · intro ⟨l, hl, hll⟩
    have hdrop : l.dropLast.length ≤ sysfsIokitPathdepth := by
      rw [List.length_dropLast]
      omega
    rw [hb.chain_eq hl, List.take_of_length_le hdrop, ← hregid]
    exact (resolve_path start ncpu hsnap hnames dir.nodeMntId hl).2

end Resolve

/-- With distinct ids and whatever is in the hash, for every link found in a directory, in
whatever snapshot, and every snapshot with plain names that it is read in: the target that
`sysfs_vnop_readlink` gives leads from the directory of the link to the directory of its entry,
and it gives none only for an entry that is not there or whose whole target does not fit,
exactly if the entry is on a path of at most 64 entries or its target does not fit. -/
theorem link_leads_to_device_iff {start : UInt16} {ncpu : UInt32}
    (hids : BaseIdsDistinct (builtTree start ncpu)) (mnt : Int32) {g : GSnapshot}
    (hg : ∀ snap ∈ g, Produced snap) {dir link : Sfsnode}
    (hdir : ReachableIn (builtTree start ncpu) g mnt dir) {nm : CStr}
    {hash : NodeHash (builtTree start ncpu)}
    (hlink : lookupIn (builtTree start ncpu) g hash dir nm = .ok link)
    (hlnk : vnodeVtype (builtTree start ncpu) link = .VLNK) {snap : Snapshot}
    (hsnap : Produced snap) (hnames : PlainNames snap)
    (hash' : ℕ → NodeHash (builtTree start ncpu)) :
    ((∀ target, sysfsVnopReadlink (builtTree start ncpu) (some snap) link = .ok target →
        resolveIn (builtTree start ncpu) (some snap) hash' dir (pathComponents target) =
          .ok (deviceDir (builtTree start ncpu) dir.nodeMntId link.nodeId.nodeidRegid)) ∧
      (sysfsVnopReadlink (builtTree start ncpu) (some snap) link = .error .ENOENT →
        ∀ i, sysfsHashFind (some snap) link.nodeId.nodeidRegid = some i →
          ∃ n, sysfsLinkTargetMax ≤ (linkText snap n
            (linkDepth (builtTree start ncpu) link.nodeStructureNode) i).length)) ↔
      LinkOk snap (linkDepth (builtTree start ncpu) link.nodeStructureNode)
        link.nodeId.nodeidRegid := by
  have ht := builtTree_treeOk start ncpu
  have hok : NodeOk (builtTree start ncpu) dir := hdir.nodeOk hids
  rw [lookupIn_eq hids ht hok] at hlink
  simp only [resolveIn_eq hids ht hok]
  have ⟨es, hb⟩ := hsnap.built
  have ⟨hclass, hp, hr⟩ := link_found ht hg hok hlink hlnk
  rw [LinkOk]
  constructor
  · intro ⟨htarget, _⟩ i hf
    rw [readlink_eq hb hnames (type_of_vlnk hlnk) hr hf] at htarget
    by_cases hfits : (linkText snap sysfsIokitPathdepth
        (linkDepth (builtTree start ncpu) link.nodeStructureNode) i).length < sysfsLinkTargetMax
    · rw [if_pos hfits] at htarget
      left
      exact (resolve_linkText_iff hsnap hnames hok hclass hp hr hf).mp (htarget _ rfl)
    · exact Or.inr (Nat.not_lt.mp hfits)
  · intro hcond
    cases hf : sysfsHashFind (some snap) link.nodeId.nodeidRegid with
    | none =>
      refine ⟨fun target htarget => ?_, fun _ i hi => nomatch hi⟩
      rw [readlink_none (type_of_vlnk hlnk) hf] at htarget
      cases htarget
    | some i =>
      rw [readlink_eq hb hnames (type_of_vlnk hlnk) hr hf]
      by_cases hfits : (linkText snap sysfsIokitPathdepth
          (linkDepth (builtTree start ncpu) link.nodeStructureNode) i).length < sysfsLinkTargetMax
      · rw [if_pos hfits]
        refine ⟨fun target htarget => ?_, nofun⟩
        rcases hcond i hf with hpath | hlong
        · rw [← Except.ok.inj htarget]
          exact (resolve_linkText_iff hsnap hnames hok hclass hp hr hf).mpr hpath
        · exact absurd hlong (Nat.not_le.mpr hfits)
      · rw [if_neg hfits]
        refine ⟨nofun, fun _ j hj => ⟨sysfsIokitPathdepth, ?_⟩⟩
        cases hj
        exact Nat.not_lt.mp hfits

/-- A chain of entries, each the parent of the next one, with an interface at its end. -/
def deepChain (n : ℕ) : List RegEntry :=
  (List.range n).map fun k =>
    { regid := (k + 1).toUInt64, name := some (cstr "a")
      parent := if k = 0 then .registryRoot else .entry k.toUInt64
      isNetworkInterface := k + 1 = n
      bsdName := if k + 1 = n then some (cstr "en0") else none }

def chainSnapshot (n : ℕ) : Option Snapshot :=
  (sysfsSnapBuild 0 (some (deepChain n))
    { yields := some (deepChain n), kexts := none, uptime := 0 }).1

theorem chainSnapshot_produced {n : ℕ} {snap : Snapshot} (h : chainSnapshot n = some snap) :
    Produced snap := ⟨_, _, _, h⟩

def isChain (n : ℕ) (snap : Snapshot) : Bool :=
  snap.nodeCount = n + 1 ∧
    ∀ i < n + 1, 0 < i → parentIdx snap i + 1 = i ∧ snap.pathName i = cstr "a"

theorem plainNames_of_isChain {n : ℕ} {snap : Snapshot} (h : isChain n snap = true) :
    PlainNames snap := by
  rw [isChain, decide_eq_true_eq] at h
  have ⟨hcount, hall⟩ := h
  refine ⟨fun i j hi hilt hj hjlt hpar _ => ?_, fun i hi hilt => ?_, fun i hi hilt _ => ?_⟩
  · have hpi := (hall i (by omega) hi).1
    have hpj := (hall j (by omega) hj).1
    omega
  · rw [(hall i (by omega) hi).2]
    decide
  · rw [(hall i (by omega) hi).2]
    decide

/-- The target of an interface below 64 entries leaves out the first of them, and leads to the
parent of the interface. -/
theorem deep_interface_link_misleads :
    ∃ snap dir link target, chainSnapshot 65 = some snap ∧ PlainNames snap ∧
      (∀ hash, resolveFromRoot (builtTree 2 1) (some snap) hash 1 [cstr "class", cstr "net"] =
        .ok dir) ∧
      (∀ hash, lookupIn (builtTree 2 1) (some snap) hash dir (cstr "en0") = .ok link) ∧
      vnodeVtype (builtTree 2 1) link = .VLNK ∧ link.nodeId.nodeidRegid = 65 ∧
      sysfsVnopReadlink (builtTree 2 1) (some snap) link = .ok target ∧
      ∀ hash, resolveIn (builtTree 2 1) (some snap) hash dir (pathComponents target) =
        .ok (deviceDir (builtTree 2 1) 1 64) := by
  have hrun : ((chainSnapshot 65).any fun snap => isChain 65 snap &&
      (resolve (builtTree 2 1) (some snap) (sysfsRoot 1)
        [cstr "class", cstr "net"]).toOption.any fun dir =>
      (sysfsVnopLookup (builtTree 2 1) (some snap) dir (cstr "en0")).toOption.any fun link =>
      (sysfsVnopReadlink (builtTree 2 1) (some snap) link).toOption.any fun target =>
        decide (vnodeVtype (builtTree 2 1) link = .VLNK ∧ link.nodeId.nodeidRegid = 65 ∧
          (resolve (builtTree 2 1) (some snap) dir (pathComponents target)).toOption =
            some (deviceDir (builtTree 2 1) 1 64))) = true := by decide +kernel
  obtain ⟨snap, hsnap, hrun⟩ := (Option.any_eq_true _ _).mp hrun
  obtain ⟨hchain, hrun⟩ := (Bool.and_eq_true _ _).mp hrun
  obtain ⟨dir, hdir, hrun⟩ := exists_ok_of_any hrun
  obtain ⟨link, hlink, hrun⟩ := exists_ok_of_any hrun
  obtain ⟨target, htarget, hrun⟩ := exists_ok_of_any hrun
  obtain ⟨hlnk, hregid, hres⟩ := of_decide_eq_true hrun
  have hids := firstTree_ids 1
  have hok : NodeOk (builtTree 2 1) dir := Reachable.nodeOk ⟨_, hdir⟩
  refine ⟨snap, dir, link, target, hsnap, plainNames_of_isChain hchain, fun hash => ?_,
    fun hash => ?_, hlnk, hregid, htarget, fun hash => ?_⟩
  · rw [resolveFromRoot_eq hids, hdir]
  · rw [lookupIn_eq hids (builtTree_treeOk 2 1) hok, hlink]
  · rw [resolveIn_eq hids (builtTree_treeOk 2 1) hok, eq_ok_of_toOption hres]

/-- The link of an interface at the top leads to it. -/
theorem top_interface_link_leads :
    ∃ snap dir link, chainSnapshot 1 = some snap ∧ PlainNames snap ∧
      LinkOk snap (linkDepth (builtTree 2 1) link.nodeStructureNode) link.nodeId.nodeidRegid ∧
      ∀ hash hash', lookupIn (builtTree 2 1) (some snap) hash dir (cstr "en0") = .ok link ∧
        ∀ target, sysfsVnopReadlink (builtTree 2 1) (some snap) link = .ok target →
          resolveIn (builtTree 2 1) (some snap) hash' dir (pathComponents target) =
            .ok (deviceDir (builtTree 2 1) dir.nodeMntId link.nodeId.nodeidRegid) := by
  have hrun : ((chainSnapshot 1).any fun snap => isChain 1 snap &&
      (resolve (builtTree 2 1) (some snap) (sysfsRoot 1)
        [cstr "class", cstr "net"]).toOption.any fun dir =>
      (sysfsVnopLookup (builtTree 2 1) (some snap) dir (cstr "en0")).toOption.any fun link =>
        decide (vnodeVtype (builtTree 2 1) link = .VLNK ∧ 1 ∈ snap.children 0 ∧
          sysfsHashFind (some snap) link.nodeId.nodeidRegid = some 1)) = true := by decide +kernel
  obtain ⟨snap, hsnap, hrun⟩ := (Option.any_eq_true _ _).mp hrun
  obtain ⟨hchain, hrun⟩ := (Bool.and_eq_true _ _).mp hrun
  obtain ⟨dir, hdir, hrun⟩ := exists_ok_of_any hrun
  obtain ⟨link, hlink, hrun⟩ := exists_ok_of_any hrun
  obtain ⟨hlnk, hchild, hfind⟩ := of_decide_eq_true hrun
  have hnames := plainNames_of_isChain hchain
  have hproduced := chainSnapshot_produced hsnap
  have hok : LinkOk snap (linkDepth (builtTree 2 1) link.nodeStructureNode)
      link.nodeId.nodeidRegid := by
    intro i hi
    cases hfind.symm.trans hi
    exact Or.inl ⟨[1, 0], .step .root hchild, by decide⟩
  have hg : ∀ s ∈ some snap, Produced s := fun s hs => Option.some_inj.mp hs ▸ hproduced
  have hids := firstTree_ids 1
  have hreach : Reachable (builtTree 2 1) (some snap) 1 dir := ⟨_, hdir⟩
  refine ⟨snap, dir, link, hsnap, hnames, hok, fun hash hash' => ?_⟩
  have hfound : lookupIn (builtTree 2 1) (some snap) hash dir (cstr "en0") = .ok link := by
    rw [lookupIn_eq hids (builtTree_treeOk 2 1) hreach.nodeOk, hlink]
  exact ⟨hfound, ((link_leads_to_device_iff hids 1 hg ((reachableIn_iff hids).mpr hreach) hfound
    hlnk hproduced hnames hash').mpr hok).1⟩

end SysFS
