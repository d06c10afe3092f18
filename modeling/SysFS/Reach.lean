import SysFS.StructureLookup

namespace SysFS
open CString

def kindOk (child parent : Sfssnode) : Bool :=
  childOk child parent ∧
    (child.ssnNodeType = .SFSdirthis ↔ child.ssnName = cstr ".") ∧
    (child.ssnNodeType = .SFSdirparent ↔ child.ssnName = cstr "..") ∧
    (child.ssnNodeType = .SFSmodule → sysfsIsModuleDir parent) ∧
    (child.ssnNodeType = .SFSlink → sysfsIsClassDir parent) ∧
    (child.ssnNodeType = .SFSdevice → parent.ssnNodeType = .SFSroot) ∧
    child.ssnNodeType ∉ [Sfstype.SFSroot, .SFSsubsystem, .SFSattr] ∧
    (parent.ssnNodeType = .SFSdevice → child.ssnNodeType = .SFSdir)

structure KindFacts (child parent : Sfssnode) : Prop where
  childOk : SysFS.childOk (bare child) (bare parent) = true
  dot_iff : child.ssnNodeType = .SFSdirthis ↔ child.ssnName = cstr "."
  dotdot_iff : child.ssnNodeType = .SFSdirparent ↔ child.ssnName = cstr ".."
  module_parent : child.ssnNodeType = .SFSmodule → sysfsIsModuleDir parent = true
  link_parent : child.ssnNodeType = .SFSlink → sysfsIsClassDir parent = true
  childType : child.ssnNodeType ∉ [Sfstype.SFSroot, .SFSsubsystem, .SFSattr]
  device_child : parent.ssnNodeType = .SFSdevice → child.ssnNodeType = .SFSdir

structure TreeOk (t : Tree) : Prop where
  siblings : SiblingsDistinct t.nodes
  root : (t.node 0).ssnParent = none
  rootType : (t.node 0).ssnNodeType = .SFSroot
  nonempty : 0 < t.nodes.length
  kinds : ∀ {i p}, i < t.nodes.length → (t.node i).ssnParent = some p →
    p < i ∧ kindOk (bare (t.node i)) (bare (t.node p)) = true
  parent : ∀ {i}, i < t.nodes.length → 0 < i → ∃ p, (t.node i).ssnParent = some p

theorem kindOk_treeShape {n : ℕ} (hn : n ≤ sysfsMaxCpuNodes) : Local kindOk (treeShape n) := by
  have hcpu : ∀ c < sysfsMaxCpuNodes, Local kindOk (cpuArena c) := by decide +kernel
  exact treeShape_local hn (by decide +kernel) (fun c hc => hcpu c (by omega)) (by decide +kernel)

theorem builtTree_treeOk (start : UInt16) (ncpu : UInt32) : TreeOk (builtTree start ncpu) where
  siblings := builtTree_siblings
  root := builtTree_root_parent start ncpu
  rootType := by
    have htype := congrArg Sfssnode.ssnNodeType (builtTree_head_node start ncpu (i := 0) (by omega))
    have hroot : (headNodes.getD 0 default).ssnNodeType = .SFSroot := by decide +kernel
    exact htype.trans hroot
  nonempty := by
    rw [builtTree_length]
    omega
  kinds := by
    intro i p hi hp
    have hpos : 0 < i := by
      have := builtTree_parentsBefore start ncpu i p hp
      omega
    have ⟨q, hlt, hq, hok⟩ := builtTree_local start (kindOk_treeShape (cpuNodes_le ncpu)) hi hpos
    rw [hq, Option.some_inj] at hp
    exact hp ▸ ⟨hlt, hok⟩
  parent := by
    intro i hi hpos
    have ⟨p, _, hp, _⟩ := builtTree_local start (kindOk_treeShape (cpuNodes_le ncpu)) hi hpos
    exact ⟨p, hp⟩

namespace TreeOk

theorem parentsBefore {t : Tree} (h : TreeOk t) : t.ParentsBefore := by
  intro i p hp
  by_cases hi : i < t.nodes.length
  · exact (h.kinds hi hp).1
  · rw [Tree.node, List.getD_eq_default _ _ (Nat.le_of_not_lt hi)] at hp
    cases hp

variable {t : Tree} (h : TreeOk t) {i p : ℕ} (hi : i < t.nodes.length)
  (hp : (t.node i).ssnParent = some p)
include h hi hp

theorem kind : KindFacts (t.node i) (t.node p) := by
  have hk := (h.kinds hi hp).2
  rw [kindOk, decide_eq_true_eq] at hk
  have ⟨hchild, hdot, hdotdot, hmodule, hlink, _, htype, hdevice⟩ := hk
  exact ⟨hchild, hdot, hdotdot, hmodule, hlink, htype, hdevice⟩

theorem parentType : (t.node p).ssnNodeType ∈ [Sfstype.SFSroot, .SFSdir, .SFSdevice] :=
  (childOk_iff.mp (h.kind hi hp).childOk).1

end TreeOk

theorem Tree.childOfType_spec {t : Tree} {p c : ℕ} {type : Sfstype}
    (h : t.childOfType p type = some c) :
    c < t.nodes.length ∧ (t.node c).ssnParent = some p ∧ (t.node c).ssnNodeType = type := by
  have ⟨hlt, hp⟩ := mem_ssnChildren.mp (List.mem_of_find?_eq_some h)
  have htype := List.find?_some h
  exact ⟨hlt, hp, of_decide_eq_true htype⟩

theorem Tree.childNamed_spec {t : Tree} {p c : ℕ} {nm : CStr} (h : t.childNamed p nm = some c) :
    c < t.nodes.length ∧ (t.node c).ssnParent = some p ∧ (t.node c).ssnName = nm := by
  have ⟨hlt, hp⟩ := mem_ssnChildren.mp (List.mem_of_find?_eq_some h)
  have hname := List.find?_some h
  exact ⟨hlt, hp, (of_decide_eq_true hname).symm⟩

/-- The types whose nodes may have a registry id or an object id. -/
def Sfstype.isDynamic : Sfstype → Bool
  | .SFSdevice | .SFSmodule | .SFSlink => true
  | _ => false

/-- What holds of the nodes that lookups reach. -/
structure NodeOk (t : Tree) (n : Sfsnode) : Prop where
  lt : n.nodeStructureNode < t.nodes.length
  base : n.nodeId.nodeidBaseId = (t.node n.nodeStructureNode).ssnBaseNodeId
  static : (t.node n.nodeStructureNode).ssnNodeType.isDynamic = false →
    n.nodeId.nodeidRegid = sysfsNoRegid ∧ n.nodeId.nodeidObjectid = sysfsNoObjectid

theorem NodeOk.objectid {t : Tree} {n : Sfsnode} (h : NodeOk t n) (hdir : vnodeVtype t n = .VDIR) :
    n.nodeId.nodeidObjectid = 0 := by
  rw [vnodeVtype] at hdir
  split at hdir
  · next ht =>
    split at hdir
    · next ho => exact of_decide_eq_true ho
    · cases hdir
  · next ht =>
    split at hdir
    · next ho => exact of_decide_eq_true ho
    · cases hdir
  · next hd hm =>
    cases hdyn : (t.node n.nodeStructureNode).ssnNodeType.isDynamic with
    | false => exact (h.static hdyn).2
    | true =>
      cases ht : (t.node n.nodeStructureNode).ssnNodeType with
      | SFSlink =>
        rw [ht] at hdir
        cases hdir
      | SFSdevice => exact absurd ht hd
      | SFSmodule => exact absurd ht hm
      | _ =>
        rw [ht] at hdyn
        cases hdyn

theorem NodeOk.regid {t : Tree} {n : Sfsnode} (h : NodeOk t n) (hdir : vnodeVtype t n = .VDIR)
    (hd : (t.node n.nodeStructureNode).ssnNodeType ≠ .SFSdevice)
    (hm : (t.node n.nodeStructureNode).ssnNodeType ≠ .SFSmodule) :
    n.nodeId.nodeidRegid = 0 := by
  cases hdyn : (t.node n.nodeStructureNode).ssnNodeType.isDynamic with
  | false => exact (h.static hdyn).1
  | true =>
    cases ht : (t.node n.nodeStructureNode).ssnNodeType with
    | SFSlink =>
      rw [vnodeVtype, ht] at hdir
      cases hdir
    | SFSdevice => exact absurd ht hd
    | SFSmodule => exact absurd ht hm
    | _ =>
      rw [ht] at hdyn
      cases hdyn

/-- What the dispatch of a lookup finds, by the kind of the directory. -/
inductive Found (t : Tree) (g : GSnapshot) (dir : Sfsnode) (nm : CStr) (k : ℕ) :
    Sfsid × ℕ → Prop where
  | module {mi : SnapModule} {mod : ℕ}
      (hdir : sysfsIsModuleDir (t.node dir.nodeStructureNode))
      (hmi : sysfsIokitModuleNamed g nm k = some mi)
      (hmod : t.childOfType dir.nodeStructureNode .SFSmodule = some mod) :
    Found t g dir nm k (⟨mi.loadTag, sysfsModDirObjid, (t.node mod).ssnBaseNodeId⟩, mod)
  | moduleAttr {objid : UInt64}
      (hnodir : ¬sysfsIsModuleDir (t.node dir.nodeStructureNode))
      (hmod : (t.node dir.nodeStructureNode).ssnNodeType = .SFSmodule ∧
        sysfsModIsDir dir.nodeId.nodeidObjectid)
      (hattr : attrNamed sysfsModAttrs nm = some objid) :
    Found t g dir nm k (⟨dir.nodeId.nodeidRegid, objid,
      (t.node dir.nodeStructureNode).ssnBaseNodeId⟩, dir.nodeStructureNode)
  | classMember {regid : UInt64} {link : ℕ}
      (hnodir : ¬sysfsIsModuleDir (t.node dir.nodeStructureNode))
      (hnomod : ¬((t.node dir.nodeStructureNode).ssnNodeType = .SFSmodule ∧
        sysfsModIsDir dir.nodeId.nodeidObjectid))
      (hclass : sysfsIsClassDir (t.node dir.nodeStructureNode))
      (hmember : sysfsIokitClassChildNamed g (t.node dir.nodeStructureNode).ssnInstance
        (sysfsClassMatchFlags (t.node dir.nodeStructureNode)) nm k = some regid)
      (hlink : t.childOfType dir.nodeStructureNode .SFSlink = some link) :
    Found t g dir nm k (⟨regid, sysfsNoObjectid, (t.node link).ssnBaseNodeId⟩, link)
  | deviceStatic {c : ℕ}
      (hdev : (t.node dir.nodeStructureNode).ssnNodeType = .SFSdevice)
      (hroot : dir.nodeId.nodeidRegid = sysfsNoRegid ∧ sysfsDevIsDir dir.nodeId.nodeidObjectid)
      (hc : t.childNamed dir.nodeStructureNode nm = some c) :
    Found t g dir nm k (⟨sysfsNoRegid, sysfsNoObjectid, (t.node c).ssnBaseNodeId⟩, c)
  | deviceAttr {objid : UInt64}
      (hdev : (t.node dir.nodeStructureNode).ssnNodeType = .SFSdevice)
      (hregid : dir.nodeId.nodeidRegid ≠ sysfsNoRegid)
      (hattr : attrNamed sysfsDevAttrs nm = some objid) :
    Found t g dir nm k (⟨dir.nodeId.nodeidRegid, objid,
      (t.node dir.nodeStructureNode).ssnBaseNodeId⟩, dir.nodeStructureNode)
  | deviceChild {regid : UInt64}
      (hdev : (t.node dir.nodeStructureNode).ssnNodeType = .SFSdevice)
      (hchild : sysfsIokitChildNamed g dir.nodeId.nodeidRegid nm k = some regid) :
    Found t g dir nm k (⟨regid, sysfsDevDirObjid,
      (t.node dir.nodeStructureNode).ssnBaseNodeId⟩, dir.nodeStructureNode)
  | static {c : ℕ}
      (hnodir : ¬sysfsIsModuleDir (t.node dir.nodeStructureNode))
      (hnomod : ¬((t.node dir.nodeStructureNode).ssnNodeType = .SFSmodule ∧
        sysfsModIsDir dir.nodeId.nodeidObjectid))
      (hnoclass : ¬sysfsIsClassDir (t.node dir.nodeStructureNode))
      (hnodev : (t.node dir.nodeStructureNode).ssnNodeType ≠ .SFSdevice)
      (hc : t.childNamed dir.nodeStructureNode nm = some c) :
    Found t g dir nm k (⟨dir.nodeId.nodeidRegid, dir.nodeId.nodeidObjectid,
      (t.node c).ssnBaseNodeId⟩, c)

theorem lookupMatch_found {t : Tree} {g : GSnapshot} {dir : Sfsnode} {nm : CStr} {k : ℕ}
    {x : Sfsid × ℕ} (hm : lookupMatch t g dir nm k = some x) : Found t g dir nm k x := by
  rw [lookupMatch] at hm
  split at hm
  · next hdir =>
    obtain ⟨mi, hmi, hrest⟩ := Option.bind_eq_some_iff.mp hm
    obtain ⟨mod, hmod, heq⟩ := Option.map_eq_some_iff.mp hrest
    exact heq ▸ .module hdir hmi hmod
  · next hnodir =>
    split at hm
    · next hmod =>
      obtain ⟨objid, hattr, heq⟩ := Option.map_eq_some_iff.mp hm
      exact heq ▸ .moduleAttr hnodir hmod hattr
    · next hnomod =>
      split at hm
      · next hclass =>
        obtain ⟨regid, hmember, hrest⟩ := Option.bind_eq_some_iff.mp hm
        obtain ⟨link, hlink, heq⟩ := Option.map_eq_some_iff.mp hrest
        exact heq ▸ .classMember hnodir hnomod hclass hmember hlink
      · next hnoclass =>
        split at hm
        · next hdev =>
          rw [matchDevice] at hm
          rcases Option.or_eq_some_iff.mp hm with hs | ⟨_, hm⟩
          · rw [matchDeviceStatic] at hs
            split at hs
            · next hroot =>
              obtain ⟨c, hc, heq⟩ := Option.map_eq_some_iff.mp hs
              exact heq ▸ .deviceStatic hdev hroot hc
            · cases hs
          · rcases Option.or_eq_some_iff.mp hm with ha | ⟨_, hc⟩
            · split at ha
              · next hregid =>
                obtain ⟨objid, hattr, heq⟩ := Option.map_eq_some_iff.mp ha
                exact heq ▸ .deviceAttr hdev hregid hattr
              · cases ha
            · obtain ⟨regid, hchild, heq⟩ := Option.map_eq_some_iff.mp hc
              exact heq ▸ .deviceChild hdev hchild
        · next hnodev =>
          obtain ⟨c, hc, heq⟩ := Option.map_eq_some_iff.mp hm
          exact heq ▸ .static hnodir hnomod hnoclass hnodev hc

section Lookup

variable {t : Tree} (ht : TreeOk t) {g : GSnapshot} {dir : Sfsnode} (h : NodeOk t dir)
  (hdir : vnodeVtype t dir = .VDIR)
include ht h hdir

theorem lookupDotDot_nodeOk :
    NodeOk t ⟨dir.nodeMntId, (lookupDotDot t g dir).1, (lookupDotDot t g dir).2⟩ := by
  have hlt : (lookupDotDot t g dir).2 < t.nodes.length :=
    (lookupDotDot_le ht.parentsBefore g).trans_lt h.lt
  refine ⟨hlt, ?_, ?_⟩
  · rw [lookupDotDot]
    dsimp only
    split
    · rfl
    · split <;> rfl
  · have hobj := h.objectid hdir
    rw [lookupDotDot]
    dsimp only
    split
    · exact fun _ => ⟨rfl, rfl⟩
    · next hmod =>
      split
      · next hdev =>
        intro hstatic
        rw [show Sfstype.isDynamic _ = true from by rw [hdev.1]; rfl] at hstatic
        cases hstatic
      · next hdev =>
        -- here the directory has neither a registry id nor an object id
        intro _
        have hreg : dir.nodeId.nodeidRegid = 0 := by
          by_cases hd : (t.node dir.nodeStructureNode).ssnNodeType = .SFSdevice
          · by_contra hne
            exact hdev ⟨hd, hne⟩
          · refine h.regid hdir hd fun hm => hmod ⟨hm, ?_⟩
            exact decide_eq_true hobj
        constructor
        · show (if _ then dir.nodeId.nodeidRegid else sysfsNoRegid) = sysfsNoRegid
          rw [hreg]
          split <;> rfl
        · show (if _ then dir.nodeId.nodeidObjectid else sysfsNoObjectid) = sysfsNoObjectid
          rw [hobj]
          split <;> rfl

omit ht in
theorem found_nodeOk {nm : CStr} {k : ℕ} {id : Sfsid} {snode : ℕ}
    (hfound : Found t g dir nm k (id, snode)) : NodeOk t ⟨dir.nodeMntId, id, snode⟩ := by
  have hobj := h.objectid hdir
  cases hfound with
  | module _ _ hmod =>
    have ⟨hlt, _, htype⟩ := Tree.childOfType_spec hmod
    exact ⟨hlt, rfl, fun hs => by rw [htype] at hs; cases hs⟩
  | moduleAttr _ hmod => exact ⟨h.lt, rfl, fun hs => by rw [hmod.1] at hs; cases hs⟩
  | classMember _ _ _ _ hlink =>
    have ⟨hlt, _, htype⟩ := Tree.childOfType_spec hlink
    exact ⟨hlt, rfl, fun hs => by rw [htype] at hs; cases hs⟩
  | deviceStatic _ _ hc => exact ⟨(Tree.childNamed_spec hc).1, rfl, fun _ => ⟨rfl, rfl⟩⟩
  | deviceAttr hdev | deviceChild hdev =>
    exact ⟨h.lt, rfl, fun hs => by rw [hdev] at hs; cases hs⟩
  | static _ hnomod _ hnodev hc =>
    refine ⟨(Tree.childNamed_spec hc).1, rfl, fun _ => ⟨h.regid hdir hnodev fun hmt => ?_, hobj⟩⟩
    exact hnomod ⟨hmt, decide_eq_true hobj⟩

end Lookup

/-- The name that a lookup of `cn` compares with, which is at most 255 bytes of it. -/
def lookupName (cn : CStr) : CStr := strlcpy cn (min (nameMax + 1) (cn.length + 1))

theorem lookupName_of_le {cn : CStr} (h : cn.length ≤ nameMax) : lookupName cn = cn :=
  strlcpy_of_fits (by omega)

theorem lookupName_eq_iff {cn nm : CStr} (h : nm.length < nameMax) :
    lookupName cn = nm ↔ cn = nm := by
  by_cases hle : cn.length ≤ nameMax
  · rw [lookupName_of_le hle]
  · have hlen : (lookupName cn).length = nameMax := by
      rw [lookupName, strlcpy, List.length_take]
      omega
    constructor
    · intro heq
      rw [heq] at hlen
      omega
    · intro heq
      rw [heq] at hle
      omega

inductive LookedUp (t : Tree) (g : GSnapshot) (dir : Sfsnode) (cn : CStr) : Sfsnode → Prop where
  | dotdot (hcn : cn = cstr "..") :
    LookedUp t g dir cn ⟨dir.nodeMntId, (lookupDotDot t g dir).1, (lookupDotDot t g dir).2⟩
  | dot (hcn : cn = cstr ".") : LookedUp t g dir cn dir
  | found {id : Sfsid} {snode : ℕ} (hdotdot : cn ≠ cstr "..") (hdot : cn ≠ cstr ".")
      (hfound : Found t g dir (lookupName cn) cn.length (id, snode)) :
    LookedUp t g dir cn ⟨dir.nodeMntId, id, snode⟩

theorem lookup_spec {t : Tree} {g : GSnapshot} {dir r : Sfsnode} {cn : CStr}
    (hl : sysfsVnopLookup t g dir cn = .ok r) :
    vnodeVtype t dir = .VDIR ∧ LookedUp t g dir cn r := by
  rw [sysfsVnopLookup] at hl
  split at hl
  · cases hl
  · next hok =>
    refine ⟨by_contra fun hne => hok (Or.inl hne), ?_⟩
    dsimp only at hl
    split at hl
    · next hcn =>
      cases hl
      exact .dotdot hcn
    · next hdotdot =>
      split at hl
      · next hname =>
        cases hl
        exact .dot ((lookupName_eq_iff (by decide)).mp hname)
      · next hname =>
        split at hl
        · next hm =>
          cases hl
          refine .found hdotdot (fun heq => hname ?_) (lookupMatch_found hm)
          exact (lookupName_eq_iff (by decide)).mpr heq
        · cases hl

theorem lookup_nodeOk {t : Tree} (ht : TreeOk t) {g : GSnapshot} {dir r : Sfsnode} {cn : CStr}
    (h : NodeOk t dir) (hl : sysfsVnopLookup t g dir cn = .ok r) : NodeOk t r := by
  have ⟨hdir, hr⟩ := lookup_spec hl
  cases hr with
  | dotdot => exact lookupDotDot_nodeOk ht h hdir
  | dot => exact h
  | found _ _ hfound => exact found_nodeOk h hdir hfound

/-- The node is reached from the root of the mount `mnt` by lookups in the snapshot. -/
def Reachable (t : Tree) (g : GSnapshot) (mnt : Int32) (n : Sfsnode) : Prop :=
  ∃ path, resolve t g (sysfsRoot mnt) path = .ok n

theorem nodeOk_resolve {t : Tree} (ht : TreeOk t) {g : GSnapshot} {dir n : Sfsnode}
    {path : List CStr} (h : NodeOk t dir) (hr : resolve t g dir path = .ok n) : NodeOk t n := by
  induction path generalizing dir with
  | nil =>
    cases hr
    exact h
  | cons cn path ih =>
    rw [resolve] at hr
    cases hl : sysfsVnopLookup t g dir cn with
    | error e =>
      rw [hl] at hr
      cases hr
    | ok r =>
      rw [hl] at hr
      exact ih (lookup_nodeOk ht h hl) hr

theorem Reachable.nodeOk {start : UInt16} {ncpu : UInt32} {g : GSnapshot} {mnt : Int32}
    {n : Sfsnode} (h : Reachable (builtTree start ncpu) g mnt n) :
    NodeOk (builtTree start ncpu) n := by
  have ⟨path, hr⟩ := h
  have hlt := (builtTree_treeOk start ncpu).nonempty
  have hroot : NodeOk (builtTree start ncpu) (sysfsRoot mnt) :=
    ⟨hlt, (builtTree_root_id start ncpu).symm, fun _ => ⟨rfl, rfl⟩⟩
  exact nodeOk_resolve (builtTree_treeOk start ncpu) hroot hr

end SysFS
