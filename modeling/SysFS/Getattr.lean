import SysFS.LinkTargets
import SysFS.System

namespace SysFS
open ByteMemory CString

def sysfsDeviceAttrSize (g : GSnapshot) (snp : Sfsnode) (stack : Memory) : ℕ :=
  if snp.nodeId.nodeidObjectid = sysfsDevAttrName then
    (sysfsIokitName g snp.nodeId.nodeidRegid stack (sysfsAttrValueMax - 1)).2 + 1
  else 0

def sysfsModuleAttrSize (g : GSnapshot) (snp : Sfsnode) (stack : Memory) : ℕ :=
  let n := (sysfsModuleFormatAttr g snp snp.nodeId.nodeidObjectid stack sysfsAttrValueMax).2
  if n ≤ 0 then 0
  else if n > .ofNat (sysfsAttrValueMax - 1) then sysfsAttrValueMax - 1
  else n.toInt.toNat

/-- `sysfs_get_node_size_attr`, where no node has a size function. -/
def sysfsGetNodeSizeAttr (t : Tree) (snp : Sfsnode) : ℕ :=
  let nodeType := (t.node snp.nodeStructureNode).ssnNodeType
  let snode :=
    if nodeType = .SFSdirthis then t.parentOrSelf snp.nodeStructureNode
    else if nodeType = .SFSdirparent then
      let parent := t.parentOrSelf snp.nodeStructureNode
      if (t.node parent).ssnNodeType ≠ .SFSroot then t.parentOrSelf parent else parent
    else snp.nodeStructureNode
  if sysfsIsDirectoryType nodeType then ((t.ssnChildren snode).map fun _ => 1).sum
  else (t.node snode).ssnNodeSize

/-- The `va_data_size` that `sysfs_vnop_getattr` returns. -/
def vaDataSize (t : Tree) (g : GSnapshot) (snp : Sfsnode) (stack : Memory) : ℕ :=
  let nodeType := (t.node snp.nodeStructureNode).ssnNodeType
  if nodeType = .SFSdevice then
    if sysfsDevIsDir snp.nodeId.nodeidObjectid then 0 else sysfsDeviceAttrSize g snp stack
  else if nodeType = .SFSmodule then
    if sysfsModIsDir snp.nodeId.nodeidObjectid then 0 else sysfsModuleAttrSize g snp stack
  else if nodeType = .SFSlink then
    ((sysfsLinkTarget t g snp sysfsLinkTargetMax).map List.length).getD 0
  else sysfsGetNodeSizeAttr t snp

/-- The structure nodes of files have a read function, and a stored size is the length of an
always-zero count. -/
def fileOk (child _parent : Sfssnode) : Bool :=
  child.ssnNodeType = .SFSfile → child.ssnReadDataFn.isSome ∧
    (child.ssnNodeSize = 0 ∨ child.ssnNodeSize = sysfsZeroCountLen ∧
      child.ssnReadDataFn = some .sysfsDoZeroCount)

theorem fileOk_treeShape {n : ℕ} (hn : n ≤ sysfsMaxCpuNodes) : Local fileOk (treeShape n) := by
  have hcpu : ∀ c < sysfsMaxCpuNodes, Local fileOk (cpuArena c) := by decide +kernel
  exact treeShape_local hn (by decide +kernel) (fun c hc => hcpu c (by omega)) (by decide +kernel)

theorem builtTree_file {start : UInt16} {ncpu : UInt32} {i : ℕ}
    (hi : i < (builtTree start ncpu).nodes.length)
    (htype : ((builtTree start ncpu).node i).ssnNodeType = .SFSfile) :
    ∃ fn, ((builtTree start ncpu).node i).ssnReadDataFn = some fn ∧
      (((builtTree start ncpu).node i).ssnNodeSize = 0 ∨
        ((builtTree start ncpu).node i).ssnNodeSize = sysfsZeroCountLen ∧
          fn = .sysfsDoZeroCount) := by
  have hpos : 0 < i := by
    by_contra hzero
    obtain rfl : i = 0 := by omega
    cases htype.symm.trans (builtTree_treeOk start ncpu).rootType
  obtain ⟨p, -, -, hok⟩ := builtTree_local start (fileOk_treeShape (cpuNodes_le ncpu)) hi hpos
  rw [fileOk, decide_eq_true_eq] at hok
  obtain ⟨hsome, hsize⟩ := hok htype
  obtain ⟨fn, hfn⟩ := Option.isSome_iff_exists.mp hsome
  refine ⟨fn, hfn, hsize.imp_right fun h => ⟨h.1, ?_⟩⟩
  exact Option.some_inj.mp (hfn.symm.trans h.2)

/-- A node that lookups reach: its object id is that of a directory or of an attribute, and it
does not stand for a dot entry. -/
structure KnownNode (t : Tree) (n : Sfsnode) : Prop where
  device : (t.node n.nodeStructureNode).ssnNodeType = .SFSdevice →
    n.nodeId.nodeidObjectid = 0 ∨ n.nodeId.nodeidObjectid = sysfsDevAttrName
  module : (t.node n.nodeStructureNode).ssnNodeType = .SFSmodule →
    n.nodeId.nodeidObjectid = 0 ∨ n.nodeId.nodeidObjectid ∈ sysfsModAttrs.map Prod.snd
  type : (t.node n.nodeStructureNode).ssnNodeType ∉
    [Sfstype.SFSdirthis, .SFSdirparent, .SFSsubsystem, .SFSattr]

section Known
variable {t : Tree} (ht : TreeOk t) {g : GSnapshot}
include ht

theorem parentOrSelf_type {p : ℕ} (hlt : p < t.nodes.length)
    (h : (t.node p).ssnNodeType ∉ [Sfstype.SFSdirthis, .SFSdirparent, .SFSsubsystem, .SFSattr]) :
    (t.node (t.parentOrSelf p)).ssnNodeType ∉
      [Sfstype.SFSdirthis, .SFSdirparent, .SFSsubsystem, .SFSattr] := by
  rw [Tree.parentOrSelf]
  cases hp : (t.node p).ssnParent with
  | none => exact h
  | some q =>
    have htype := ht.parentType hlt hp
    rw [Option.getD_some]
    simp only [List.mem_cons, List.not_mem_nil, or_false] at htype
    rcases htype with htype | htype | htype <;> rw [htype] <;> decide

theorem lookupDotDot_known {dir : Sfsnode} (hok : NodeOk t dir) (h : KnownNode t dir)
    (hdir : vnodeVtype t dir = .VDIR) :
    KnownNode t ⟨dir.nodeMntId, (lookupDotDot t g dir).1, (lookupDotDot t g dir).2⟩ := by
  have hzero : (lookupDotDot t g dir).1.nodeidObjectid = 0 := by
    rw [lookupDotDot]
    dsimp only
    split
    · rfl
    · split
      · rfl
      · show (if _ then dir.nodeId.nodeidObjectid else sysfsNoObjectid) = 0
        rw [hok.objectid hdir]
        split <;> rfl
  refine ⟨fun _ => Or.inl hzero, fun _ => Or.inl hzero, ?_⟩
  rw [lookupDotDot]
  dsimp only
  split
  · exact parentOrSelf_type ht hok.lt h.type
  · split
    · exact h.type
    · exact parentOrSelf_type ht hok.lt h.type

theorem lookup_known {dir n : Sfsnode} {cn : CStr} (hok : NodeOk t dir) (h : KnownNode t dir)
    (hl : sysfsVnopLookup t g dir cn = .ok n) : KnownNode t n := by
  obtain ⟨hdir, hr⟩ := lookup_spec hl
  have hobj := hok.objectid hdir
  cases hr with
  | dotdot => exact lookupDotDot_known ht hok h hdir
  | dot => exact h
  | found hdotdot hdot hfound =>
    cases hfound with
    | module _ _ hmod =>
      obtain ⟨-, -, htype⟩ := Tree.childOfType_spec hmod
      exact ⟨fun _ => Or.inl rfl, fun _ => Or.inl rfl, by rw [htype]; decide⟩
    | moduleAttr _ hmod hattr =>
      refine ⟨fun hdev => ?_, fun _ => Or.inr ?_, h.type⟩
      · cases hdev.symm.trans hmod.1
      · exact List.mem_map_of_mem (attrNamed_mem hattr)
    | classMember _ _ _ _ hlink =>
      obtain ⟨-, -, htype⟩ := Tree.childOfType_spec hlink
      exact ⟨fun _ => Or.inl rfl, fun _ => Or.inl rfl, by rw [htype]; decide⟩
    | deviceStatic hdev _ hc =>
      obtain ⟨hlt, hp, -⟩ := Tree.childNamed_spec hc
      have htype := (ht.kind hlt hp).device_child hdev
      exact ⟨fun _ => Or.inl rfl, fun _ => Or.inl rfl, by rw [htype]; decide⟩
    | deviceAttr hdev _ hattr =>
      have hone : ∀ a ∈ sysfsDevAttrs, a.2 = sysfsDevAttrName := by decide
      refine ⟨fun _ => Or.inr (hone _ (attrNamed_mem hattr)), fun hmod => ?_, h.type⟩
      cases hdev.symm.trans hmod
    | deviceChild => exact ⟨fun _ => Or.inl rfl, fun _ => Or.inl rfl, h.type⟩
    | static _ _ _ _ hc =>
      obtain ⟨hlt, hp, hname⟩ := Tree.childNamed_spec hc
      have hkind := ht.kind hlt hp
      refine ⟨fun _ => Or.inl hobj, fun _ => Or.inl hobj, ?_⟩
      -- the names of the dot entries are taken before the children are searched
      have hthis : (t.node _).ssnNodeType ≠ .SFSdirthis := fun htype =>
        hdot ((lookupName_eq_iff (by decide)).mp (hname.symm.trans (hkind.dot_iff.mp htype)))
      have hparent : (t.node _).ssnNodeType ≠ .SFSdirparent := fun htype =>
        hdotdot ((lookupName_eq_iff (by decide)).mp (hname.symm.trans (hkind.dotdot_iff.mp htype)))
      have hother := hkind.childType
      simp only [List.mem_cons, List.not_mem_nil, or_false, not_or] at hother ⊢
      exact ⟨hthis, hparent, hother.2.1, hother.2.2⟩

end Known

theorem Reachable.known {start : UInt16} {ncpu : UInt32} {g : GSnapshot} {mnt : Int32}
    {n : Sfsnode} (h : Reachable (builtTree start ncpu) g mnt n) :
    KnownNode (builtTree start ncpu) n := by
  have ht := builtTree_treeOk start ncpu
  have hroot : KnownNode (builtTree start ncpu) (sysfsRoot mnt) := by
    have htype : ((builtTree start ncpu).node (sysfsRoot mnt).nodeStructureNode).ssnNodeType =
        .SFSroot := ht.rootType
    exact ⟨fun _ => Or.inl rfl, fun _ => Or.inl rfl, by rw [htype]; decide⟩
  -- along the path, the node is known and has a place in the tree
  have hpath : ∀ path dir, NodeOk (builtTree start ncpu) dir →
      KnownNode (builtTree start ncpu) dir →
      resolve (builtTree start ncpu) g dir path = .ok n → KnownNode (builtTree start ncpu) n := by
    intro path
    induction path with
    | nil =>
      intro dir _ hknown hr
      cases hr
      exact hknown
    | cons cn path ih =>
      intro dir hok hknown hr
      rw [resolve] at hr
      cases hl : sysfsVnopLookup (builtTree start ncpu) g dir cn with
      | error e =>
        rw [hl] at hr
        cases hr
      | ok r =>
        rw [hl] at hr
        exact ih r (lookup_nodeOk ht hok hl) (lookup_known ht hok hknown hl) hr
  obtain ⟨path, hr⟩ := h
  have hok : Reachable (builtTree start ncpu) g mnt (sysfsRoot mnt) := ⟨[], rfl⟩
  exact hpath path _ hok.nodeOk hroot hr

theorem sysfsDeviceAttrSize_eq (g : GSnapshot) (snp : Sfsnode) (stack : Memory)
    (hobj : snp.nodeId.nodeidObjectid = sysfsDevAttrName) :
    sysfsDeviceAttrSize g snp stack = (deviceNameText g snp.nodeId.nodeidRegid).length := by
  rw [sysfsDeviceAttrSize, if_pos hobj]
  simp only [sysfsIokitName, deviceNameText]
  split
  · rw [List.length_append]
    rfl
  · rfl

theorem sysfsModuleAttrSize_eq (g : GSnapshot) (snp : Sfsnode) (stack : Memory) :
    sysfsModuleAttrSize g snp stack =
      (moduleAttrText g snp.nodeId.nodeidRegid snp.nodeId.nodeidObjectid).length := by
  obtain ⟨hshort, mem, hformat, -⟩ :=
    moduleFormatAttr_eq g snp snp.nodeId.nodeidObjectid stack
  rw [sysfsModuleAttrSize, hformat]
  generalize moduleAttrText g snp.nodeId.nodeidRegid snp.nodeId.nodeidObjectid = text at hshort ⊢
  rw [sysfsAttrValueMax] at hshort
  have hlen : (Int32.ofNat text.length).toInt = text.length :=
    Int32.toInt_ofNat_of_lt (by omega)
  have hmax : (Int32.ofNat (sysfsAttrValueMax - 1)).toInt = 255 :=
    Int32.toInt_ofNat_of_lt (by decide)
  dsimp only
  split
  · next hnone =>
    rw [Int32.le_iff_toInt_le, hlen, Int32.toInt_zero] at hnone
    omega
  · have hclamp : ¬Int32.ofNat text.length > .ofNat (sysfsAttrValueMax - 1) := by
      rw [gt_iff_lt, Int32.lt_iff_toInt_lt, hlen, hmax]
      omega
    rw [if_neg hclamp, hlen, Int.toNat_natCast]

theorem sysfsGetNodeSizeAttr_eq {t : Tree} {n : Sfsnode} (h : KnownNode t n) :
    sysfsGetNodeSizeAttr t n =
      if sysfsIsDirectoryType (t.node n.nodeStructureNode).ssnNodeType then
        (t.ssnChildren n.nodeStructureNode).length
      else (t.node n.nodeStructureNode).ssnNodeSize := by
  have htype := h.type
  simp only [List.mem_cons, List.not_mem_nil, or_false, not_or] at htype
  rw [sysfsGetNodeSizeAttr, if_neg htype.1, if_neg htype.2.1]
  simp

theorem dirEntries_static_length {t : Tree} (ht : TreeOk t) {g : GSnapshot} {dir : Sfsnode}
    (hs : ListedAsStatic t dir) :
    (dirEntries t g dir).length = (t.ssnChildren dir.nodeStructureNode).length := by
  rw [dirEntries_static hs]
  have hsome : ∀ c ∈ t.ssnChildren dir.nodeStructureNode, (staticEntry t dir c).isSome := by
    intro c hc
    obtain ⟨hlt, hp⟩ := mem_ssnChildren.mp hc
    have htype := (ht.kind hlt hp).childType
    rw [staticEntry]
    cases hct : (t.node c).ssnNodeType with
    | SFSroot =>
      rw [hct] at htype
      simp at htype
    | _ => rfl
  rw [List.reduceOption_length_eq_iff.mpr, List.length_map]
  intro x hx
  obtain ⟨c, hc, rfl⟩ := List.mem_map.mp hx
  exact hsome c hc

def fileText (ctl : Sysctls) (t : Tree) (g : GSnapshot) (n : Sfsnode) : List UInt8 :=
  match (t.node n.nodeStructureNode).ssnNodeType with
  | .SFSdevice => deviceNameText g n.nodeId.nodeidRegid
  | .SFSmodule => moduleAttrText g n.nodeId.nodeidRegid n.nodeId.nodeidObjectid
  | _ => ((t.node n.nodeStructureNode).ssnReadDataFn.map fun fn => systemText ctl t fn n).getD []

/-- A file that lookups reach reads as its text, also with a snapshot published later. -/
theorem file_renders {ctl : Sysctls} (hfits : (sysfsNcpu ctl).toNat ≤ 1792) {start : UInt16}
    {ncpu : UInt32} {n : Sfsnode} (hok : NodeOk (builtTree start ncpu) n)
    (hknown : KnownNode (builtTree start ncpu) n)
    (hreg : vnodeVtype (builtTree start ncpu) n = .VREG) (g : GSnapshot) :
    Renders (sysfsVnopRead (systemReadData ctl (builtTree start ncpu)) (builtTree start ncpu) g n)
      (fileText ctl (builtTree start ncpu) g n) := by
  have hfile : ((builtTree start ncpu).node n.nodeStructureNode).ssnNodeType = .SFSfile →
      ∃ fn, ((builtTree start ncpu).node n.nodeStructureNode).ssnReadDataFn = some fn :=
    fun htype => (builtTree_file hok.lt htype).imp fun _ h => h.1
  generalize builtTree start ncpu = t at hknown hreg hfile ⊢
  rw [vnodeVtype] at hreg
  rw [fileText]
  cases htype : (t.node n.nodeStructureNode).ssnNodeType with rw [htype] at hreg
  | SFSdevice =>
    have hobj : n.nodeId.nodeidObjectid = sysfsDevAttrName := by
      refine (hknown.device htype).resolve_left fun hzero => ?_
      rw [hzero] at hreg
      cases hreg
    exact (FileContent.device htype hobj).renders
  | SFSmodule =>
    have hobj : n.nodeId.nodeidObjectid ∈ sysfsModAttrs.map Prod.snd := by
      refine (hknown.module htype).resolve_left fun hzero => ?_
      rw [hzero] at hreg
      cases hreg
    exact (FileContent.module htype hobj).renders
  | SFSfile =>
    obtain ⟨fn, hfn⟩ := hfile htype
    rw [hfn]
    exact system_file_renders hfits g htype hfn
  | SFSattr =>
    have htypes := hknown.type
    rw [htype] at htypes
    simp at htypes
  | _ => cases hreg

/-- What a size says about a node. A file whose size is not stored with its structure node,
and is rendered at a read, has size 0. -/
structure SizeAgrees (ctl : Sysctls) (t : Tree) (g : GSnapshot) (n : Sfsnode) (size : ℕ) :
    Prop where
  file : vnodeVtype t n = .VREG → ∃ content,
    Renders (sysfsVnopRead (systemReadData ctl t) t g n) content ∧
      (size = content.length ∨ size = 0 ∧
        (t.node n.nodeStructureNode).ssnNodeType = .SFSfile ∧
        (t.node n.nodeStructureNode).ssnNodeSize = 0)
  link : vnodeVtype t n = .VLNK →
    size = ((sysfsVnopReadlink t g n).toOption.map List.length).getD 0
  dir : vnodeVtype t n = .VDIR → ListedAsStatic t n → size = (dirEntries t g n).length
  dynamicDir : vnodeVtype t n = .VDIR →
    (t.node n.nodeStructureNode).ssnNodeType.isDynamic = true → size = 0

/-- The size of every node that can be reached agrees with what is read from it: with the bytes
of an attribute, of a stored count or of the target of a link, and with the entries of a
directory that is listed from the structure tree. -/
theorem sizes_agree {ctl : Sysctls} (hfits : (sysfsNcpu ctl).toNat ≤ 1792) {start : UInt16}
    {ncpu : UInt32} {g : GSnapshot} {mnt : Int32} {n : Sfsnode}
    (hn : Reachable (builtTree start ncpu) g mnt n) (stack : Memory) :
    SizeAgrees ctl (builtTree start ncpu) g n (vaDataSize (builtTree start ncpu) g n stack) := by
  have ht := builtTree_treeOk start ncpu
  have hok := hn.nodeOk
  have hknown := hn.known
  have hrenders := file_renders hfits hok hknown
  have hcounts : ((builtTree start ncpu).node n.nodeStructureNode).ssnNodeType = .SFSfile → _ :=
    builtTree_file hok.lt
  generalize builtTree start ncpu = t at ht hok hknown hrenders hcounts ⊢
  refine ⟨fun hreg => ?_, fun hlnk => ?_, fun hdir hs => ?_, fun hdir hdyn => ?_⟩
  · refine ⟨_, hrenders hreg g, ?_⟩
    rw [vnodeVtype] at hreg
    rw [fileText]
    cases htype : (t.node n.nodeStructureNode).ssnNodeType with rw [htype] at hreg
    | SFSdevice =>
      have hdir : sysfsDevIsDir n.nodeId.nodeidObjectid = false := by
        simpa using hreg
      have hobj : n.nodeId.nodeidObjectid = sysfsDevAttrName := by
        refine (hknown.device htype).resolve_left fun hzero => ?_
        rw [hzero] at hdir
        cases hdir
      left
      rw [vaDataSize, if_pos htype, if_neg (by rw [hdir]; simp), sysfsDeviceAttrSize_eq _ _ _ hobj]
    | SFSmodule =>
      have hdir : sysfsModIsDir n.nodeId.nodeidObjectid = false := by
        simpa using hreg
      left
      rw [vaDataSize, htype, if_neg (by simp), if_pos rfl, if_neg (by rw [hdir]; simp),
        sysfsModuleAttrSize_eq]
    | SFSfile =>
      obtain ⟨fn, hfn, hcount⟩ := hcounts htype
      have hsize : vaDataSize t g n stack = (t.node n.nodeStructureNode).ssnNodeSize := by
        rw [vaDataSize, htype, if_neg (by simp), if_neg (by simp), if_neg (by simp),
          sysfsGetNodeSizeAttr_eq hknown, htype]
        rfl
      rw [hsize, hfn]
      obtain hzero | ⟨hlen, rfl⟩ := hcount
      · exact Or.inr ⟨hzero, rfl, hzero⟩
      · exact Or.inl hlen
    | SFSattr =>
      have htypes := hknown.type
      rw [htype] at htypes
      simp at htypes
    | _ => cases hreg
  · have htype := type_of_vlnk hlnk
    rw [vaDataSize, htype, if_neg (by simp), if_neg (by simp), if_pos rfl, sysfsVnopReadlink,
      if_pos htype]
    cases sysfsLinkTarget t g n sysfsLinkTargetMax <;> rfl
  · rw [dirEntries_static_length ht hs]
    have hlink : (t.node n.nodeStructureNode).ssnNodeType ≠ .SFSlink := by
      intro htype
      rw [vnodeVtype, htype] at hdir
      cases hdir
    rw [vaDataSize, if_neg hs.device, if_neg hs.module, if_neg hlink,
      sysfsGetNodeSizeAttr_eq hknown, if_pos]
    rw [vnodeVtype] at hdir
    cases htype : (t.node n.nodeStructureNode).ssnNodeType with rw [htype] at hdir
    | SFSmodule => exact absurd htype hs.module
    | SFSfile | SFSattr | SFSlink => cases hdir
    | _ => rfl
  · rw [vnodeVtype] at hdir
    cases htype : (t.node n.nodeStructureNode).ssnNodeType with rw [htype] at hdir hdyn
    | SFSdevice =>
      have hisdir : sysfsDevIsDir n.nodeId.nodeidObjectid = true := by
        simpa using hdir
      rw [vaDataSize, if_pos htype, if_pos hisdir]
    | SFSmodule =>
      have hisdir : sysfsModIsDir n.nodeId.nodeidObjectid = true := by
        simpa using hdir
      rw [vaDataSize, htype, if_neg (by simp), if_pos rfl, if_pos hisdir]
    | SFSlink => cases hdir
    | _ => cases hdyn

/-- A count that is always zero has its size with it. -/
theorem nr_hugepages_size : ∃ n, Reachable (builtTree 2 1) none 1 n ∧
    vaDataSize (builtTree 2 1) none n (fun _ => 0) = 2 ∧
      SizeAgrees ⟨some 1, none, none⟩ (builtTree 2 1) none n 2 := by
  have hrun : (resolve (builtTree 2 1) none (sysfsRoot 1)
      [cstr "kernel", cstr "mm", cstr "hugepages", cstr "hugepages-2048kB",
        cstr "nr_hugepages"]).toOption.any fun n =>
      decide (vaDataSize (builtTree 2 1) none n (fun _ => 0) = 2) := by
    decide +kernel
  obtain ⟨n, hn, hsize⟩ := exists_ok_of_any hrun
  have hreach : Reachable (builtTree 2 1) none 1 n := ⟨_, hn⟩
  have heq := of_decide_eq_true hsize
  exact ⟨n, hreach, heq, heq ▸ sizes_agree (by decide) hreach fun _ => 0⟩

end SysFS
