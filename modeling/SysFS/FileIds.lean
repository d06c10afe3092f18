import SysFS.EntryLookup
import SysFS.LinkTargets

namespace SysFS
open CString

abbrev EntryId := UInt64 × UInt64

def EntryId.fileid (base : UInt16) (id : EntryId) : UInt64 := sysfsGetFileid id.1 id.2 base

/-- The object id lies over the bits from 16 on of the registry id. -/
def EntryId.overlaid (id : EntryId) : UInt64 := id.1 ||| id.2 <<< 16

theorem EntryId.overlaid_zero (r : UInt64) : overlaid (r, 0) = r := by
  rw [overlaid, UInt64.zero_shiftLeft, UInt64.or_zero]

theorem nodup_fileid_iff {base : UInt16} {ids : List EntryId} :
    (ids.map (EntryId.fileid base)).Nodup ↔
      ids.Pairwise fun x y => ¬ShownAlike base x.overlaid y.overlaid := by
  simp only [List.Nodup, List.pairwise_map, EntryId.fileid, ne_eq, sysfsGetFileid_eq_iff,
    EntryId.overlaid]

theorem EntryId.fileid_ne {b b' : UInt16} (h : b.toNat % 2 ^ 8 ≠ b'.toNat % 2 ^ 8)
    (x y : EntryId) : x.fileid b ≠ y.fileid b' := by
  intro heq
  apply h
  rw [← sysfsGetFileid_mod x.1 x.2 b, ← sysfsGetFileid_mod y.1 y.2 b']
  exact congrArg (fun id : UInt64 => id.toNat % 2 ^ 8) heq

section ObjectIds

theorem or_eq_of_bit {x b : UInt64} {k : ℕ} (hb : b.toBitVec = BitVec.twoPow 64 k)
    (h : x &&& b ≠ 0) : x ||| b = x := by
  have hand : x &&& b = b := by
    apply UInt64.toBitVec_inj.mp
    have hcases := BitVec.and_twoPow x.toBitVec k
    rw [← hb] at hcases
    split at hcases
    · rw [UInt64.toBitVec_and, hcases]
    · exact absurd (UInt64.toBitVec_inj.mp (by rw [UInt64.toBitVec_and, hcases]; rfl)) h
  apply UInt64.toBitVec_inj.mp
  rw [← hand]
  ext i hi
  simp only [UInt64.toBitVec_or, UInt64.toBitVec_and, BitVec.getElem_or, BitVec.getElem_and]
  cases x.toBitVec[i] <;> rfl

theorem and_or_distrib (x y z : UInt64) : x &&& (y ||| z) = x &&& y ||| x &&& z := by
  apply UInt64.toBitVec_inj.mp
  ext i hi
  simp [Bool.and_or_distrib_left]

theorem shiftLeft_objectid (o : UInt64) : o <<< 16 <<< 8 = o <<< 24 := by
  apply UInt64.toNat_inj.mp
  have h8 : (8 : UInt64).toNat % 64 = 8 := rfl
  have h16 : (16 : UInt64).toNat % 64 = 16 := rfl
  have h24 : (24 : UInt64).toNat % 64 = 24 := rfl
  simp only [UInt64.toNat_shiftLeft, h8, h16, h24, Nat.shiftLeft_eq]
  omega

theorem shown_objectid (base : UInt16) (o : UInt64) :
    (o <<< 16 &&& ~~~hiddenBits base) <<< 8 = o <<< 24 := by
  -- no bit of an object id meets the base id
  rw [← shiftLeft_and_not, shiftLeft_objectid]
  apply UInt64.toBitVec_inj.mp
  apply BitVec.eq_of_getLsbD_eq
  intro i hi
  simp only [UInt64.toBitVec_and, UInt64.toBitVec_not, UInt16.toBitVec_toUInt64,
    UInt64.toBitVec_shiftLeft, BitVec.getLsbD_and, BitVec.getLsbD_not, BitVec.getLsbD_setWidth]
  by_cases h24 : i < 24
  · simp [h24]
  · have hhigh : base.toBitVec.getLsbD i = false := BitVec.getLsbD_of_ge _ _ (by omega)
    simp [hhigh, hi]

theorem ShownAlike.and_not {base : UInt16} {x y : UInt64} (h : ShownAlike base x y) (z : UInt64) :
    ShownAlike base (x &&& ~~~z) (y &&& ~~~z) := by
  have hpull : ∀ x : UInt64, (x &&& ~~~z &&& ~~~hiddenBits base) <<< 8 =
      (x &&& ~~~hiddenBits base) <<< 8 &&& (~~~z) <<< 8 := by
    intro x
    rw [← UInt64.shiftLeft_and]
    congr 1
    ac_rfl
  rw [ShownAlike, hpull, hpull, h]

theorem objectid_eq_of_alike {base : UInt16} {r o o' : UInt64} (ho : r &&& o <<< 16 = 0)
    (ho' : r &&& o' <<< 16 = 0) (h : ShownAlike base (r ||| o <<< 16) (r ||| o' <<< 16)) :
    o <<< 24 = o' <<< 24 := by
  have hclear : ∀ {z : UInt64}, r &&& z = 0 → (r ||| z) &&& ~~~r = z := by
    intro z hz
    rw [or_and_not_left]
    apply UInt64.toBitVec_inj.mp
    ext i hi
    have hbit : (r.toBitVec[i] && z.toBitVec[i]) = false := by
      have hzero := congrArg (fun b : UInt64 => b.toBitVec.getLsbD i) hz
      simpa [hi] using hzero
    simp only [UInt64.toBitVec_and, UInt64.toBitVec_not, BitVec.getElem_and, BitVec.getElem_not]
    cases hri : r.toBitVec[i] with
    | false => simp
    | true => simpa [hri] using hbit
  have halike := h.and_not r
  rw [hclear ho, hclear ho', ShownAlike, shown_objectid, shown_objectid] at halike
  exact halike

/-- Object ids that are told apart over every id without their bits: no two are the same in a
file id, and with each one its bits are object ids as well. -/
structure Separable (objids : List UInt64) : Prop where
  distinct : (0 :: objids).Pairwise fun o o' : UInt64 => o <<< 24 ≠ o' <<< 24
  bits : ∀ o ∈ objids, ∀ r : UInt64, r &&& o <<< 16 ≠ 0 → ∃ b ∈ objids, r ||| b <<< 16 = r

/-- The directory and its attribute files are told apart exactly when the own id has no bit that
an object id sets. -/
theorem separable_pairwise_iff {base : UInt16} {objids : List UInt64} (h : Separable objids)
    (r : UInt64) :
    ((r, 0) :: objids.map fun o => (r, o)).Pairwise
        (fun x y : EntryId => ¬ShownAlike base x.overlaid y.overlaid) ↔
      ∀ o ∈ objids, r &&& o <<< 16 = 0 := by
  constructor
  · intro hpair o ho
    by_contra hbit
    obtain ⟨b, hb, hsame⟩ := h.bits o ho r hbit
    have hne := (List.pairwise_cons.mp hpair).1 (r, b) (List.mem_map_of_mem hb)
    apply hne
    rw [EntryId.overlaid_zero, EntryId.overlaid, hsame]
    rfl
  · intro hbits
    have hzero : r &&& (0 : UInt64) <<< 16 = 0 := by
      rw [UInt64.zero_shiftLeft, UInt64.and_zero]
    have hall : ∀ o ∈ (0 : UInt64) :: objids, r &&& o <<< 16 = 0 :=
      List.forall_mem_cons.mpr ⟨hzero, hbits⟩
    show (((0 : UInt64) :: objids).map fun o => (r, o)).Pairwise _
    rw [List.pairwise_map]
    refine h.distinct.imp_of_mem fun ho ho' hne halike => hne ?_
    exact objectid_eq_of_alike (hall _ ho) (hall _ ho') halike

theorem separable_nil : Separable [] := ⟨by simp, by simp⟩

theorem separable_devAttrs : Separable (sysfsDevAttrs.map Prod.snd) := by
  refine ⟨by decide, fun o ho r hbit => ?_⟩
  obtain rfl : o = 1 := by simpa [sysfsDevAttrs] using ho
  exact ⟨1, ho, or_eq_of_bit (k := 16) (by decide) hbit⟩

theorem separable_modAttrs : Separable (sysfsModAttrs.map Prod.snd) := by
  refine ⟨by decide, fun o ho r hbit => ?_⟩
  have hone : r &&& (1 : UInt64) <<< 16 ≠ 0 →
      ∃ b ∈ sysfsModAttrs.map Prod.snd, r ||| b <<< 16 = r :=
    fun h => ⟨1, by simp [sysfsModAttrs], or_eq_of_bit (k := 16) (by decide) h⟩
  have htwo : r &&& (2 : UInt64) <<< 16 ≠ 0 →
      ∃ b ∈ sysfsModAttrs.map Prod.snd, r ||| b <<< 16 = r :=
    fun h => ⟨2, by simp [sysfsModAttrs], or_eq_of_bit (k := 17) (by decide) h⟩
  have hcases : o = 1 ∨ o = 2 ∨ o = 3 ∨ o = 4 := by simpa [sysfsModAttrs] using ho
  rcases hcases with rfl | rfl | rfl | rfl
  · exact hone hbit
  · exact htwo hbit
  · -- the bits of 3 are those of 1 and 2
    by_cases h : r &&& (1 : UInt64) <<< 16 = 0
    · apply htwo
      intro h'
      apply hbit
      have hsplit : (3 : UInt64) <<< 16 = (1 : UInt64) <<< 16 ||| (2 : UInt64) <<< 16 := by decide
      rw [hsplit, and_or_distrib, h, h']
      rfl
    · exact hone h
  · exact ⟨4, ho, or_eq_of_bit (k := 18) (by decide) hbit⟩

end ObjectIds

/-- The file ids in the listing of a device, class or module directory, without that of `..`. -/
def ownFileids (t : Tree) (g : GSnapshot) (dir : Sfsnode) : List UInt64 :=
  ((dirEntries t g dir).eraseIdx 1).map DirEntry.fileId

/-- The registry ids of the children, as `sysfs_iokit_child_at` gives them. -/
def childRegids (g : GSnapshot) (regid : UInt64) : List UInt64 :=
  (List.range (childCount g regid)).filterMap fun i =>
    (sysfsIokitChildAt g regid i (nameMax + 1)).map Prod.snd

def memberRegids (g : GSnapshot) (classId matchFlags : UInt32) : List UInt64 :=
  match g with
  | none => []
  | some snap => (snap.nodes.tail.filter (isClassMember classId matchFlags)).map SnapNode.regid

def loadTags (g : GSnapshot) : List UInt64 :=
  match g with
  | none => []
  | some snap => snap.modules.map SnapModule.loadTag

/-- A directory whose entries are told apart by registry ids, load tags or object ids. -/
def listedById (t : Tree) (dir : Sfsnode) : Bool :=
  let dirSnode := t.node dir.nodeStructureNode
  dirSnode.ssnNodeType = .SFSdevice || sysfsIsModuleDir dirSnode ||
    dirSnode.ssnNodeType = .SFSmodule || sysfsIsClassDir dirSnode

/-- The base id of the members; in `/sys/module` it is that of the marker. -/
def entryBase (t : Tree) (dir : Sfsnode) : UInt16 :=
  let dirSnode := t.node dir.nodeStructureNode
  if sysfsIsModuleDir dirSnode then
    match t.childOfType dir.nodeStructureNode .SFSmodule with
    | none => 0
    | some mod => (t.node mod).ssnBaseNodeId
  else dirSnode.ssnBaseNodeId

/-- The attribute files of the directory of a registry entry or of a module. -/
def attrFiles (t : Tree) (dir : Sfsnode) : List (CStr × UInt64) :=
  match (t.node dir.nodeStructureNode).ssnNodeType with
  | .SFSdevice => if dir.nodeId.nodeidRegid ≠ sysfsNoRegid then sysfsDevAttrs else []
  | .SFSmodule => sysfsModAttrs
  | _ => []

/-- The registry ids or load tags of the entries below a directory. -/
def memberIds (t : Tree) (g : GSnapshot) (dir : Sfsnode) : List UInt64 :=
  let dirSnode := t.node dir.nodeStructureNode
  match dirSnode.ssnNodeType with
  | .SFSdevice => childRegids g dir.nodeId.nodeidRegid
  | .SFSmodule => []
  | _ =>
    if sysfsIsModuleDir dirSnode then
      if (t.childOfType dir.nodeStructureNode .SFSmodule).isNone then [] else loadTags g
    else memberRegids g dirSnode.ssnInstance (sysfsClassMatchFlags dirSnode)

/-- The ids of the directory and its attribute files. Those of `/sys/module` have another base. -/
def ownIds (t : Tree) (dir : Sfsnode) : List EntryId :=
  if sysfsIsModuleDir (t.node dir.nodeStructureNode) then []
  else (dir.nodeId.nodeidRegid, 0) ::
    ((attrFiles t dir).map Prod.snd).map fun o => (dir.nodeId.nodeidRegid, o)

/-- The ids of the directory and its entries that share `entryBase`. -/
def entryIds (t : Tree) (g : GSnapshot) (dir : Sfsnode) : List EntryId :=
  ownIds t dir ++ (memberIds t g dir).map fun id => (id, 0)

/-- When the file ids of a directory are distinct, in terms of the ids: the own id has none of the
bits that the object ids of the attribute files set, the ids of the members differ where file
ids show them, and they differ there from the own id, with and without an object id over it. -/
structure IdsApart (t : Tree) (g : GSnapshot) (dir : Sfsnode) : Prop where
  attrs : ∀ a ∈ attrFiles t dir, dir.nodeId.nodeidRegid &&& a.2 <<< 16 = 0
  members : (memberIds t g dir).Pairwise fun x y => ¬ShownAlike (entryBase t dir) x y
  own : sysfsIsModuleDir (t.node dir.nodeStructureNode) = false → ∀ id ∈ memberIds t g dir,
    ¬ShownAlike (entryBase t dir) dir.nodeId.nodeidRegid id ∧ ∀ a ∈ attrFiles t dir,
      ¬ShownAlike (entryBase t dir) (dir.nodeId.nodeidRegid ||| a.2 <<< 16) id

theorem attrFiles_separable (t : Tree) (dir : Sfsnode) :
    Separable ((attrFiles t dir).map Prod.snd) := by
  unfold attrFiles
  split
  · split
    · exact separable_devAttrs
    · exact separable_nil
  · exact separable_modAttrs
  · exact separable_nil

theorem entryIds_pairwise_iff (t : Tree) (g : GSnapshot) (dir : Sfsnode) :
    (entryIds t g dir).Pairwise
        (fun x y => ¬ShownAlike (entryBase t dir) x.overlaid y.overlaid) ↔ IdsApart t g dir := by
  have hmembers : ((memberIds t g dir).map fun id => (id, 0)).Pairwise
        (fun x y : EntryId => ¬ShownAlike (entryBase t dir) x.overlaid y.overlaid) ↔
      (memberIds t g dir).Pairwise fun x y => ¬ShownAlike (entryBase t dir) x y := by
    rw [List.pairwise_map]
    simp only [EntryId.overlaid_zero]
  rw [entryIds, List.pairwise_append, hmembers, ownIds]
  cases hmods : sysfsIsModuleDir (t.node dir.nodeStructureNode) with
  | true =>
    have hattrs : attrFiles t dir = [] := by
      rw [attrFiles, sysfsIsModuleDir_type hmods]
    rw [if_pos rfl]
    constructor
    · rintro ⟨-, hpair, -⟩
      refine ⟨?_, hpair, fun hno => ?_⟩
      · rw [hattrs]
        simp
      · cases hmods.symm.trans hno
    · intro h
      exact ⟨.nil, h.members, by simp⟩
  | false =>
    rw [if_neg Bool.false_ne_true, separable_pairwise_iff (attrFiles_separable t dir)]
    simp only [List.forall_mem_map, List.forall_mem_cons, EntryId.overlaid_zero]
    constructor
    · rintro ⟨hattrs, hpair, hself, hover⟩
      exact ⟨hattrs, hpair, fun _ id hid => ⟨hself id hid, fun a ha => hover a ha id hid⟩⟩
    · intro h
      exact ⟨h.attrs, h.members, fun id hid => (h.own hmods id hid).1,
        fun a ha id hid => (h.own hmods id hid).2 a ha⟩

section Kinds
variable {t : Tree} {g : GSnapshot} {dir : Sfsnode}

theorem entryIds_device (hdev : (t.node dir.nodeStructureNode).ssnNodeType = .SFSdevice) :
    entryIds t g dir = (dir.nodeId.nodeidRegid, 0) ::
      ((if dir.nodeId.nodeidRegid ≠ sysfsNoRegid then
          sysfsDevAttrs.map fun a => (dir.nodeId.nodeidRegid, a.2) else []) ++
        (childRegids g dir.nodeId.nodeidRegid).map fun c => (c, sysfsDevDirObjid)) := by
  by_cases hreg : dir.nodeId.nodeidRegid = sysfsNoRegid
  · simp [entryIds, ownIds, attrFiles, memberIds, sysfsIsModuleDir, hdev, hreg, sysfsDevDirObjid]
  · simp [entryIds, ownIds, attrFiles, memberIds, sysfsIsModuleDir, hdev, hreg, sysfsDevDirObjid]

theorem entryIds_modules (hmods : sysfsIsModuleDir (t.node dir.nodeStructureNode)) :
    entryIds t g dir = if (t.childOfType dir.nodeStructureNode .SFSmodule).isNone then []
      else (loadTags g).map fun tag => (tag, sysfsModDirObjid) := by
  have htype := sysfsIsModuleDir_type hmods
  simp only [entryIds, ownIds, if_pos hmods, List.nil_append, memberIds, htype]
  split <;> rfl

theorem entryIds_module (hmod : (t.node dir.nodeStructureNode).ssnNodeType = .SFSmodule) :
    entryIds t g dir = (dir.nodeId.nodeidRegid, sysfsModDirObjid) ::
      sysfsModAttrs.map fun a => (dir.nodeId.nodeidRegid, a.2) := by
  simp [entryIds, ownIds, attrFiles, memberIds, sysfsIsModuleDir, hmod, sysfsModDirObjid]

theorem entryIds_class (htype : (t.node dir.nodeStructureNode).ssnNodeType = .SFSdir)
    (hnodir : sysfsIsModuleDir (t.node dir.nodeStructureNode) = false) :
    entryIds t g dir = (dir.nodeId.nodeidRegid, 0) ::
      (memberRegids g (t.node dir.nodeStructureNode).ssnInstance
        (sysfsClassMatchFlags (t.node dir.nodeStructureNode))).map fun r =>
          (r, sysfsNoObjectid) := by
  simp [entryIds, ownIds, attrFiles, memberIds, hnodir, htype, sysfsNoObjectid]

end Kinds

section Listings

variable {t : Tree} {g : GSnapshot} {dir : Sfsnode}

theorem childEntries_fileids (regid : UInt64) (base : UInt16) :
    (childEntries g regid base).map DirEntry.fileId =
      ((childRegids g regid).map fun c => (c, sysfsDevDirObjid)).map (EntryId.fileid base) := by
  rw [childEntries, childRegids, List.map_filterMap, List.map_filterMap, List.map_filterMap]
  apply List.filterMap_congr
  intro i _
  rw [childEntryAt, Option.map_map, Option.map_map, Option.map_map]
  rfl

theorem classEntries_fileids (classId matchFlags : UInt32) (base : UInt16) :
    (classEntries g classId matchFlags base).map DirEntry.fileId =
      ((memberRegids g classId matchFlags).map fun r => (r, sysfsNoObjectid)).map
        (EntryId.fileid base) := by
  cases g with
  | none => rfl
  | some snap =>
    rw [classEntries, memberRegids, List.map_map, List.map_map, List.map_map]
    rfl

theorem moduleEntries_fileids (base : UInt16) :
    (moduleEntries g base).map DirEntry.fileId =
      ((loadTags g).map fun tag => (tag, sysfsModDirObjid)).map (EntryId.fileid base) := by
  cases g with
  | none => rfl
  | some snap =>
    rw [moduleEntries, loadTags, List.map_map, List.map_map, List.map_map]
    rfl

theorem attrEntries_fileids (attrs : List (CStr × UInt64)) (regid : UInt64) (base : UInt16) :
    (attrEntries attrs regid base).reduceOption.map DirEntry.fileId =
      (attrs.map fun a => (regid, a.2)).map (EntryId.fileid base) := by
  rw [attrEntries, reduceOption_map_some, List.map_map, List.map_map]
  rfl

theorem ownFileids_dots {rest : List DirEntry}
    (h : dirEntries t g dir = (dotEntries t dir).reduceOption ++ rest) :
    ownFileids t g dir = sysfsGetNodeFileid t dir :: rest.map DirEntry.fileId := by
  rw [ownFileids, h]
  rfl

theorem nodeFileid_eq (hobj : dir.nodeId.nodeidObjectid = 0) :
    sysfsGetNodeFileid t dir =
      EntryId.fileid (t.node dir.nodeStructureNode).ssnBaseNodeId (dir.nodeId.nodeidRegid, 0) := by
  rw [sysfsGetNodeFileid, hobj]
  rfl

end Listings

section BuiltTree

variable {start : UInt16} {ncpu : UInt32}

theorem builtTree_low_byte_ne {i k : ℕ} (hi : 0 < i) (hk : 0 < k) (hk' : k < 2 ^ 8)
    (hlt : i + k < (builtTree start ncpu).nodes.length) :
    ((builtTree start ncpu).node (i + k)).ssnBaseNodeId.toNat % 2 ^ 8 ≠
      ((builtTree start ncpu).node i).ssnBaseNodeId.toNat % 2 ^ 8 := by
  have ⟨j, hj⟩ : ∃ j, i = j + 1 := ⟨i - 1, by omega⟩
  subst hj
  rw [Nat.add_right_comm, builtTree_base start (by omega : j + k + 1 < _),
    builtTree_base start (by omega : j + 1 < _), UInt16.toNat_add, UInt16.toNat_add,
    UInt16.toNat_ofNat', UInt16.toNat_ofNat']
  omega

theorem deviceStaticEntries_fileids {dir : Sfsnode} (hdir : dir.nodeStructureNode = devicesNode) :
    (deviceStaticEntries (builtTree start ncpu) dir).reduceOption.map DirEntry.fileId =
      [EntryId.fileid ((builtTree start ncpu).node (devicesNode + 1)).ssnBaseNodeId
        (sysfsNoRegid, sysfsNoObjectid)] := by
  rw [deviceStaticEntries, reduceOption_map_some, hdir, devices_children]
  rfl

end BuiltTree

theorem nodup_cons_fileid_iff {b b' : UInt16} (h : b.toNat % 2 ^ 8 ≠ b'.toNat % 2 ^ 8)
    (x : EntryId) (ids : List EntryId) :
    (x.fileid b :: ids.map (EntryId.fileid b')).Nodup ↔ (ids.map (EntryId.fileid b')).Nodup := by
  rw [List.nodup_cons, and_iff_right]
  intro hmem
  have ⟨y, _, heq⟩ := List.mem_map.mp hmem
  exact EntryId.fileid_ne h x y heq.symm

section Directories

variable {t : Tree} {g : GSnapshot} {dir : Sfsnode} (hobj : dir.nodeId.nodeidObjectid = 0)
include hobj

theorem ownFileids_device
    (hdev : (t.node dir.nodeStructureNode).ssnNodeType = .SFSdevice) :
    ownFileids t g dir =
      EntryId.fileid (t.node dir.nodeStructureNode).ssnBaseNodeId (dir.nodeId.nodeidRegid, 0) ::
        ((if dir.nodeId.nodeidRegid ≠ sysfsNoRegid then
            attrEntries sysfsDevAttrs dir.nodeId.nodeidRegid
              (t.node dir.nodeStructureNode).ssnBaseNodeId
          else deviceStaticEntries t dir).reduceOption.map DirEntry.fileId ++
        ((childRegids g dir.nodeId.nodeidRegid).map fun c => (c, sysfsDevDirObjid)).map
          (EntryId.fileid (t.node dir.nodeStructureNode).ssnBaseNodeId)) := by
  have hentries : dirEntries t g dir = _ := if_pos hdev
  rw [ownFileids_dots hentries, nodeFileid_eq hobj, List.map_append, childEntries_fileids]

theorem ownFileids_modules (hmods : sysfsIsModuleDir (t.node dir.nodeStructureNode)) :
    ownFileids t g dir =
      EntryId.fileid (t.node dir.nodeStructureNode).ssnBaseNodeId (dir.nodeId.nodeidRegid, 0) ::
        (entryIds t g dir).map (EntryId.fileid (entryBase t dir)) := by
  have hnodev : (t.node dir.nodeStructureNode).ssnNodeType ≠ .SFSdevice := by
    rw [sysfsIsModuleDir_type hmods]
    nofun
  have hentries : dirEntries t g dir = _ :=
    (if_neg hnodev).trans ((if_pos (Or.inl hmods)).trans (congrArg _ (if_pos hmods)))
  have hbase : entryBase t dir = _ := if_pos hmods
  rw [ownFileids_dots hentries, nodeFileid_eq hobj, entryIds_modules hmods, hbase]
  cases t.childOfType dir.nodeStructureNode .SFSmodule with
  | none => rfl
  | some mod =>
    dsimp only
    rw [moduleEntries_fileids]
    rfl

theorem ownFileids_module (hmod : (t.node dir.nodeStructureNode).ssnNodeType = .SFSmodule) :
    ownFileids t g dir = (entryIds t g dir).map (EntryId.fileid (entryBase t dir)) := by
  have hnodev : (t.node dir.nodeStructureNode).ssnNodeType ≠ .SFSdevice := by
    rw [hmod]
    nofun
  have hnodir : ¬sysfsIsModuleDir (t.node dir.nodeStructureNode) := fun h => by
    cases hmod.symm.trans (sysfsIsModuleDir_type h)
  have hentries : dirEntries t g dir = _ :=
    (if_neg hnodev).trans ((if_pos (Or.inr hmod)).trans (congrArg _ (if_neg hnodir)))
  have hbase : entryBase t dir = _ := if_neg hnodir
  rw [ownFileids_dots hentries, nodeFileid_eq hobj, entryIds_module hmod, hbase,
    attrEntries_fileids]
  rfl

theorem ownFileids_class (hclass : listedAsClass t dir = true) :
    ownFileids t g dir = (entryIds t g dir).map (EntryId.fileid (entryBase t dir)) := by
  have ⟨hnodir, hcls⟩ := of_decide_eq_true hclass
  rw [Bool.not_eq_true'] at hnodir
  have hbase : entryBase t dir = _ := if_neg (Bool.not_eq_true _ ▸ hnodir)
  rw [ownFileids_dots (dirEntries_class hclass), nodeFileid_eq hobj,
    entryIds_class (sysfsIsClassDir_type hcls) hnodir, hbase, classEntries_fileids]
  rfl

end Directories

section Distinct

variable {start : UInt16} {ncpu : UInt32} {g : GSnapshot} {dir : Sfsnode}
  (hn : NodeOk (builtTree start ncpu) dir) (hdir : vnodeVtype (builtTree start ncpu) dir = .VDIR)
include hn hdir

theorem device_fileids_iff
    (hdev : ((builtTree start ncpu).node dir.nodeStructureNode).ssnNodeType = .SFSdevice) :
    (ownFileids (builtTree start ncpu) g dir).Nodup ↔
      ((entryIds (builtTree start ncpu) g dir).map
        (EntryId.fileid (entryBase (builtTree start ncpu) dir))).Nodup := by
  have hnodir : ¬sysfsIsModuleDir ((builtTree start ncpu).node dir.nodeStructureNode) :=
    fun h => by cases hdev.symm.trans (sysfsIsModuleDir_type h)
  have hbase : entryBase (builtTree start ncpu) dir = _ := if_neg hnodir
  rw [ownFileids_device (hn.objectid hdir) hdev, entryIds_device hdev, hbase]
  by_cases hreg : dir.nodeId.nodeidRegid = sysfsNoRegid
  · -- at the devices root `system` stands between the dots and the registry entries
    have hnode : dir.nodeStructureNode = devicesNode := builtTree_device_eq hn.lt hdev
    have hlt : devicesNode + 1 < (builtTree start ncpu).nodes.length := by
      rw [builtTree_length, devicesNode]
      omega
    have hne := builtTree_low_byte_ne (by decide) (by decide) (by decide) hlt
    rw [if_neg (not_not.mpr hreg), if_neg (not_not.mpr hreg), deviceStaticEntries_fileids hnode,
      List.singleton_append, List.nil_append, (List.Perm.swap _ _ _).nodup_iff, hnode]
    exact nodup_cons_fileid_iff hne _ ((dir.nodeId.nodeidRegid, sysfsDevDirObjid) :: _)
  · rw [if_pos hreg, if_pos hreg, attrEntries_fileids, List.map_cons, List.map_append]

theorem modules_fileids_iff
    (hmods : sysfsIsModuleDir ((builtTree start ncpu).node dir.nodeStructureNode)) :
    (ownFileids (builtTree start ncpu) g dir).Nodup ↔
      ((entryIds (builtTree start ncpu) g dir).map
        (EntryId.fileid (entryBase (builtTree start ncpu) dir))).Nodup := by
  rw [ownFileids_modules (hn.objectid hdir) hmods]
  have hbase : entryBase (builtTree start ncpu) dir = _ := if_pos hmods
  cases hmod : (builtTree start ncpu).childOfType dir.nodeStructureNode .SFSmodule with
  | none =>
    rw [entryIds_modules hmods, hmod]
    simp
  | some mod =>
    -- the base id of the marker is three above that of the directory
    have ⟨hlt, hp, htype⟩ := Tree.childOfType_spec hmod
    have ⟨p, hmp, hpos, hp'⟩ := builtTree_module_parent hlt htype
    cases hp.symm.trans hp'
    rw [hmp] at hlt
    have hne := builtTree_low_byte_ne hpos (by decide) (by decide) hlt
    rw [hbase, hmod, hmp]
    exact nodup_cons_fileid_iff hne.symm _ _

theorem ownFileids_nodup_iff (hid : listedById (builtTree start ncpu) dir) :
    (ownFileids (builtTree start ncpu) g dir).Nodup ↔
      ((entryIds (builtTree start ncpu) g dir).map
        (EntryId.fileid (entryBase (builtTree start ncpu) dir))).Nodup := by
  have hobj := hn.objectid hdir
  simp only [listedById, Bool.or_eq_true, decide_eq_true_eq] at hid
  rcases hid with ((hdev | hmods) | hmod) | hclass
  · exact device_fileids_iff hn hdir hdev
  · exact modules_fileids_iff hn hdir hmods
  · rw [ownFileids_module hobj hmod]
  · by_cases hmods : sysfsIsModuleDir ((builtTree start ncpu).node dir.nodeStructureNode)
    · exact modules_fileids_iff hn hdir hmods
    · have hlisted : listedAsClass (builtTree start ncpu) dir = true :=
        decide_eq_true ⟨by simpa using hmods, hclass⟩
      rw [ownFileids_class hobj hlisted]

end Distinct

/-- Within a device, class or module directory of any mount the file ids of `.`, the attribute files
and the members are distinct exactly when the ids are apart. -/
theorem fileids_distinct_iff (history : List UInt32) (ncpu : UInt32) {t : Tree}
    (ht : (sysfsStructureInit ncpu (afterCycles history)).rootNode = some t) {g : GSnapshot}
    {dir : Sfsnode} (hn : NodeOk t dir) (hdir : vnodeVtype t dir = .VDIR)
    (hid : listedById t dir) : (ownFileids t g dir).Nodup ↔ IdsApart t g dir := by
  rw [latestTree_eq, Option.some_inj] at ht
  subst ht
  rw [ownFileids_nodup_iff hn hdir hid, nodup_fileid_iff, entryIds_pairwise_iff]

def lateDevice (regid : UInt64) : List RegEntry :=
  [{ regid := regid, name := some (cstr "usb") },
    { regid := 0x200000000, name := some (cstr "hub"), parent := .entry regid }]

def lateDeviceDir (regid : UInt64) : Option (Snapshot × Sfsnode) :=
  (sysfsSnapBuild 0 none { yields := some (lateDevice regid), kexts := none, uptime := 0 }).1.bind
    fun snap => (resolve (builtTree 2 1) (some snap) (sysfsRoot 1)
      [cstr "devices", cstr "usb"]).toOption.map fun dir => (snap, dir)

/-- Bit 16 of the registry id meets the object id of `name`, so `.` and `name` have one file id. -/
theorem name_shares_fileid :
    (sysfsStructureInit 1 (afterCycles [])).rootNode = some (builtTree 2 1) ∧
    (lateDeviceDir 0x100010000).any (fun (snap, dir) =>
      ((dirEntries (builtTree 2 1) (some snap) dir).eraseIdx 1).map (fun e => (e.name, e.fileId)) =
        [(cstr ".", 0x10001000027), (cstr "name", 0x10001000027), (cstr "hub", 0x20000000027)]) =
      true := by
  refine ⟨rfl, ?_⟩
  decide +kernel

theorem lateDeviceDir_reachable {regid : UInt64} {snap : Snapshot} {dir : Sfsnode}
    (h : lateDeviceDir regid = some (snap, dir)) :
    Reachable (builtTree 2 1) (some snap) 1 dir := by
  have ⟨snap', _, hrest⟩ := Option.bind_eq_some_iff.mp h
  have ⟨dir', hdir, heq⟩ := Option.map_eq_some_iff.mp hrest
  cases heq
  cases hres : resolve (builtTree 2 1) (some snap) (sysfsRoot 1) [cstr "devices", cstr "usb"] with
  | error e =>
    rw [hres] at hdir
    cases hdir
  | ok n =>
    rw [hres] at hdir
    cases hdir
    exact ⟨_, hres⟩

theorem early_device_fileids :
    ∃ snap dir, lateDeviceDir 0x100000123 = some (snap, dir) ∧
      (ownFileids (builtTree 2 1) (some snap) dir).Nodup := by
  have hcheck : (lateDeviceDir 0x100000123).any (fun (snap, dir) =>
      vnodeVtype (builtTree 2 1) dir = .VDIR ∧ listedById (builtTree 2 1) dir ∧
      attrFiles (builtTree 2 1) dir = sysfsDevAttrs ∧ dir.nodeId.nodeidRegid = 0x100000123 ∧
      memberIds (builtTree 2 1) (some snap) dir = [0x200000000] ∧
      entryBase (builtTree 2 1) dir = 39) = true := by
    decide +kernel
  obtain ⟨⟨snap, dir⟩, hsome, hok⟩ := (Option.any_eq_true _ _).mp hcheck
  obtain ⟨hdir, hid, hattrs, hreg, hmembers, hbase⟩ := of_decide_eq_true hok
  have hn := (lateDeviceDir_reachable hsome).nodeOk
  have hapart : IdsApart (builtTree 2 1) (some snap) dir := by
    refine ⟨?_, ?_, fun _ => ?_⟩
    · rw [hattrs, hreg]
      decide +kernel
    · rw [hmembers]
      exact List.pairwise_singleton _ _
    · rw [hattrs, hreg, hmembers, hbase, List.forall_mem_singleton]
      decide +kernel
  exact ⟨snap, dir, hsome, (fileids_distinct_iff [] 1 (first_mount 1).1 hn hdir hid).mpr hapart⟩

end SysFS
