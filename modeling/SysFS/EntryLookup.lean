import SysFS.NodeIds
import SysFS.Targets

namespace SysFS
open CString Listing

section Emitted

variable {t : Tree} {g : GSnapshot} {dir : Sfsnode} (hdir : vnodeVtype t dir = .VDIR)
include hdir

end Emitted

section Names

variable {t : Tree} {g : GSnapshot} {dir : Sfsnode} (hg : ∀ snap ∈ g, Produced snap) {nm : CStr}

end Names

def oneInterface : List RegEntry :=
  [{ regid := 7, name := some (cstr "en0"), isNetworkInterface := true,
     bsdName := some (cstr "en0") }]

/-- With two CPUs `cpu1` is taken for the directory of the class 1, and lists its interface. -/
theorem interface_listed_not_found :
    ((sysfsSnapBuild 0 (some oneInterface)
      { yields := some oneInterface, kexts := none, uptime := 0 }).1.any fun snap =>
        let t := builtTree 2 2
        (resolve t (some snap) (sysfsRoot 1)
          [cstr "devices", cstr "system", cstr "cpu", cstr "cpu1"]).toOption.any fun dir =>
        (sysfsVnopReaddir t (some snap) dir ⟨0, 4096, [], none⟩).toOption.any fun res =>
          res.error = none ∧ res.eofflag = true ∧
            res.uio.out.map Dirent.dName = [cstr ".", cstr "..", cstr "en0"] ∧
            (sysfsVnopLookup t (some snap) dir (cstr "en0")).toOption = none) = true := by
  decide +kernel

/-- The bits of an id that meet the high byte of the base id. -/
def hiddenBits (base : UInt16) : UInt64 := (base >>> 8).toUInt64

theorem or_and_not_left (h x : UInt64) : (h ||| x) &&& ~~~h = x &&& ~~~h := by
  apply UInt64.toBitVec_inj.mp
  ext i hi
  simp [Bool.and_or_distrib_right]

theorem or_and_not_self (h x : UInt64) : h ||| x &&& ~~~h = h ||| x := by
  apply UInt64.toBitVec_inj.mp
  ext i hi
  simp [Bool.or_and_distrib_left]

theorem or_left_eq_iff {h x y : UInt64} : h ||| x = h ||| y ↔ x &&& ~~~h = y &&& ~~~h := by
  constructor
  · intro heq
    rw [← or_and_not_left, heq, or_and_not_left]
  · intro heq
    rw [← or_and_not_self, heq, or_and_not_self]

/-- A file id shows the two ids alike: they differ at most in the bits that meet the high byte of
the base id, and in the highest byte, which is shifted out. -/
def ShownAlike (base : UInt16) (x y : UInt64) : Prop :=
  (x &&& ~~~hiddenBits base) <<< 8 = (y &&& ~~~hiddenBits base) <<< 8

instance (base : UInt16) (x y : UInt64) : Decidable (ShownAlike base x y) :=
  inferInstanceAs (Decidable (_ = _))

/-- The object id lies over the bits from 16 on of the registry id. -/
theorem sysfsGetFileid_eq (r o : UInt64) (base : UInt16) :
    sysfsGetFileid r o base = base.toUInt64 ||| (r ||| o <<< 16) <<< 8 := by
  rw [sysfsGetFileid]
  apply UInt64.toBitVec_inj.mp
  ext i hi
  by_cases h8 : i < 8
  · have h24 : i < 24 := by omega
    simp [h8, h24]
  · have h16 : i - 8 < 16 ↔ i < 24 := by omega
    have hsub : i - 8 - 16 = i - 24 := by omega
    simp [h8, h16, hsub, Bool.or_assoc]

theorem shiftLeft_and_not (x : UInt64) (base : UInt16) :
    x <<< 8 &&& ~~~base.toUInt64 = (x &&& ~~~hiddenBits base) <<< 8 := by
  apply UInt64.toBitVec_inj.mp
  ext i hi
  by_cases h8 : i < 8
  · simp [h8]
  · have hadd : 8 + (i - 8) = i := by omega
    simp [hiddenBits, h8, hadd, hi]

theorem sysfsGetFileid_eq_iff {base : UInt16} {r r' o o' : UInt64} :
    sysfsGetFileid r o base = sysfsGetFileid r' o' base ↔
      ShownAlike base (r ||| o <<< 16) (r' ||| o' <<< 16) := by
  rw [sysfsGetFileid_eq, sysfsGetFileid_eq, or_left_eq_iff, shiftLeft_and_not, shiftLeft_and_not,
    ShownAlike]

theorem sysfsGetFileid_mod (regid objectid : UInt64) (base : UInt16) :
    (sysfsGetFileid regid objectid base).toNat % 2 ^ 8 = base.toNat % 2 ^ 8 := by
  have h8 : ∀ n : ℕ, n <<< 8 % 2 ^ 64 % 2 ^ 8 = 0 := by
    intro n
    rw [Nat.shiftLeft_eq]
    omega
  have h24 : ∀ n : ℕ, n <<< 24 % 2 ^ 64 % 2 ^ 8 = 0 := by
    intro n
    rw [Nat.shiftLeft_eq]
    omega
  rw [sysfsGetFileid, UInt64.toNat_or, UInt64.toNat_or, UInt64.toNat_shiftLeft,
    UInt64.toNat_shiftLeft, Nat.or_mod_two_pow, Nat.or_mod_two_pow]
  show _ ||| regid.toNat <<< 8 % 2 ^ 64 % 2 ^ 8 ||| objectid.toNat <<< 24 % 2 ^ 64 % 2 ^ 8 = _
  rw [h8, h24, Nat.or_zero, Nat.or_zero, UInt16.toNat_toUInt64]

def parentNode (t : Tree) (g : GSnapshot) (dir : Sfsnode) : Sfsnode :=
  ⟨dir.nodeMntId, (lookupDotDot t g dir).1, (lookupDotDot t g dir).2⟩

section Agreement

variable {t : Tree} {g : GSnapshot} {dir : Sfsnode} {d : Dirent}

theorem parentNode_vtype (ht : TreeOk t) (hok : NodeOk t dir) (hdir : vnodeVtype t dir = .VDIR) :
    vnodeVtype t (parentNode t g dir) = .VDIR := by
  have hobj := hok.objectid hdir
  have hstruct : ∀ {id : Sfsid}, id.nodeidObjectid = 0 →
      vnodeVtype t ⟨dir.nodeMntId, id, t.parentOrSelf dir.nodeStructureNode⟩ = .VDIR := by
    intro id hid
    have htype : (t.node (t.parentOrSelf dir.nodeStructureNode)).ssnNodeType ∈
        [Sfstype.SFSroot, .SFSdir, .SFSdevice] := by
      rw [Tree.parentOrSelf]
      by_cases hpos : 0 < dir.nodeStructureNode
      · obtain ⟨p, hp⟩ := ht.parent hok.lt hpos
        rw [hp]
        exact ht.parentType hok.lt hp
      · have hzero : dir.nodeStructureNode = 0 := by omega
        rw [hzero, ht.root, Option.getD_none, ht.rootType]
        exact List.mem_cons_self
    rw [vnodeVtype]
    dsimp only
    rw [hid]
    simp only [List.mem_cons, List.not_mem_nil, or_false] at htype
    rcases htype with h | h | h <;> rw [h] <;> rfl
  rw [parentNode, lookupDotDot]
  dsimp only
  split
  · exact hstruct rfl
  · split
    · next hdev =>
      rw [vnodeVtype]
      dsimp only
      rw [hdev.1]
      rfl
    · apply hstruct
      rw [sysfsGetParentNodeId]
      dsimp only
      rw [hobj]
      split <;> rfl

end Agreement

section Parents
variable {start : UInt16} {ncpu : UInt32} {g : GSnapshot} {dir : Sfsnode}
  (hok : NodeOk (builtTree start ncpu) dir) (hdir : vnodeVtype (builtTree start ncpu) dir = .VDIR)
include hok hdir

end Parents

/-- In `/sys/class/net` neither `..` nor the interface is listed with the file id it has. -/
theorem net_entries_disagree :
    ∃ snap dir res up link, (sysfsSnapBuild 0 (some oneInterface)
        { yields := some oneInterface, kexts := none, uptime := 0 }).1 = some snap ∧
      (∀ hash, resolveFromRoot (builtTree 2 1) (some snap) hash 1 [cstr "class", cstr "net"] =
        .ok dir) ∧
      sysfsVnopReaddir (builtTree 2 1) (some snap) dir ⟨0, 4096, [], none⟩ = .ok res ∧
      res.error = none ∧ res.eofflag = true ∧
      res.uio.out.map (fun d => (d.dName, d.dIno)) =
        [(cstr ".", 14), (cstr "..", 14), (cstr "en0", 1806)] ∧
      (∀ hash, lookupIn (builtTree 2 1) (some snap) hash dir (cstr "..") = .ok up ∧
        lookupIn (builtTree 2 1) (some snap) hash dir (cstr "en0") = .ok link) ∧
      (sysfsVnopGetattr (builtTree 2 1) up).vaFileid = 11 ∧
      (sysfsVnopGetattr (builtTree 2 1) link).vaFileid = 1809 := by
  have hrun : ((sysfsSnapBuild 0 (some oneInterface)
      { yields := some oneInterface, kexts := none, uptime := 0 }).1.any fun snap =>
        let t := builtTree 2 1
        (resolve t (some snap) (sysfsRoot 1) [cstr "class", cstr "net"]).toOption.any fun dir =>
        (sysfsVnopReaddir t (some snap) dir ⟨0, 4096, [], none⟩).toOption.any fun res =>
        (sysfsVnopLookup t (some snap) dir (cstr "..")).toOption.any fun up =>
        (sysfsVnopLookup t (some snap) dir (cstr "en0")).toOption.any fun link =>
          res.error = none ∧ res.eofflag = true ∧
            res.uio.out.map (fun d => (d.dName, d.dIno)) =
              [(cstr ".", 14), (cstr "..", 14), (cstr "en0", 1806)] ∧
            (sysfsVnopGetattr t up).vaFileid = 11 ∧
            (sysfsVnopGetattr t link).vaFileid = 1809) = true := by
    decide +kernel
  obtain ⟨snap, hsnap, hrun⟩ := (Option.any_eq_true _ _).mp hrun
  obtain ⟨dir, hdir, hrun⟩ := exists_ok_of_any hrun
  obtain ⟨res, hres, hrun⟩ := exists_ok_of_any hrun
  obtain ⟨up, hup, hrun⟩ := exists_ok_of_any hrun
  obtain ⟨link, hlink, hrun⟩ := exists_ok_of_any hrun
  obtain ⟨herror, heof, hout, hupId, hlinkId⟩ := of_decide_eq_true hrun
  have hids := firstTree_ids 1
  have hlookup := lookupIn_eq hids (builtTree_treeOk 2 1) (Reachable.nodeOk ⟨_, hdir⟩) (some snap)
  refine ⟨snap, dir, res, up, link, hsnap, fun hash => ?_, hres, herror, heof, hout,
    fun hash => ⟨?_, ?_⟩, hupId, hlinkId⟩
  · rw [resolveFromRoot_eq hids, hdir]
  · rw [hlookup, hup]
  · rw [hlookup, hlink]

end SysFS
