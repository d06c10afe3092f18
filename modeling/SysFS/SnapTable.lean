import Mathlib
import SysFS.SnapChildren

namespace SysFS
open LinearProbing

/-- `cap`, from `maxe`, as the code computes it. -/
def buildCap32 (maxe : UInt32) : UInt32 :=
  let buffer := maxe / 4 + 64
  let cap := maxe + buffer + 1
  if cap > 16384 then 16384 else cap

theorem buildCap32_le (maxe : UInt32) : (buildCap32 maxe).toNat ≤ sysfsIokitMaxnodes := by
  unfold buildCap32
  dsimp only
  split
  · decide
  · next h => exact UInt32.le_iff_toNat_le.mp (UInt32.not_lt.mp h)

theorem buildCap32_eq {maxe : UInt32} (h : maxe.toNat ≤ 2 * sysfsIokitMaxnodes) :
    (buildCap32 maxe).toNat = buildCap maxe.toNat := by
  -- nothing wraps around for the counts that a build gives
  rw [sysfsIokitMaxnodes] at h
  have hsum : (maxe + (maxe / 4 + 64) + 1).toNat = maxe.toNat + (maxe.toNat / 4 + 64) + 1 := by
    simp only [UInt32.toNat_add, UInt32.toNat_div, UInt32.reduceToNat]
    omega
  rw [buildCap, ← hsum, buildCap32, sysfsIokitMaxnodes]
  split
  · next hgt =>
    have hlt := UInt32.lt_iff_toNat_lt.mp hgt
    change 16384 < _ at hlt
    change 16384 = _
    omega
  · next hle =>
    have hge := UInt32.le_iff_toNat_le.mp (UInt32.not_lt.mp hle)
    change _ ≤ 16384 at hge
    omega

theorem sixteen_le_buildHashSize (cap : ℕ) : 16 ≤ buildHashSize cap := by
  have ⟨a, _, heq, _⟩ := hashSizeFrom_spec cap 28 16
  rw [buildHashSize, heq]
  exact Nat.le_mul_of_pos_right 16 (Nat.two_pow_pos a)

def tableAfter (cap : ℕ) (ins : List (UInt64 × ℕ)) : List HashSlot :=
  ins.foldl (fun hash p => sysfsHashInsert hash p.1 p.2)
    (List.replicate (buildHashSize cap) none)

def insertedIds (ins : List (UInt64 × ℕ)) : ℕ := (ins.map Prod.fst).toFinset.card

theorem insertedIds_append (ins : List (UInt64 × ℕ)) (p : UInt64 × ℕ) :
    insertedIds (ins ++ [p]) =
      if p.1 ∈ ins.map Prod.fst then insertedIds ins else insertedIds ins + 1 := by
  have hset : ((ins ++ [p]).map Prod.fst).toFinset = insert p.1 (ins.map Prod.fst).toFinset := by
    ext r
    simp
  rw [insertedIds, hset]
  split
  · next h => rw [Finset.insert_eq_of_mem (List.mem_toFinset.mpr h), insertedIds]
  · next h =>
    rw [Finset.card_insert_of_notMem (fun hmem => h (List.mem_toFinset.mp hmem)), insertedIds]

theorem lookup_eq_none_iff_notMem {ins : List (UInt64 × ℕ)} {r : UInt64} :
    ins.lookup r = none ↔ r ∉ ins.map Prod.fst := by
  rw [List.lookup_eq_none_iff, List.mem_map]
  constructor
  · rintro h ⟨p, hp, rfl⟩
    simpa using h p hp
  · intro h p hp
    rw [bne_iff_ne]
    intro heq
    exact h ⟨p, hp, heq.symm⟩

/-- The table is the map of the first insertions. -/
structure IsMap (size : ℕ) (ins : List (UInt64 × ℕ)) (hash : List HashSlot) : Prop where
  ok : HashOk hash
  length : hash.length = size
  used : used hash = insertedIds ins
  find : ∀ r, tableFind hash r = ins.lookup r

namespace IsMap

variable {size : ℕ} {ins : List (UInt64 × ℕ)} {hash : List HashSlot} (h : IsMap size ins hash)
include h

theorem insert_free {r : UInt64} (hnew : r ∉ ins.map Prod.fst) (hroom : insertedIds ins < size)
    (i : ℕ) : ∃ p < size, slotAt hash p = none ∧
      sysfsHashInsert hash r i = hash.set p (some (r, i)) := by
  have hfree := h.ok.exists_free r (by rw [h.used, h.length]; exact hroom)
  have hnone : tableFind hash r = none := by rw [h.find, lookup_eq_none_iff_notMem]; exact hnew
  have ⟨p, hp, hempty, hins, _⟩ := insert_new (v := i) h.ok.wf (h.ok.probe_lt r) hnone hfree
  rw [← sysfsHashInsert_eq] at hins
  exact ⟨p, h.length ▸ hp, hempty, hins⟩

theorem insert (p : UInt64 × ℕ) (hroom : insertedIds (ins ++ [p]) ≤ size) :
    IsMap size (ins ++ [p]) (sysfsHashInsert hash p.1 p.2) := by
  have hcount := insertedIds_append ins p
  have hlookup : ∀ r, (ins ++ [p]).lookup r = (ins.lookup r).or ([p].lookup r) :=
    fun r => List.lookup_append
  have hother : ∀ r, r ≠ p.1 → [p].lookup r = none := by
    intro r hr
    rw [lookup_eq_none_iff_notMem]
    simpa using hr
  by_cases hmem : p.1 ∈ ins.map Prod.fst
  · -- the id is found, so the table stays as it is
    have ⟨i, hi⟩ : ∃ i, ins.lookup p.1 = some i := by
      apply Option.ne_none_iff_exists'.mp
      rw [Ne, lookup_eq_none_iff_notMem, not_not]
      exact hmem
    have hsame : sysfsHashInsert hash p.1 p.2 = hash := by
      rw [sysfsHashInsert_eq]
      exact insert_present h.ok.wf ((h.find p.1).trans hi)
    rw [if_pos hmem] at hcount
    rw [hsame]
    refine ⟨h.ok, h.length, h.used.trans hcount.symm, ?_⟩
    intro r
    rw [h.find, hlookup]
    by_cases hr : r = p.1
    · rw [hr, hi, Option.some_or]
    · rw [hother r hr, Option.or_none]
  · rw [if_neg hmem] at hcount
    have hnone : tableFind hash p.1 = none := by rw [h.find, lookup_eq_none_iff_notMem]; exact hmem
    have ⟨hok, hlen, hused, hfind⟩ :=
      h.ok.insert p.2 (by rw [h.used, h.length]; omega) hnone
    refine ⟨hok, hlen.trans h.length, ?_, ?_⟩
    · rw [hused, h.used, hcount]
    · intro r
      apply Option.ext
      intro i
      rw [hfind, h.find, hlookup]
      by_cases hr : r = p.1
      · have hfirst : ins.lookup r = none := by rw [hr, ← h.find, hnone]
        have hlast : [p].lookup r = some p.2 := by rw [hr, List.lookup_cons_self]
        rw [hfirst, hlast, Option.none_or, Option.some_inj]
        simp [hr, eq_comm]
      · rw [hother r hr, Option.or_none]
        simp [hr]

end IsMap

theorem isMap_tableAfter (cap : ℕ) {ins : List (UInt64 × ℕ)}
    (hroom : insertedIds ins ≤ buildHashSize cap) :
    IsMap (buildHashSize cap) ins (tableAfter cap ins) := by
  -- the last insertion goes into the table of those before it
  induction ins using List.reverseRecOn with
  | nil =>
    exact ⟨hashOk_replicate cap, List.length_replicate, used_replicate _, tableFind_replicate _⟩
  | append_singleton ins p ih =>
    have hcount := insertedIds_append ins p
    have hfewer : insertedIds ins ≤ insertedIds (ins ++ [p]) := by
      split at hcount <;> omega
    rw [tableAfter, List.foldl_append]
    exact (ih (hfewer.trans hroom)).insert p hroom

def nodeIns (snap : Snapshot) : List (UInt64 × ℕ) := (snap.nodes.map SnapNode.regid).zipIdx

/-- The hash of the snapshot is the table with the nodes inserted in their order, each of them
with a new id. -/
structure WalkTable (cap : ℕ) (snap : Snapshot) : Prop where
  hash : snap.hash = tableAfter cap (nodeIns snap)
  nodup : (snap.nodes.map SnapNode.regid).Nodup
  fits : snap.nodeCount ≤ max cap 1

theorem lookup_zipIdx (l : List UInt64) (r : UInt64) (k : ℕ) :
    (l.zipIdx k).lookup r = if r ∈ l then some (l.idxOf r + k) else none := by
  induction l generalizing k with
  | nil => rfl
  | cons a l ih =>
    rw [List.zipIdx_cons, List.lookup_cons, ih]
    by_cases hr : r = a
    · simp [hr]
    · have hne : a ≠ r := Ne.symm hr
      simp only [beq_eq_false_iff_ne.mpr hr, List.mem_cons, hr, false_or, List.idxOf_cons_ne l hne]
      split
      · congr 1
        omega
      · rfl

theorem nodeIns_fst (snap : Snapshot) :
    (nodeIns snap).map Prod.fst = snap.nodes.map SnapNode.regid := List.zipIdx_map_fst _ _

namespace WalkTable

variable {cap : ℕ} {snap : Snapshot} (hcap : cap ≤ sysfsIokitMaxnodes) (h : WalkTable cap snap)
include h

theorem insertedIds_eq : insertedIds (nodeIns snap) = snap.nodeCount := by
  rw [insertedIds, nodeIns_fst, List.toFinset_card_of_nodup h.nodup, List.length_map,
    Snapshot.nodeCount]

include hcap

theorem isMap : IsMap (buildHashSize cap) (nodeIns snap) snap.hash := by
  have hsize := le_buildHashSize hcap
  have hsixteen := sixteen_le_buildHashSize cap
  have hfits := h.fits
  -- the root is inserted even if the capacity is 0
  rw [h.hash]
  apply isMap_tableAfter
  rw [h.insertedIds_eq]
  omega

theorem find (r : UInt64) : sysfsHashFind (some snap) r = (nodeIns snap).lookup r := by
  have hmap := h.isMap hcap
  rw [sysfsHashFind_eq (List.ne_nil_of_length_pos hmap.ok.pos), hmap.find]

theorem record {e : RegEntry} (hcount : snap.nodeCount < cap)
    (hnew : sysfsHashFind (some snap) e.regid = none) : WalkTable cap (snap.record e) := by
  -- an id that the table does not find is not the id of a node
  rw [h.find hcap, lookup_eq_none_iff_notMem, nodeIns_fst] at hnew
  have hnodes : (snap.record e).nodes.map SnapNode.regid =
      snap.nodes.map SnapNode.regid ++ [e.regid] := by
    rw [Snapshot.record, List.map_append, List.map_singleton, snapNode_regid]
  refine ⟨?_, ?_, ?_⟩
  · have hins : nodeIns (snap.record e) = nodeIns snap ++ [(e.regid, snap.nodeCount)] := by
      rw [nodeIns, hnodes, List.zipIdx_append, nodeIns, List.length_map]
      simp [Snapshot.nodeCount]
    rw [hins, tableAfter, List.foldl_append, ← tableAfter, ← h.hash]
    rfl
  · rw [hnodes, List.nodup_append_comm, List.singleton_append, List.nodup_cons]
    exact ⟨hnew, h.nodup⟩
  · have hone : (snap.record e).nodeCount = snap.nodeCount + 1 := by
      simp [Snapshot.record, Snapshot.nodeCount]
    omega

theorem walkFrom (yields : List RegEntry) : WalkTable cap (walkFrom cap yields snap) := by
  induction yields generalizing snap with
  | nil => exact h
  | cons e rest ih =>
    rw [SysFS.walkFrom]
    split
    · next hcount =>
      split
      · exact ih h
      · split
        · exact ih h
        · next hfind => exact ih (h.record hcap hcount (by simpa using hfind))
    · exact h

end WalkTable

theorem walkTable_init (cap : ℕ) : WalkTable cap (snapInit cap) :=
  ⟨rfl, List.nodup_singleton _, Nat.le_max_right _ _⟩

theorem walkTable_snapWalk {cap : ℕ} (hcap : cap ≤ sysfsIokitMaxnodes)
    (yields : Option (List RegEntry)) : WalkTable cap (snapWalk cap yields) := by
  cases yields with
  | none => exact walkTable_init cap
  | some yields => exact (walkTable_init cap).walkFrom hcap yields

/-- The child lists and the ordinals change neither the hash nor the ids. -/
theorem snapFinish_keeps {inp : BuildInput} {snap snap' : Snapshot}
    (hf : snapFinish inp snap = some snap') :
    snap'.hash = snap.hash ∧
      snap'.nodes.map SnapNode.regid = snap.nodes.map SnapNode.regid := by
  have hregids : ∀ {l m : List SnapNode}, l.map SnapNode.core = m.map SnapNode.core →
      l.map SnapNode.regid = m.map SnapNode.regid := by
    intro l m hcore
    have hids := congrArg (List.map SnapNode.regid) hcore
    rwa [List.map_map, List.map_map] at hids
  by_cases hfail : inp.allocs.childCounts = false ∨ inp.allocs.cursor = false
  · have ⟨hcore, hhash, _⟩ := snapFinish_empty hfail hf
    exact ⟨hhash, hregids hcore⟩
  · rw [not_or, Bool.not_eq_false, Bool.not_eq_false] at hfail
    rw [snapFinish, hfail.1, hfail.2] at hf
    rw [if_neg (by decide)] at hf
    split at hf
    · cases hf
    · cases hf
      exact ⟨rfl, hregids (buildOrdinals_core snap)⟩

theorem WalkTable.finish {cap : ℕ} {snap snap' : Snapshot} {inp : BuildInput}
    (h : WalkTable cap snap) (hf : snapFinish inp snap = some snap') : WalkTable cap snap' := by
  have ⟨hhash, hregids⟩ := snapFinish_keeps hf
  have hcount : snap'.nodeCount = snap.nodeCount := by
    have hlen := congrArg List.length hregids
    rwa [List.length_map, List.length_map] at hlen
  refine ⟨?_, ?_, ?_⟩
  · rw [hhash, h.hash, nodeIns, nodeIns, hregids]
  · rw [hregids]
    exact h.nodup
  · rw [hcount]
    exact h.fits

theorem walkTable_build {cap lastNodeCount : ℕ} (hcap : cap ≤ sysfsIokitMaxnodes)
    {inp : BuildInput} {snap : Snapshot}
    (hbuild : (snapBuildSized cap lastNodeCount inp).1 = some snap) : WalkTable cap snap := by
  rw [snapBuildSized] at hbuild
  split at hbuild
  · cases hbuild
  · exact (walkTable_snapWalk hcap inp.yields).finish hbuild

theorem WalkTable.find_node {cap : ℕ} {snap : Snapshot} (h : WalkTable cap snap)
    (hcap : cap ≤ sysfsIokitMaxnodes) {i : ℕ} (hi : i < snap.nodeCount) :
    sysfsHashFind (some snap) (snap.node i).regid = some i := by
  have hlen : i < (snap.nodes.map SnapNode.regid).length := by rwa [List.length_map]
  have hget : (snap.nodes.map SnapNode.regid)[i] = (snap.node i).regid := by
    rw [List.getElem_map, Snapshot.node, List.getD_eq_getElem]
  have hmem : (snap.node i).regid ∈ snap.nodes.map SnapNode.regid := by
    rw [← hget]
    exact List.getElem_mem hlen
  rw [h.find hcap, nodeIns, lookup_zipIdx, if_pos hmem, Nat.add_zero, ← hget,
    h.nodup.idxOf_getElem i hlen]

/-- For every last count of nodes the table of a build is a finite map. It has a power of two
slots, at least twice as many as nodes. After any insertions that leave a free slot, a new id
gets one, and each id is found with the index of its first insertion. What a build inserts are
the ids of its nodes, and it finds each of them at its place. -/
theorem snap_table_is_map (maxe : UInt32) :
    ((∃ a, buildHashSize (buildCap32 maxe).toNat = 2 ^ a) ∧
      2 * (buildCap32 maxe).toNat ≤ buildHashSize (buildCap32 maxe).toNat) ∧
    (∀ ins, insertedIds ins ≤ buildHashSize (buildCap32 maxe).toNat →
      ∀ snap : Snapshot, snap.hash = tableAfter (buildCap32 maxe).toNat ins →
        (∀ r, sysfsHashFind (some snap) r = ins.lookup r) ∧
        ∀ r i, r ∉ ins.map Prod.fst → insertedIds ins < buildHashSize (buildCap32 maxe).toNat →
          ∃ p < snap.hashSize, slotAt snap.hash p = none ∧
            sysfsHashInsert snap.hash r i = snap.hash.set p (some (r, i))) ∧
    (∀ yields, WalkTable (buildCap32 maxe).toNat (snapWalk (buildCap32 maxe).toNat yields)) ∧
    ∀ lastNodeCount inp snap,
      (snapBuildSized (buildCap32 maxe).toNat lastNodeCount inp).1 = some snap →
        WalkTable (buildCap32 maxe).toNat snap ∧
        (∀ r, sysfsHashFind (some snap) r = (nodeIns snap).lookup r) ∧
        ∀ i < snap.nodeCount, sysfsHashFind (some snap) (snap.node i).regid = some i := by
  have hcap := buildCap32_le maxe
  generalize (buildCap32 maxe).toNat = cap at hcap ⊢
  refine ⟨⟨buildHashSize_eq_two_pow cap, ?_⟩, ?_, walkTable_snapWalk hcap, ?_⟩
  · rw [Nat.mul_comm]
    exact le_buildHashSize hcap
  · intro ins hroom snap hhash
    have hmap := isMap_tableAfter cap hroom
    rw [← hhash] at hmap
    refine ⟨?_, ?_⟩
    · intro r
      rw [sysfsHashFind_eq (List.ne_nil_of_length_pos hmap.ok.pos), hmap.find]
    · intro r i hnew hfree
      have ⟨p, hp, hslot⟩ := hmap.insert_free hnew hfree i
      exact ⟨p, hp.trans_eq hmap.length.symm, hslot⟩
  · intro lastNodeCount inp snap hbuild
    have htable := walkTable_build hcap hbuild
    exact ⟨htable, htable.find hcap, fun i hi => htable.find_node hcap hi⟩

/-- Three entries with the id 7 twice: the second one is not inserted again. -/
theorem repeated_id_found :
    let inp : BuildInput :=
      { yields := some [⟨7, .registryRoot, none, false, false, false, false, none, false⟩,
          ⟨9, .entry 7, none, false, false, false, false, none, false⟩,
          ⟨7, .entry 9, none, false, false, false, false, none, false⟩]
        kexts := none
        uptime := 0 }
    ∃ snap, (snapBuildSized (buildCap32 1).toNat 0 inp).1 = some snap ∧ snap.nodeCount = 3 ∧
      nodeIns snap = [(0, 0), (7, 1), (9, 2)] ∧
      ∀ i < 3, sysfsHashFind (some snap) (snap.node i).regid = some i := by
  intro inp
  have hbuilt : ((snapBuildSized (buildCap32 1).toNat 0 inp).1.map nodeIns) =
      some [(0, 0), (7, 1), (9, 2)] := by decide +kernel
  have ⟨snap, hsnap, hins⟩ := Option.map_eq_some_iff.mp hbuilt
  have hcount : snap.nodeCount = 3 := by
    have hlen := congrArg List.length hins
    rwa [nodeIns, List.length_zipIdx, List.length_map] at hlen
  refine ⟨snap, hsnap, hcount, hins, ?_⟩
  intro i hi
  exact ((snap_table_is_map 1).2.2.2 0 inp snap hsnap).2.2 i (hcount.symm ▸ hi)

end SysFS
