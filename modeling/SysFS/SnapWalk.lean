import SysFS.Lib.LinearProbing
import SysFS.SnapBuild

namespace SysFS
open CString LinearProbing

theorem hashSizeFrom_spec (cap n h : ℕ) :
    ∃ a ≤ n, hashSizeFrom cap n h = h * 2 ^ a ∧ (cap * 2 ≤ h * 2 ^ a ∨ a = n) := by
  induction n generalizing h with
  | zero => exact ⟨0, Nat.le_refl _, by simp [hashSizeFrom], Or.inr rfl⟩
  | succ n ih =>
    rw [hashSizeFrom]
    split
    · have ⟨a, ha, heq, hor⟩ := ih (h * 2)
      refine ⟨a + 1, by omega, ?_, ?_⟩
      · rw [heq, Nat.pow_succ', Nat.mul_assoc]
      · rw [Nat.pow_succ', ← Nat.mul_assoc]
        rcases hor with hle | heq
        · exact Or.inl hle
        · exact Or.inr (by omega)
    · next hge => exact ⟨0, by omega, by simp, Or.inl (by simpa using hge)⟩

theorem buildHashSize_eq_two_pow (cap : ℕ) : ∃ a, buildHashSize cap = 2 ^ a := by
  have ⟨a, _, heq, _⟩ := hashSizeFrom_spec cap 28 16
  exact ⟨4 + a, by rw [buildHashSize, heq, Nat.pow_add]⟩

theorem le_buildHashSize {cap : ℕ} (h : cap ≤ sysfsIokitMaxnodes) :
    cap * 2 ≤ buildHashSize cap := by
  have ⟨a, _, heq, hor⟩ := hashSizeFrom_spec cap 28 16
  rw [buildHashSize, heq]
  rcases hor with hle | ha
  · exact hle
  · rw [ha]
    simp only [sysfsIokitMaxnodes] at h
    omega

theorem buildCap_le (maxe : ℕ) : buildCap maxe ≤ sysfsIokitMaxnodes := Nat.min_le_right _ _

theorem buildCap_pos (maxe : ℕ) : 0 < buildCap maxe := by
  simp only [buildCap, sysfsIokitMaxnodes]
  omega

def hashNext (m h : ℕ) : ℕ := (h + 1) &&& (m - 1)
def hashStart (m : ℕ) (regid : UInt64) : ℕ := sysfsHashOf regid &&& (m - 1)

theorem hashFindFrom_eq (hash : List HashSlot) (regid : UInt64) (n h : ℕ) :
    hashFindFrom hash regid n h = findFrom (hashNext hash.length) hash regid n h := by
  induction n generalizing h with
  | zero => rfl
  | succ n ih =>
    rw [hashFindFrom, findFrom, slotAt]
    cases hash.getD h none with
    | none => rfl
    | some e =>
      show (if e.1 = regid then some e.2 else _) = if e.1 = regid then some e.2 else _
      rw [ih]
      rfl

theorem hashInsertFrom_eq (hash : List HashSlot) (regid : UInt64) (index n h : ℕ) :
    hashInsertFrom hash regid index n h =
      insertFrom (hashNext hash.length) hash regid index n h := by
  induction n generalizing h with
  | zero => rfl
  | succ n ih =>
    rw [hashInsertFrom, insertFrom, slotAt]
    cases hash.getD h none with
    | none => rfl
    | some e =>
      show (if e.1 = regid then hash else _) = if e.1 = regid then hash else _
      rw [ih]
      rfl

def tableFind (hash : List HashSlot) (regid : UInt64) : Option ℕ :=
  findFrom (hashNext hash.length) hash regid hash.length (hashStart hash.length regid)

theorem sysfsHashFind_eq {snap : Snapshot} (h : snap.hash ≠ []) (regid : UInt64) :
    sysfsHashFind (some snap) regid = tableFind snap.hash regid := by
  have hne : snap.hashSize ≠ 0 := by simpa [Snapshot.hashSize] using h
  rw [sysfsHashFind, if_neg hne, hashFindFrom_eq]
  rfl

theorem sysfsHashInsert_eq (hash : List HashSlot) (regid : UInt64) (index : ℕ) :
    sysfsHashInsert hash regid index =
      insertFrom (hashNext hash.length) hash regid index hash.length
        (hashStart hash.length regid) := hashInsertFrom_eq _ _ _ _ _

/-- A table with a power of two slots whose keys are all met on their probe sequences. -/
structure HashOk (hash : List HashSlot) : Prop where
  size : ∃ a, hash.length = 2 ^ a
  wf : Wf (hashNext hash.length) (hashStart hash.length) hash

namespace HashOk

variable {hash : List HashSlot} (h : HashOk hash)
include h

theorem pos : 0 < hash.length := by
  have ⟨a, ha⟩ := h.size
  rw [ha]
  exact Nat.two_pow_pos a

theorem hashNext_eq : hashNext hash.length = fun i => (i + 1) % hash.length := by
  have ⟨a, ha⟩ := h.size
  funext i
  rw [hashNext, ha, Nat.and_two_pow_sub_one_eq_mod]

theorem hashStart_lt (regid : UInt64) : hashStart hash.length regid < hash.length := by
  have hle : hashStart hash.length regid ≤ hash.length - 1 := Nat.and_le_right
  have := h.pos
  omega

theorem probe_lt (regid : UInt64) (j : ℕ) :
    (hashNext hash.length)^[j] (hashStart hash.length regid) < hash.length := by
  rw [h.hashNext_eq, iterate_succ_mod _ _ (h.hashStart_lt regid)]
  exact Nat.mod_lt _ h.pos

theorem exists_free (regid : UInt64) (hfull : used hash < hash.length) :
    ∃ j < hash.length,
      slotAt hash ((hashNext hash.length)^[j] (hashStart hash.length regid)) = none := by
  have ⟨i, hi, hempty⟩ := exists_empty hfull
  have ⟨j, hj, hji⟩ := exists_probe _ i (h.hashStart_lt regid) hi
  exact ⟨j, hj, by rw [h.hashNext_eq, hji, hempty]⟩

theorem insert {regid : UInt64} (index : ℕ) (hfull : used hash < hash.length)
    (hnew : tableFind hash regid = none) :
    HashOk (sysfsHashInsert hash regid index) ∧
      (sysfsHashInsert hash regid index).length = hash.length ∧
      used (sysfsHashInsert hash regid index) = used hash + 1 ∧
      ∀ r i, tableFind (sysfsHashInsert hash regid index) r = some i ↔
        (r = regid ∧ i = index) ∨ tableFind hash r = some i := by
  have hfree := h.exists_free regid hfull
  have ⟨p, hp, hempty, hins, hwf⟩ := insert_new (v := index) h.wf (h.probe_lt regid) hnew hfree
  have hfind := find_insert_new (v := index) h.wf (h.probe_lt regid) hnew hfree
  rw [← sysfsHashInsert_eq] at hins hfind
  have hlen : (sysfsHashInsert hash regid index).length = hash.length := by
    rw [hins, List.length_set]
  refine ⟨⟨hlen ▸ h.size, ?_⟩, hlen, ?_, ?_⟩
  · rw [hlen, hins]
    exact hwf
  · rw [hins]
    exact used_set hp hempty
  · intro r i
    rw [tableFind, hlen]
    exact hfind r i

end HashOk

theorem hashOk_replicate (cap : ℕ) : HashOk (List.replicate (buildHashSize cap) none) := by
  refine ⟨?_, ?_⟩
  · rw [List.length_replicate]
    exact buildHashSize_eq_two_pow cap
  · intro h k v ha
    have hm : slotAt (List.replicate (buildHashSize cap) (none : HashSlot)) h = none := by
      rw [slotAt, List.getD_eq_getElem?_getD, List.getElem?_replicate]
      split <;> rfl
    rw [hm] at ha
    cases ha

theorem used_replicate (n : ℕ) : used (List.replicate n (none : HashSlot)) = 0 := by
  simp [used, List.countP_replicate]

theorem tableFind_replicate (n : ℕ) (r : UInt64) :
    tableFind (List.replicate n none) r = none := by
  cases hf : tableFind (List.replicate n none) r with
  | none => rfl
  | some i =>
    have ⟨p, hp⟩ := findFrom_mem hf
    rw [slotAt, List.getD_eq_getElem?_getD, List.getElem?_replicate] at hp
    split at hp <;> cases hp

theorem snapNode_regid (e : RegEntry) : (snapNode e).regid = e.regid := by
  simp only [snapNode]
  repeat' split
  all_goals rfl

theorem snapNode_name (e : RegEntry) :
    (snapNode e).name = strlcpy (e.name.getD (cstr "unknown")) sysfsIokitNamemax := by
  simp only [snapNode]
  repeat' split
  all_goals rfl

theorem snapNode_parentRegid (e : RegEntry) : (snapNode e).parentRegid = e.parentRegid := by
  simp only [snapNode]
  repeat' split
  all_goals rfl

def snapRoot : SnapNode := { regid := 0, parentRegid := 0, name := [] }

/-- The snapshot of a walk that has recorded the entries of `es`. -/
structure Recorded (cap : ℕ) (es : List RegEntry) (snap : Snapshot) : Prop where
  nodes : snap.nodes = snapRoot :: es.map snapNode
  fits : snap.nodeCount ≤ cap
  childIdx : snap.childIdx.length = cap
  hash : HashOk snap.hash
  room : cap * 2 ≤ snap.hash.length
  used : used snap.hash = snap.nodeCount
  find : ∀ r i, tableFind snap.hash r = some i ↔ ∃ nd, snap.nodes[i]? = some nd ∧ nd.regid = r

namespace Recorded

variable {cap : ℕ} {es : List RegEntry} {snap : Snapshot} (h : Recorded cap es snap)
include h

theorem hashFind (r : UInt64) : sysfsHashFind (some snap) r = tableFind snap.hash r :=
  sysfsHashFind_eq (List.ne_nil_of_length_pos h.hash.pos) r

theorem record {e : RegEntry} (hcap : snap.nodeCount < cap)
    (hnew : sysfsHashFind (some snap) e.regid = none) :
    Recorded cap (es ++ [e]) (snap.record e) := by
  have hused := h.used
  have hroom := h.room
  rw [h.hashFind] at hnew
  have ⟨hok, hlen, hu, hfind⟩ := h.hash.insert snap.nodeCount (by omega) hnew
  have hcount : (snap.record e).nodeCount = snap.nodeCount + 1 := by
    simp [Snapshot.record, Snapshot.nodeCount]
  have hregid := snapNode_regid e
  refine ⟨?_, ?_, h.childIdx, hok, ?_, ?_, ?_⟩
  · rw [Snapshot.record, h.nodes, List.map_append, List.cons_append]
    rfl
  · omega
  · exact hlen ▸ hroom
  · rw [hcount, ← hused]
    exact hu
  · intro r i
    show tableFind (sysfsHashInsert snap.hash e.regid snap.nodeCount) r = some i ↔
      ∃ nd, (snap.nodes ++ [snapNode e])[i]? = some nd ∧ nd.regid = r
    rw [hfind, h.find]
    constructor
    · intro hor
      rcases hor with ⟨hr, hi⟩ | ⟨nd, hnd, hr⟩
      · exact ⟨snapNode e, by rw [hi, Snapshot.nodeCount, List.getElem?_concat_length],
          hregid.trans hr.symm⟩
      · exact ⟨nd, by rw [List.getElem?_append_left (List.getElem?_eq_some_iff.mp hnd).1, hnd], hr⟩
    · intro ⟨nd, hnd, hr⟩
      rcases Nat.lt_trichotomy i snap.nodes.length with hlt | heq | hgt
      · rw [List.getElem?_append_left hlt] at hnd
        exact Or.inr ⟨nd, hnd, hr⟩
      · rw [heq, List.getElem?_concat_length, Option.some_inj] at hnd
        exact Or.inl ⟨by rw [← hr, ← hnd, hregid], heq⟩
      · rw [List.getElem?_eq_none (by simp; omega)] at hnd
        cases hnd

theorem regid_mem {r : UInt64} (hr : r ≠ 0) (hf : (sysfsHashFind (some snap) r).isSome) :
    ∃ e ∈ es, e.regid = r := by
  have ⟨i, hi⟩ := Option.isSome_iff_exists.mp hf
  rw [h.hashFind, h.find] at hi
  have ⟨nd, hnd, hnr⟩ := hi
  have hmem := List.mem_of_getElem? hnd
  rw [h.nodes] at hmem
  rcases List.mem_cons.mp hmem with hroot | hes
  · exact absurd (by rw [← hnr, hroot]; rfl) hr
  · have ⟨e, he, hen⟩ := List.mem_map.mp hes
    refine ⟨e, he, ?_⟩
    rw [← hnr, ← hen, snapNode_regid]

end Recorded

theorem recorded_init {cap : ℕ} (hpos : 0 < cap) (hcap : cap ≤ sysfsIokitMaxnodes) :
    Recorded cap [] (snapInit cap) := by
  have hroom := le_buildHashSize hcap
  have hu := used_replicate (buildHashSize cap)
  have hempty := tableFind_replicate (buildHashSize cap)
  have ⟨hok, hlen, hused, hfind⟩ := (hashOk_replicate cap).insert 0
    (by rw [hu, List.length_replicate]; omega) (hempty 0)
  rw [List.length_replicate] at hlen
  refine ⟨rfl, hpos, List.length_replicate, hok, hlen ▸ hroom, ?_, ?_⟩
  · rw [hu] at hused
    exact hused
  · intro r i
    show tableFind (sysfsHashInsert _ 0 0) r = some i ↔ _
    rw [hfind, hempty]
    constructor
    · intro hor
      rcases hor with ⟨hr, hi⟩ | hf
      · exact ⟨snapRoot, by rw [hi]; rfl, hr.symm⟩
      · cases hf
    · intro ⟨nd, hnd, hr⟩
      cases i with
      | zero =>
        cases hnd
        exact Or.inl ⟨hr.symm, rfl⟩
      | succ i => cases hnd

/-- The walk records some of the entries met, and where the table is not full at the end
the id of every one. -/
theorem walkFrom_spec {cap : ℕ} {es : List RegEntry} {snap : Snapshot}
    (h : Recorded cap es snap) (yields : List RegEntry) :
    ∃ new, Recorded cap (es ++ new) (walkFrom cap yields snap) ∧ new.Sublist yields ∧
      (cap ≤ (walkFrom cap yields snap).nodeCount ∨
        ∀ e ∈ yields, e.regid ≠ 0 → ∃ e' ∈ es ++ new, e'.regid = e.regid) := by
  induction yields generalizing es snap with
  | nil => exact ⟨[], by simpa [walkFrom] using h, List.Sublist.refl _, Or.inr (by simp)⟩
  | cons e rest ih =>
    rw [walkFrom]
    split
    · next hcap =>
      split
      · next hzero =>
        have ⟨new, hr, hsub, hall⟩ := ih h
        refine ⟨new, hr, hsub.cons e, hall.imp_right fun hall e' he' hne => ?_⟩
        rcases List.mem_cons.mp he' with heq | hmem
        · exact absurd (heq ▸ hzero) hne
        · exact hall e' hmem hne
      · split
        · next hne hf =>
          have ⟨new, hr, hsub, hall⟩ := ih h
          refine ⟨new, hr, hsub.cons e, hall.imp_right fun hall e' he' hne' => ?_⟩
          rcases List.mem_cons.mp he' with heq | hmem
          · have ⟨e'', hmem, hid⟩ := h.regid_mem hne hf
            exact ⟨e'', List.mem_append_left _ hmem, heq ▸ hid⟩
          · exact hall e' hmem hne'
        · next hne hf =>
          have hrec : Recorded cap (es ++ [e]) (snap.record e) :=
            h.record hcap (by simpa using hf)
          have ⟨new, hr, hsub, hall⟩ := ih hrec
          rw [List.append_assoc] at hr hall
          refine ⟨[e] ++ new, hr, hsub.cons_cons e, hall.imp_right fun hall e' he' hne' => ?_⟩
          rcases List.mem_cons.mp he' with heq | hmem
          · exact ⟨e, by simp, heq ▸ rfl⟩
          · exact hall e' hmem hne'
    · next hge =>
      refine ⟨[], by simpa using h, List.nil_sublist _, Or.inl ?_⟩
      omega

end SysFS
