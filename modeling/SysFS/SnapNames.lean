import SysFS.Lib.Ordinals
import SysFS.SnapChildren

namespace SysFS
open CString Ordinals

def Snapshot.childName (snap : Snapshot) (p k : ℕ) : CStr := (snap.node (snap.childAt p k)).name

def Snapshot.childRegid (snap : Snapshot) (p k : ℕ) : UInt64 :=
  (snap.node (snap.childAt p k)).regid

/-- The display name of the child `k` of node `p`, in a buffer that is long enough. -/
def Snapshot.childDisplay (snap : Snapshot) (p : ℕ) : ℕ → CStr :=
  display numbered (snap.childName p)

theorem sameName_iff {buf name : CStr} : sameName buf name name.length ↔ buf = name := by
  rw [sameName, decide_eq_true_eq]
  constructor
  · intro ⟨hlen, heq⟩
    rwa [List.take_of_length_le (Nat.le_of_eq hlen), List.take_length] at heq
  · intro heq
    rw [heq]
    exact ⟨rfl, rfl⟩

theorem sameName_eq (buf nm : CStr) : sameName buf nm nm.length = decide (buf = nm) :=
  Bool.eq_iff_iff.mpr (sameName_iff.trans (decide_eq_true_iff).symm)

namespace Built

variable {es : List RegEntry} {snap : Snapshot} (h : Built es snap)
include h

theorem node_core (i : ℕ) :
    (snap.node i).core = (snapRoot :: es.map snapNode).getD i default := by
  rw [← h.entries]
  exact (getD_map_field SnapNode.core snap.nodes i).symm

theorem name_length (i : ℕ) : (snap.node i).name.length < sysfsIokitNamemax := by
  show (snap.node i).core.name.length < _
  rw [h.node_core]
  cases i with
  | zero => exact Nat.zero_lt_succ 127
  | succ i =>
    rw [List.getD_cons_succ, List.getD_eq_getElem?_getD, List.getElem?_map]
    cases es[i]? with
    | none => decide
    | some e =>
      rw [Option.map_some, Option.getD_some, snapNode_name]
      exact strlcpy_length_lt (by decide)

theorem children_sublist (p : ℕ) : (snap.children p).Sublist (childItems snap) := by
  rcases h.children with hempty | hkids
  · rw [hempty p]
    exact List.nil_sublist _
  · by_cases hp : p < snap.nodeCount
    · rw [hkids p hp]
      exact List.filter_sublist
    · rw [children_eq, node_ge (Nat.le_of_not_lt hp)]
      exact List.nil_sublist _

theorem childAt_mem {p k : ℕ} (hk : k < (snap.node p).numChildren) :
    0 < snap.childAt p k ∧ snap.childAt p k < snap.nodeCount := by
  have hmem := (h.children_sublist p).subset (mem_children_iff.mpr ⟨k, hk, rfl⟩)
  rw [childItems, List.mem_range'_1] at hmem
  omega

theorem numChildren_lt (p : ℕ) : (snap.node p).numChildren < sysfsIokitMaxnodes := by
  have hlen := (h.children_sublist p).length_le
  rw [children_eq, List.length_map, List.length_range, childItems, List.length_range'] at hlen
  have := h.count
  rw [sysfsIokitMaxnodes] at this ⊢
  omega

theorem childAt_inj {p i j : ℕ} (hi : i < (snap.node p).numChildren)
    (hj : j < (snap.node p).numChildren) (heq : snap.childAt p i = snap.childAt p j) : i = j := by
  have hnodup : (snap.children p).Nodup :=
    (h.children_sublist p).nodup (List.nodup_range' (h := Nat.one_pos))
  rw [children_eq] at hnodup
  exact List.inj_on_of_nodup_map hnodup (List.mem_range.mpr hi) (List.mem_range.mpr hj) heq

theorem find_node {i : ℕ} (hi : i < snap.nodeCount) :
    sysfsHashFind (some snap) (snap.node i).regid = some i := by
  rw [h.find]
  refine ⟨snap.node i, ?_, rfl⟩
  rw [Snapshot.node, List.getD_eq_getElem _ _ hi, List.getElem?_eq_getElem hi]

theorem regid_inj {i j : ℕ} (hi : i < snap.nodeCount) (hj : j < snap.nodeCount)
    (heq : (snap.node i).regid = (snap.node j).regid) : i = j := by
  have hf := h.find_node hi
  rw [heq, h.find_node hj, Option.some_inj] at hf
  exact hf.symm

theorem childRegid_inj {p i j : ℕ} (hi : i < (snap.node p).numChildren)
    (hj : j < (snap.node p).numChildren) (heq : snap.childRegid p i = snap.childRegid p j) :
    i = j :=
  h.childAt_inj hi hj (h.regid_inj (h.childAt_mem hi).2 (h.childAt_mem hj).2 heq)

theorem childDisplay_length {p k : ℕ} (hk : k < (snap.node p).numChildren) :
    (snap.childDisplay p k).length < 134 := by
  have hname := h.name_length (snap.childAt p k)
  rw [sysfsIokitNamemax] at hname
  rw [Snapshot.childDisplay, display]
  split
  · exact hname.trans (by decide)
  · have hord := ordinal_lt_occurrences (snap.childName p) hk
    have hcount : occurrences (snap.childName p) (snap.node p).numChildren (snap.childName p k) ≤
        (snap.node p).numChildren := by
      rw [occurrences]
      exact List.countP_le_length.trans (Nat.le_of_eq List.length_range)
    have hmax := h.numChildren_lt p
    rw [sysfsIokitMaxnodes] at hmax
    have hdec := decimal_length_le (n := Ordinals.ordinal (snap.childName p) k) (k := 5) (by decide)
      (by omega)
    rw [numbered_length, Snapshot.childName]
    omega

theorem sysfsChildDisplay_eq {p k buflen : ℕ} (hp : p < snap.nodeCount) (hbuf : 134 ≤ buflen) :
    sysfsChildDisplay snap p k buflen =
      if k < (snap.node p).numChildren then some (snap.childDisplay p k, snap.childRegid p k)
      else none := by
  by_cases hk : k < (snap.node p).numChildren
  · have hdup : (snap.node (snap.childAt p k)).dupOrdinal = Ordinals.ordinal (snap.childName p) k :=
      h.ordinal p k hk
    have hlen := h.childDisplay_length hk
    have hcond : ¬(p ≥ snap.nodeCount ∨ k ≥ (snap.node p).numChildren) := by omega
    rw [sysfsChildDisplay, if_neg hcond, if_pos hk]
    have hfits : (snap.childDisplay p k).length < buflen := by omega
    rw [← strlcpy_of_fits hfits]
    show some (strlcpy (if (snap.node (snap.childAt p k)).dupOrdinal = 0 then _ else
      numbered _ (snap.node (snap.childAt p k)).dupOrdinal) buflen, _) = _
    rw [hdup]
    rfl
  · have hcond : p ≥ snap.nodeCount ∨ k ≥ (snap.node p).numChildren := by omega
    rw [sysfsChildDisplay, if_pos hcond, if_neg hk]

theorem sysfsIokitChildAt_iff {regid c : UInt64} {k buflen : ℕ} {nm : CStr} (hbuf : 134 ≤ buflen) :
    sysfsIokitChildAt (some snap) regid k buflen = some (nm, c) ↔
      ∃ p, sysfsHashFind (some snap) regid = some p ∧ k < (snap.node p).numChildren ∧
        nm = snap.childDisplay p k ∧ c = snap.childRegid p k := by
  cases hf : sysfsHashFind (some snap) regid with
  | none => simp only [sysfsIokitChildAt, hf, reduceCtorEq, false_and, exists_false]
  | some p =>
    have ⟨nd, hnd, _⟩ := (h.find regid p).mp hf
    have hp : p < snap.nodeCount := (List.getElem?_eq_some_iff.mp hnd).1
    simp only [sysfsIokitChildAt, hf, h.sysfsChildDisplay_eq hp hbuf, Option.some_inj,
      exists_eq_left']
    split
    · next hk => simp [hk, eq_comm]
    · next hk => simp [hk]

theorem childNamedFrom_eq {p : ℕ} (hp : p < snap.nodeCount) (nm : CStr) (n i : ℕ)
    (hn : i + n = (snap.node p).numChildren) :
    childNamedFrom snap p nm nm.length n i =
      ((List.range' i n).find? fun k => snap.childDisplay p k = nm).map (snap.childRegid p) := by
  induction n generalizing i with
  | zero => rfl
  | succ n ih =>
    rw [childNamedFrom, h.sysfsChildDisplay_eq hp (by decide), if_pos (by omega), List.range'_succ,
      List.find?_cons]
    by_cases heq : snap.childDisplay p i = nm
    · rw [decide_eq_true heq]
      exact if_pos (sameName_iff.mpr heq)
    · rw [decide_eq_false heq]
      refine (if_neg fun hs => heq (sameName_iff.mp hs)).trans ?_
      exact ih (i + 1) (by omega)

theorem sysfsIokitChildNamed_eq {regid : UInt64} {p : ℕ}
    (hf : sysfsHashFind (some snap) regid = some p) (nm : CStr) :
    sysfsIokitChildNamed (some snap) regid nm nm.length =
      ((List.range (snap.node p).numChildren).find? fun k => snap.childDisplay p k = nm).map
        (snap.childRegid p) := by
  have ⟨nd, hnd, _⟩ := (h.find regid p).mp hf
  simp only [sysfsIokitChildNamed, hf, List.range_eq_range']
  exact h.childNamedFrom_eq (List.getElem?_eq_some_iff.mp hnd).1 nm _ 0 (Nat.zero_add _)

theorem sysfsIokitChildNamed_display {regid : UInt64} {p k : ℕ}
    (hf : sysfsHashFind (some snap) regid = some p) (hk : k < (snap.node p).numChildren)
    (hd : Distinct numbered (snap.childName p) (snap.node p).numChildren) :
    sysfsIokitChildNamed (some snap) regid (snap.childDisplay p k) (snap.childDisplay p k).length =
      some (snap.childRegid p k) := by
  rw [h.sysfsIokitChildNamed_eq hf]
  cases hfind : (List.range (snap.node p).numChildren).find? fun j =>
      snap.childDisplay p j = snap.childDisplay p k with
  | none =>
    have := List.find?_eq_none.mp hfind k (List.mem_range.mpr hk)
    exact absurd (decide_eq_true rfl) this
  | some j =>
    have hj := List.mem_range.mp (List.mem_of_find?_eq_some hfind)
    have heq := List.find?_some hfind
    rw [hd j hj k hk (of_decide_eq_true heq), Option.map_some]

end Built

/-- The display names of the children of an entry are distinct, and each child is found by
the name it is listed with, in a buffer of `buflen` bytes. -/
def ChildNamesAgree (g : GSnapshot) (regid : UInt64) (buflen : ℕ) : Prop :=
  (∀ i j nm c nm' c', sysfsIokitChildAt g regid i buflen = some (nm, c) →
    sysfsIokitChildAt g regid j buflen = some (nm', c') → i ≠ j → nm ≠ nm') ∧
  ∀ i nm c, sysfsIokitChildAt g regid i buflen = some (nm, c) →
    sysfsIokitChildNamed g regid nm nm.length = some c

/-- A child of node `p` has a name that ends in `@k`, and more than `k` children have the
name before it. -/
def SuffixTaken (snap : Snapshot) (p : ℕ) : Prop :=
  ∃ i ∈ snap.children p, ∃ base k, 0 < k ∧ (snap.node i).name = numbered base k ∧
    k < (snap.children p).countP fun j => (snap.node j).name = base

section Agree

variable {es : List RegEntry} {snap : Snapshot}

theorem not_suffixTaken_iff (p : ℕ) :
    ¬SuffixTaken snap p ↔
      Distinct numbered (snap.childName p) (snap.node p).numChildren := by
  have hcount : ∀ a, ((snap.children p).countP fun j => (snap.node j).name = a) =
      occurrences (snap.childName p) (snap.node p).numChildren a := by
    intro a
    rw [children_eq, List.countP_map]
    rfl
  rw [distinct_iff numbered_inj]
  constructor
  · intro hno i hi base k hk hname
    by_contra hmany
    refine hno ⟨snap.childAt p i, mem_children_iff.mpr ⟨i, hi, rfl⟩, base, k, hk, hname, ?_⟩
    rw [hcount]
    omega
  · intro hno ⟨i, hi, base, k, hk, hname, hmany⟩
    have ⟨j, hj, hij⟩ := mem_children_iff.mp hi
    have := hno j hj base k hk (by rw [Snapshot.childName, hij, hname])
    rw [hcount] at hmany
    omega

theorem Built.childNamesAgree_iff (h : Built es snap) {regid : UInt64} {p buflen : ℕ}
    (hf : sysfsHashFind (some snap) regid = some p) (hbuf : 134 ≤ buflen) :
    ChildNamesAgree (some snap) regid buflen ↔ ¬SuffixTaken snap p := by
  have hat : ∀ {k}, k < (snap.node p).numChildren →
      sysfsIokitChildAt (some snap) regid k buflen =
        some (snap.childDisplay p k, snap.childRegid p k) := fun hk =>
    (h.sysfsIokitChildAt_iff hbuf).mpr ⟨p, hf, hk, rfl, rfl⟩
  rw [not_suffixTaken_iff]
  constructor
  · intro hagree i hi j hj heq
    by_contra hne
    exact hagree.1 i j _ _ _ _ (hat hi) (hat hj) hne heq
  · intro hd
    constructor
    · intro i j nm c nm' c' hi hj hne
      have ⟨p₁, hf₁, hi₁, hnm, _⟩ := (h.sysfsIokitChildAt_iff hbuf).mp hi
      have ⟨p₂, hf₂, hj₂, hnm', _⟩ := (h.sysfsIokitChildAt_iff hbuf).mp hj
      cases hf.symm.trans hf₁
      cases hf.symm.trans hf₂
      intro heq
      exact hne (hd i hi₁ j hj₂ (by rw [← Snapshot.childDisplay, ← hnm, ← hnm', heq]))
    · intro i nm c hi
      have ⟨p₁, hf₁, hi₁, hnm, hc⟩ := (h.sysfsIokitChildAt_iff hbuf).mp hi
      cases hf.symm.trans hf₁
      rw [hnm, hc]
      exact h.sysfsIokitChildNamed_display hf hi₁ hd

end Agree

/-- In every snapshot a build returns and for every entry: the display names of its children
are distinct and found, exactly if no name of a child is one that another child was given by
its ordinal. -/
theorem child_names_agree_iff {lastNodeCount : ℕ} {counted : Option (List RegEntry)}
    {inp : BuildInput} {snap : Snapshot}
    (h : (sysfsSnapBuild lastNodeCount counted inp).1 = some snap) (regid : UInt64) {buflen : ℕ}
    (hbuf : 134 ≤ buflen) :
    ChildNamesAgree (some snap) regid buflen ↔
      ∀ p, sysfsHashFind (some snap) regid = some p → ¬SuffixTaken snap p := by
  have ⟨es, hb, _⟩ := sysfsSnapBuild_built h
  cases hf : sysfsHashFind (some snap) regid with
  | none =>
    have hnone : ∀ {k nm c}, sysfsIokitChildAt (some snap) regid k buflen ≠ some (nm, c) := by
      intro k nm c hat
      have ⟨p, hp, _⟩ := (hb.sysfsIokitChildAt_iff hbuf).mp hat
      cases hf.symm.trans hp
    constructor
    · intro _ p hp
      cases hp
    · intro _
      exact ⟨fun _ _ _ _ _ _ hat => absurd hat hnone, fun _ _ _ hat => absurd hat hnone⟩
  | some p =>
    rw [hb.childNamesAgree_iff hf hbuf]
    constructor
    · intro hno p' hp'
      exact Option.some_inj.mp hp' ▸ hno
    · intro hno
      exact hno p rfl

/-- Three devices, the last of which has the name that the second one is given. -/
def suffixedSiblings : List RegEntry :=
  [{ regid := 1, name := some (cstr "foo") }, { regid := 2, name := some (cstr "foo") },
    { regid := 3, name := some (cstr "foo@1") }]

theorem suffixed_siblings_collide :
    ((sysfsSnapBuild 0 (some suffixedSiblings)
      { yields := some suffixedSiblings, kexts := none, uptime := 0 }).1.any fun snap =>
        sysfsIokitChildAt (some snap) 0 1 256 = some (cstr "foo@1", 2) ∧
        sysfsIokitChildAt (some snap) 0 2 256 = some (cstr "foo@1", 3) ∧
        sysfsIokitChildNamed (some snap) 0 (cstr "foo@1") 5 = some 2) = true := by
  decide +kernel

def plainSiblings : List RegEntry :=
  [{ regid := 1, name := some (cstr "foo") }, { regid := 2, name := some (cstr "foo") },
    { regid := 3, name := some (cstr "foo@2") }]

/-- Two of the same name beside a suffix that is not given out. -/
theorem plain_siblings_agree :
    ∃ snap, (sysfsSnapBuild 0 (some plainSiblings)
      { yields := some plainSiblings, kexts := none, uptime := 0 }).1 = some snap ∧
      ChildNamesAgree (some snap) 0 256 := by
  have hsome : ((sysfsSnapBuild 0 (some plainSiblings)
      { yields := some plainSiblings, kexts := none, uptime := 0 }).1.any fun snap =>
        sysfsHashFind (some snap) 0 = some 0 ∧ snap.children 0 = [1, 2, 3] ∧
        (snap.children 0).map (fun i => (snap.node i).name) =
          [cstr "foo", cstr "foo", cstr "foo@2"]) = true := by
    decide +kernel
  obtain ⟨snap, hsnap, hall⟩ := (Option.any_eq_true _ _).mp hsome
  obtain ⟨hfind, hchildren, hnames⟩ := of_decide_eq_true hall
  refine ⟨snap, hsnap, (child_names_agree_iff hsnap 0 (by decide)).mpr ?_⟩
  rintro p hp ⟨i, hi, base, k, _, hname, hmany⟩
  cases hfind.symm.trans hp
  have hmem : numbered base k ∈ [cstr "foo", cstr "foo", cstr "foo@2"] := by
    rw [← hnames, ← hname]
    exact List.mem_map_of_mem hi
  have hsep : (64 : UInt8) ∈ numbered base k := by simp [numbered]
  have hlast : numbered base k = numbered (cstr "foo") 2 := by
    rcases List.mem_cons.mp hmem with heq | hrest
    · rw [heq] at hsep
      exact absurd hsep (by decide)
    · rcases List.mem_cons.mp hrest with heq | hrest
      · rw [heq] at hsep
        exact absurd hsep (by decide)
      · exact (List.mem_singleton.mp hrest).trans (by decide)
  obtain ⟨hbase, hk⟩ := numbered_inj hlast
  have htwo : ((snap.children 0).map fun j => (snap.node j).name).count (cstr "foo") = 2 := by
    rw [hnames]
    decide
  rw [List.count, List.countP_map] at htwo
  rw [hbase, hk] at hmany
  refine absurd hmany (Nat.not_lt.mpr (Nat.le_of_eq (Eq.trans ?_ htwo)))
  apply List.countP_congr
  intro j _
  simp

end SysFS
