import SysFS.SnapTree

namespace SysFS

/-- Node `p` is the one that the `parent_regid` of node `i` maps to: it has that id, or it
is the root and no node has it. -/
def IsParent (snap : Snapshot) (p i : ℕ) : Prop :=
  p < snap.nodeCount ∧
    ((snap.node p).regid = (snap.node i).parentRegid ∨
      p = 0 ∧ ∀ q < snap.nodeCount, (snap.node q).regid ≠ (snap.node i).parentRegid)

/-- The position `j` of `child_idx` is in the segment of node `p`. -/
def InSegment (snap : Snapshot) (p j : ℕ) : Prop :=
  (snap.node p).firstChild ≤ j ∧ j < (snap.node p).firstChild + (snap.node p).numChildren

/-- The used part of `child_idx` has `node_count - 1` positions. -/
structure Segments (snap : Snapshot) : Prop where
  once : ∀ i, 0 < i → i < snap.nodeCount →
    ∃! j, j < snap.nodeCount - 1 ∧ snap.childIdx[j]? = some i
  parent : ∀ i, 0 < i → i < snap.nodeCount → ∃ p, IsParent snap p i ∧
    ∀ j < snap.nodeCount - 1, snap.childIdx[j]? = some i → InSegment snap p j
  used : ∀ p < snap.nodeCount, ∀ j, InSegment snap p j → j < snap.nodeCount - 1
  disjoint : ∀ p < snap.nodeCount, ∀ q < snap.nodeCount, ∀ j,
    InSegment snap p j → InSegment snap q j → p = q
  increasing : ∀ p < snap.nodeCount, ∀ j k, InSegment snap p j → InSegment snap p k → j < k →
    snap.childIdx.getD j 0 < snap.childIdx.getD k 0

/-- The position at which the loop that fills `child_idx` stores node `i`, when it has
stored the nodes of `done`. -/
def storeIndex (snap : Snapshot) (done : List ℕ) (i : ℕ) : ℕ :=
  (done.foldl (Csr.place (parentIdx snap))
    ((assignChildren 0 snap.nodes (childCounts snap)).map SnapNode.firstChild,
      snap.childIdx)).1.getD (parentIdx snap i) 0

/-- Every store into `child_idx` is within `child_cap`. -/
def StoresInside (snap : Snapshot) : Prop :=
  ∀ done i rest, childItems snap = done ++ i :: rest →
    storeIndex snap done i < snap.childIdx.length

theorem Recorded.storesInside {cap : ℕ} {es : List RegEntry} {snap : Snapshot}
    (h : Recorded cap es snap) : StoresInside snap := by
  intro done i rest hitems
  rw [storeIndex, assignChildren_firstChild 0 (length_childCounts snap)]
  exact Csr.place_lt_length (fun i _ => h.parentIdx_lt i) h.childItems_length_le hitems

section Segments

variable {es : List RegEntry} {snap : Snapshot} (h : Built es snap) (hlist : ChildrenListed snap)

include h in
theorem Built.isParent_parentIdx (i : ℕ) : IsParent snap (parentIdx snap i) i := by
  refine ⟨h.parentIdx_lt i, ?_⟩
  rw [parentIdx]
  cases hf : sysfsHashFind (some snap) (snap.node i).parentRegid with
  | none =>
    refine Or.inr ⟨rfl, fun q hq heq => ?_⟩
    have hfind := h.find_node hq
    rw [heq, hf] at hfind
    cases hfind
  | some p => exact Or.inl (h.find_lt hf).2

def Laid (snap : Snapshot) : Prop :=
  snap.nodeCount - 1 ≤ snap.childIdx.length ∧
    ∀ p < snap.nodeCount, (snap.node p).firstChild = Csr.offset (childCounts snap) p

variable (hlaid : Laid snap)

include hlist in
theorem childCounts_getD {p : ℕ} (hp : p < snap.nodeCount) :
    (childCounts snap).getD p 0 = (snap.node p).numChildren := by
  rw [childCounts, Csr.getD_counts hp, ← hlist p hp, children_eq, List.length_map,
    List.length_range]

include hlist in
theorem childIdx_getD {p k : ℕ} (hp : p < snap.nodeCount) (hk : k < (snap.node p).numChildren) :
    (Csr.kids (parentIdx snap) (childItems snap) p)[k]? =
      some (snap.childIdx.getD ((snap.node p).firstChild + k) 0) := by
  rw [← hlist p hp, Snapshot.children, List.getElem?_map, List.getElem?_range hk, Option.map_some]

include h in
theorem Built.sum_childCounts : (childCounts snap).sum = snap.nodeCount - 1 := by
  rw [childCounts, Csr.sum_counts fun i _ => h.parentIdx_lt i, childItems, List.length_range']

theorem inSegment_iff {p j : ℕ} : InSegment snap p j ↔
    ∃ k < (snap.node p).numChildren, (snap.node p).firstChild + k = j := by
  constructor
  · intro ⟨hle, hlt⟩
    exact ⟨j - (snap.node p).firstChild, by omega, by omega⟩
  · intro ⟨k, hk, hj⟩
    rw [InSegment]
    omega

include h hlist hlaid in
theorem exists_segment {j : ℕ} (hj : j < snap.nodeCount - 1) :
    ∃ p < snap.nodeCount, ∃ k < (snap.node p).numChildren, (snap.node p).firstChild + k = j := by
  rw [← h.sum_childCounts] at hj
  have ⟨p, hp, k, hk, hat⟩ := Csr.exists_place hj
  rw [length_childCounts] at hp
  rw [childCounts_getD hlist hp] at hk
  exact ⟨p, hp, k, hk, by rw [hlaid.2 p hp, hat]⟩

include h hlist hlaid in
theorem segment_lt {p k : ℕ} (hp : p < snap.nodeCount) (hk : k < (snap.node p).numChildren) :
    (snap.node p).firstChild + k < snap.nodeCount - 1 := by
  rw [← childCounts_getD hlist hp] at hk
  rw [hlaid.2 p hp, ← h.sum_childCounts]
  exact Csr.place_lt_total _ (length_childCounts snap ▸ hp) hk

include h hlist hlaid in
theorem childIdx_eq_iff {i j : ℕ} (hj : j < snap.nodeCount - 1) :
    snap.childIdx[j]? = some i ↔
      ∃ k, (Csr.kids (parentIdx snap) (childItems snap) (parentIdx snap i))[k]? = some i ∧
        (snap.node (parentIdx snap i)).firstChild + k = j := by
  have hget : snap.childIdx[j]? = some (snap.childIdx.getD j 0) := by
    have hlt : j < snap.childIdx.length := Nat.lt_of_lt_of_le hj hlaid.1
    rw [List.getElem?_eq_getElem hlt, List.getD_eq_getElem _ _ hlt]
  constructor
  · intro hi
    have ⟨p, hp, k, hk, hat⟩ := exists_segment h hlist hlaid hj
    have hkid := childIdx_getD hlist hp hk
    rw [hat, ← hget, hi] at hkid
    have hpi : parentIdx snap i = p :=
      of_decide_eq_true (List.mem_filter.mp (List.mem_of_getElem? hkid)).2
    rw [hpi]
    exact ⟨k, hkid, hat⟩
  · intro ⟨k, hkid, hat⟩
    have hp := h.parentIdx_lt i
    have hk : k < (snap.node (parentIdx snap i)).numChildren := by
      rw [← childCounts_getD hlist hp, childCounts, Csr.getD_counts hp]
      exact (List.getElem?_eq_some_iff.mp hkid).1
    rw [childIdx_getD hlist hp hk, hat] at hkid
    rw [hget]
    exact hkid

include h hlist hlaid in
theorem segments_of_laid : Segments snap where
  once i hpos hi := by
    have hmem : i ∈ Csr.kids (parentIdx snap) (childItems snap) (parentIdx snap i) := by
      rw [Csr.kids, List.mem_filter, childItems, List.mem_range'_1]
      exact ⟨by omega, decide_eq_true rfl⟩
    have hnodup : (Csr.kids (parentIdx snap) (childItems snap) (parentIdx snap i)).Nodup :=
      (List.nodup_range' ..).filter _
    obtain ⟨k, hk⟩ := List.mem_iff_getElem?.mp hmem
    have hp := h.parentIdx_lt i
    have hlt : (snap.node (parentIdx snap i)).firstChild + k < snap.nodeCount - 1 := by
      apply segment_lt h hlist hlaid hp
      rw [← childCounts_getD hlist hp, childCounts, Csr.getD_counts hp]
      exact (List.getElem?_eq_some_iff.mp hk).1
    refine ⟨_, ⟨hlt, (childIdx_eq_iff h hlist hlaid hlt).mpr ⟨k, hk, rfl⟩⟩, ?_⟩
    rintro j ⟨hj, hji⟩
    obtain ⟨k', hk', hat⟩ := (childIdx_eq_iff h hlist hlaid hj).mp hji
    have hlt' := (List.getElem?_eq_some_iff.mp hk').1
    rw [← hat, (List.getElem?_inj hlt' hnodup).mp (hk'.trans hk.symm)]
  parent i hpos hi := by
    refine ⟨parentIdx snap i, h.isParent_parentIdx i, fun j hj hji => ?_⟩
    obtain ⟨k, hk, hat⟩ := (childIdx_eq_iff h hlist hlaid hj).mp hji
    refine inSegment_iff.mpr ⟨k, ?_, hat⟩
    rw [← childCounts_getD hlist (h.parentIdx_lt i), childCounts,
      Csr.getD_counts (h.parentIdx_lt i)]
    exact (List.getElem?_eq_some_iff.mp hk).1
  used p hp j hj := by
    obtain ⟨k, hk, hat⟩ := inSegment_iff.mp hj
    rw [← hat]
    exact segment_lt h hlist hlaid hp hk
  disjoint p hp q hq j hpj hqj := by
    obtain ⟨k, hk, hat⟩ := inSegment_iff.mp hpj
    obtain ⟨k', hk', hat'⟩ := inSegment_iff.mp hqj
    rw [← childCounts_getD hlist hp] at hk
    rw [← childCounts_getD hlist hq] at hk'
    rw [hlaid.2 p hp] at hat
    rw [hlaid.2 q hq] at hat'
    exact Csr.places_disjoint _ (length_childCounts snap ▸ hp) (length_childCounts snap ▸ hq)
      hk hk' (hat.trans hat'.symm)
  increasing p hp j k hj hk hjk := by
    obtain ⟨a, ha, hat⟩ := inSegment_iff.mp hj
    obtain ⟨b, hb, hbt⟩ := inSegment_iff.mp hk
    have hsorted : (Csr.kids (parentIdx snap) (childItems snap) p).Pairwise (· < ·) :=
      (List.pairwise_lt_range' ..).sublist List.filter_sublist
    obtain ⟨ha', hga⟩ := List.getElem?_eq_some_iff.mp (childIdx_getD hlist hp ha)
    obtain ⟨hb', hgb⟩ := List.getElem?_eq_some_iff.mp (childIdx_getD hlist hp hb)
    rw [← hat, ← hbt, ← hga, ← hgb]
    exact List.pairwise_iff_getElem.mp hsorted a b ha' hb' (by omega)

end Segments

section Build

variable {cap : ℕ} {es : List RegEntry} {snap snap' : Snapshot} {inp : BuildInput}

theorem Recorded.snapFinish_laid (h : Recorded cap es snap)
    (hcounts : inp.allocs.childCounts = true) (hcursor : inp.allocs.cursor = true)
    (hf : snapFinish inp snap = some snap') : Laid snap' ∧ snap'.childIdx.length = cap := by
  have hcore := buildOrdinals_core snap
  have hcount := core_nodeCount hcore
  rw [snapFinish, hcounts, hcursor, if_neg (Nat.not_lt.mpr h.sum_childCounts_le)] at hf
  cases hf
  have hlength : (buildChildren true snap).childIdx.length = cap := by
    rw [buildChildren_childIdx, Csr.fill, Csr.length_foldl_place]
    exact h.childIdx
  refine ⟨⟨?_, ?_⟩, hlength⟩
  · show (buildOrdinals (buildChildren true snap)).nodeCount - 1 ≤
      (buildChildren true snap).childIdx.length
    have hfits := h.fits
    rw [hcount, hlength]
    omega
  · intro p hp
    have hp' : p < snap.nodeCount := hcount ▸ hp
    have hcounts : childCounts (buildOrdinals (buildChildren true snap)) = childCounts snap := by
      rw [childCounts, childCounts, childItems, childItems, hcount, core_parentIdx hcore rfl]
    have hfirst := congrArg SnapNode.firstChild
      (buildOrdinals_node_bare (buildChildren true snap) p)
    have hoffset := congrArg (Csr.offset · p) hcounts.symm
    exact hfirst.trans ((buildChildren_firstChild hp').trans hoffset)

/-- Whatever the iterator yields, the child lists are laid out so when the allocations
succeed, and when one of the two for the child lists fails no node has children. The abort
for a registry that changed too much is never taken. -/
theorem child_lists_built (hpos : 0 < cap) (hcap : cap ≤ sysfsIokitMaxnodes) (lastNodeCount : ℕ)
    (inp : BuildInput)
    (htables : inp.allocs.nodes = true ∧ inp.allocs.childIdx = true ∧ inp.allocs.hash = true) :
    ∃ snap, (snapBuildSized cap lastNodeCount inp).1 = some snap ∧
      (inp.allocs.childCounts = true → inp.allocs.cursor = true →
        Segments snap ∧ snap.childIdx.length = cap ∧ StoresInside (snapWalk cap inp.yields)) ∧
      (inp.allocs.childCounts = false ∨ inp.allocs.cursor = false →
        ∀ nd ∈ snap.nodes, nd.numChildren = 0) := by
  obtain ⟨es, hrec, _⟩ := snapWalk_spec hpos hcap inp.yields
  obtain ⟨snap, hsnap⟩ := Option.isSome_iff_exists.mp (hrec.snapFinish_isSome inp)
  refine ⟨snap, ?_, ?_, fun hfail => (snapFinish_empty hfail hsnap).2.2⟩
  · rw [snapBuildSized, htables.1, htables.2.1, htables.2.2]
    exact hsnap
  · intro hcounts hcursor
    have hlist : ChildrenListed snap := fun p hp =>
      hrec.snapFinish_children hcounts hcursor hsnap hp
    obtain ⟨hlaid, hlength⟩ := hrec.snapFinish_laid hcounts hcursor hsnap
    exact ⟨segments_of_laid (hrec.snapFinish_built hcap hsnap) hlist hlaid, hlength,
      hrec.storesInside⟩

end Build

theorem out_of_order_segments :
    ∃ snap, (snapBuildSized 3 0 { yields := some outOfOrder, kexts := none, uptime := 0 }).1 =
      some snap ∧ Segments snap ∧ snap.childIdx.length = 3 ∧
        StoresInside (snapWalk 3 (some outOfOrder)) := by
  have hpos : 0 < 3 := by decide
  have hcap : 3 ≤ sysfsIokitMaxnodes := by decide
  have ⟨snap, hsnap, hlists, _⟩ := child_lists_built hpos hcap 0
    { yields := some outOfOrder, kexts := none, uptime := 0 } ⟨rfl, rfl, rfl⟩
  exact ⟨snap, hsnap, hlists rfl rfl⟩

end SysFS
