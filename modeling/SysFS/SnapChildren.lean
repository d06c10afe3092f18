import Mathlib
import SysFS.SnapWalk

namespace SysFS
open CString LinearProbing

def SnapNode.core (nd : SnapNode) : SnapNode :=
  { nd with firstChild := 0, numChildren := 0, dupOrdinal := 0 }

def SnapNode.bare (nd : SnapNode) : SnapNode := { nd with dupOrdinal := 0 }

def Snapshot.children (snap : Snapshot) (p : ℕ) : List ℕ :=
  (List.range (snap.node p).numChildren).map fun k =>
    snap.childIdx.getD ((snap.node p).firstChild + k) 0

theorem map_core_of_map_bare {l m : List SnapNode} (h : l.map SnapNode.bare = m.map SnapNode.bare) :
    l.map SnapNode.core = m.map SnapNode.core := by
  have hc := congrArg (List.map SnapNode.core) h
  rw [List.map_map, List.map_map] at hc
  exact hc

theorem snapNode_core (e : RegEntry) : (snapNode e).core = snapNode e := by
  simp only [snapNode]
  repeat' split
  all_goals rfl

theorem getD_field_congr {α : Type} {f : SnapNode → SnapNode} (field : SnapNode → α)
    (hfield : ∀ nd, field (f nd) = field nd) {l m : List SnapNode}
    (h : l.map f = m.map f) (i : ℕ) :
    field (l.getD i default) = field (m.getD i default) := by
  have hi : (l[i]?).map f = (m[i]?).map f := by
    rw [← List.getElem?_map, h, List.getElem?_map]
  rw [List.getD_eq_getElem?_getD, List.getD_eq_getElem?_getD]
  cases hl : l[i]? with
  | none =>
    rw [hl, Option.map_none, eq_comm, Option.map_eq_none_iff] at hi
    rw [hi]
  | some nd =>
    rw [hl, Option.map_some, eq_comm, Option.map_eq_some_iff] at hi
    have ⟨nd', hm, hf⟩ := hi
    rw [hm, Option.getD_some, Option.getD_some, ← hfield nd, ← hf, hfield]

theorem assignChildren_core (off : ℕ) (nodes : List SnapNode) (counts : List ℕ) :
    (assignChildren off nodes counts).map SnapNode.core = nodes.map SnapNode.core := by
  induction nodes generalizing off counts with
  | nil => cases counts <;> rfl
  | cons nd nodes ih =>
    cases counts with
    | nil => rfl
    | cons c counts =>
      rw [assignChildren, List.map_cons, ih (off + c) counts, List.map_cons]
      rfl

theorem assignChildren_firstChild (off : ℕ) {nodes : List SnapNode} {counts : List ℕ}
    (h : counts.length = nodes.length) :
    (assignChildren off nodes counts).map SnapNode.firstChild = Csr.offsetsFrom off counts := by
  induction nodes generalizing off counts with
  | nil => rw [List.length_eq_zero_iff.mp h]; rfl
  | cons nd nodes ih =>
    cases counts with
    | nil => cases h
    | cons c counts =>
      rw [assignChildren, List.map_cons, ih (off + c) (by simpa using h), Csr.offsetsFrom]

theorem assignChildren_numChildren (off : ℕ) {nodes : List SnapNode} {counts : List ℕ}
    (h : counts.length = nodes.length) :
    (assignChildren off nodes counts).map SnapNode.numChildren = counts := by
  induction nodes generalizing off counts with
  | nil => rw [List.length_eq_zero_iff.mp h]; rfl
  | cons nd nodes ih =>
    cases counts with
    | nil => cases h
    | cons c counts =>
      rw [assignChildren, List.map_cons, ih (off + c) (by simpa using h)]

theorem getD_map_field {α : Type} (field : SnapNode → α) (l : List SnapNode) (i : ℕ) :
    (l.map field).getD i (field default) = field (l.getD i default) := by
  rw [List.getD_eq_getElem?_getD, List.getD_eq_getElem?_getD, List.getElem?_map,
    Option.getD_map]

section Children

variable {cap : ℕ} {es : List RegEntry} {snap : Snapshot} (h : Recorded cap es snap)
include h

theorem Recorded.node_lt {r : UInt64} {i : ℕ} (hf : sysfsHashFind (some snap) r = some i) :
    i < snap.nodeCount := by
  rw [h.hashFind, h.find] at hf
  have ⟨nd, hnd, _⟩ := hf
  exact (List.getElem?_eq_some_iff.mp hnd).1

theorem Recorded.nodeCount_pos : 0 < snap.nodeCount := by
  rw [Snapshot.nodeCount, h.nodes]
  exact Nat.succ_pos _

theorem Recorded.parentIdx_lt (i : ℕ) : parentIdx snap i < snap.nodeCount := by
  rw [parentIdx]
  cases hf : sysfsHashFind (some snap) (snap.node i).parentRegid with
  | none => exact h.nodeCount_pos
  | some p => exact h.node_lt hf

theorem Recorded.sum_childCounts : (childCounts snap).sum = snap.nodeCount - 1 := by
  rw [childCounts, Csr.sum_counts fun i _ => h.parentIdx_lt i, childItems, List.length_range']

theorem Recorded.sum_childCounts_le : (childCounts snap).sum ≤ snap.childIdx.length := by
  -- the abort for too many children is not reached
  have := h.fits
  rw [h.sum_childCounts, h.childIdx]
  omega

theorem Recorded.childItems_length_le : (childItems snap).length ≤ snap.childIdx.length := by
  rw [← Csr.sum_counts fun i _ => h.parentIdx_lt i]
  exact h.sum_childCounts_le

omit h in
theorem length_childCounts (snap : Snapshot) : (childCounts snap).length = snap.nodes.length :=
  Csr.length_counts

omit h in
theorem buildChildren_numChildren {p : ℕ} (hp : p < snap.nodeCount) :
    ((buildChildren true snap).node p).numChildren =
      (Csr.kids (parentIdx snap) (childItems snap) p).length := by
  rw [← Csr.getD_counts hp]
  show ((assignChildren 0 snap.nodes (childCounts snap)).getD p default).numChildren = _
  rw [← getD_map_field SnapNode.numChildren, assignChildren_numChildren 0 (length_childCounts snap)]
  rfl

omit h in
theorem buildChildren_firstChild {p : ℕ} (hp : p < snap.nodeCount) :
    ((buildChildren true snap).node p).firstChild = Csr.offset (childCounts snap) p := by
  have hlen := length_childCounts snap
  show ((assignChildren 0 snap.nodes (childCounts snap)).getD p default).firstChild = _
  rw [← getD_map_field SnapNode.firstChild, assignChildren_firstChild 0 hlen]
  exact (Csr.getD_offsetsFrom 0 _ (hlen.symm ▸ hp)).trans (Nat.zero_add _)

omit h in
theorem buildChildren_childIdx (snap : Snapshot) :
    (buildChildren true snap).childIdx =
      Csr.fill (parentIdx snap) (Csr.offsetsFrom 0 (childCounts snap)) snap.childIdx
        (childItems snap) := by
  rw [← assignChildren_firstChild 0 (length_childCounts snap)]
  rfl

theorem Recorded.buildChildren_children {p : ℕ} (hp : p < snap.nodeCount) :
    (buildChildren true snap).children p = Csr.kids (parentIdx snap) (childItems snap) p := by
  rw [Snapshot.children, buildChildren_numChildren hp, buildChildren_firstChild hp,
    buildChildren_childIdx]
  apply List.ext_getElem
  · rw [List.length_map, List.length_range]
  · intro k hk hk'
    rw [List.getElem_map, List.getElem_range]
    have hfill := Csr.getD_fill (fun i _ => h.parentIdx_lt i) h.childItems_length_le hp hk'
    exact hfill.trans (List.getD_eq_getElem _ _ hk')

end Children

section Ordinals

variable {childIdx : List ℕ} {nodes nodes₀ : List SnapNode}

theorem modify_bare {f : SnapNode → SnapNode} (hf : ∀ nd, (f nd).bare = nd.bare)
    (nodes : List SnapNode) (c : ℕ) :
    (nodes.modify c f).map SnapNode.bare = nodes.map SnapNode.bare := by
  induction nodes generalizing c with
  | nil => rw [List.modify_nil]
  | cons nd nodes ih =>
    cases c with
    | zero => rw [List.modify_zero_cons, List.map_cons, hf, List.map_cons]
    | succ c => rw [List.modify_succ_cons, List.map_cons, ih, List.map_cons]

theorem foldl_bare {step : List SnapNode → ℕ → List SnapNode}
    (hstep : ∀ nodes i, (step nodes i).map SnapNode.bare = nodes.map SnapNode.bare)
    (indices : List ℕ) (nodes : List SnapNode) :
    (indices.foldl step nodes).map SnapNode.bare = nodes.map SnapNode.bare := by
  induction indices generalizing nodes with
  | nil => rfl
  | cons i indices ih => rw [List.foldl_cons, ih, hstep]

theorem buildOrdinals_bare (snap : Snapshot) :
    (buildOrdinals snap).nodes.map SnapNode.bare = snap.nodes.map SnapNode.bare := by
  apply foldl_bare
  intro nodes p
  apply foldl_bare
  intro nodes i
  apply modify_bare
  intro nd
  rfl

theorem buildOrdinals_core (snap : Snapshot) :
    (buildOrdinals (buildChildren true snap)).nodes.map SnapNode.core =
      snap.nodes.map SnapNode.core := by
  have hcore := map_core_of_map_bare (buildOrdinals_bare (buildChildren true snap))
  exact hcore.trans (assignChildren_core 0 _ _)

theorem buildOrdinals_node_bare (snap : Snapshot) (p : ℕ) :
    ((buildOrdinals snap).node p).bare = (snap.node p).bare :=
  getD_field_congr (f := SnapNode.bare) SnapNode.bare (fun _ => rfl) (buildOrdinals_bare snap) p

theorem dupOrdinal_congr (h : nodes.map SnapNode.bare = nodes₀.map SnapNode.bare) (base i : ℕ) :
    dupOrdinal nodes childIdx base i = dupOrdinal nodes₀ childIdx base i := by
  -- ordinals depend on the names only
  have hname : ∀ j, (nodes.getD j default).name = (nodes₀.getD j default).name :=
    getD_field_congr (f := SnapNode.bare) SnapNode.name (fun _ => rfl) h
  simp only [dupOrdinal, hname]

def childOf (childIdx : List ℕ) (nodes : List SnapNode) (p k : ℕ) : ℕ :=
  childIdx.getD ((nodes.getD p default).firstChild + k) 0

def ordinalOf (childIdx : List ℕ) (nodes : List SnapNode) (p k : ℕ) : ℕ :=
  dupOrdinal nodes childIdx (nodes.getD p default).firstChild k

/-- Only ordinals have changed since `nodes₀`, and the children of `done` have theirs. -/
structure OrdinalsSet (childIdx : List ℕ) (nodes₀ : List SnapNode) (done : ℕ → ℕ → Prop)
    (nodes : List SnapNode) : Prop where
  bare : nodes.map SnapNode.bare = nodes₀.map SnapNode.bare
  ordinal : ∀ p k, done p k →
    (nodes.getD (childOf childIdx nodes₀ p k) default).dupOrdinal = ordinalOf childIdx nodes₀ p k

structure Listed (childIdx : List ℕ) (nodes : List SnapNode) : Prop where
  lt : ∀ p k, k < (nodes.getD p default).numChildren → childOf childIdx nodes p k < nodes.length
  inj : ∀ p k q j, k < (nodes.getD p default).numChildren →
    j < (nodes.getD q default).numChildren →
    childOf childIdx nodes p k = childOf childIdx nodes q j → p = q ∧ k = j

theorem OrdinalsSet.congr_done {done done' : ℕ → ℕ → Prop}
    (h : OrdinalsSet childIdx nodes₀ done nodes) (hd : ∀ p k, done' p k → done p k) :
    OrdinalsSet childIdx nodes₀ done' nodes :=
  ⟨h.bare, fun p k hk => h.ordinal p k (hd p k hk)⟩

theorem OrdinalsSet.store {done : ℕ → ℕ → Prop} (h : OrdinalsSet childIdx nodes₀ done nodes)
    (hl : Listed childIdx nodes₀)
    (hdone : ∀ p k, done p k → k < (nodes₀.getD p default).numChildren) {p i : ℕ}
    (hi : i < (nodes₀.getD p default).numChildren) :
    OrdinalsSet childIdx nodes₀ (fun q k => done q k ∨ q = p ∧ k = i)
      (nodes.modify (childOf childIdx nodes₀ p i) fun nd =>
        { nd with dupOrdinal := ordinalOf childIdx nodes p i }) := by
  have hord : ordinalOf childIdx nodes p i = ordinalOf childIdx nodes₀ p i := by
    rw [ordinalOf, dupOrdinal_congr h.bare, ordinalOf,
      getD_field_congr (f := SnapNode.bare) SnapNode.firstChild (fun _ => rfl) h.bare p]
  refine ⟨(modify_bare (by exact fun _ => rfl) _ _).trans h.bare, ?_⟩
  intro q k hqk
  have hlen : nodes.length = nodes₀.length := by
    simpa using congrArg List.length h.bare
  by_cases hsame : q = p ∧ k = i
  · rw [hsame.1, hsame.2]
    have hlt := hlen ▸ hl.lt p i hi
    rw [List.getD_eq_getElem?_getD, List.getElem?_modify_eq, List.getElem?_eq_getElem hlt]
    exact hord
  · have hold := hqk.resolve_right hsame
    have hne : childOf childIdx nodes₀ p i ≠ childOf childIdx nodes₀ q k := by
      intro heq
      have ⟨hp, hk⟩ := hl.inj p i q k hi (hdone q k hold) heq
      exact hsame ⟨hp.symm, hk.symm⟩
    rw [List.getD_eq_getElem?_getD, List.getElem?_modify_ne _ _ hne, ← List.getD_eq_getElem?_getD]
    exact h.ordinal q k hold

theorem OrdinalsSet.assignOrdinals {n : ℕ}
    (h : OrdinalsSet childIdx nodes₀
      (fun q k => q < n ∧ k < (nodes₀.getD q default).numChildren) nodes)
    (hl : Listed childIdx nodes₀) :
    OrdinalsSet childIdx nodes₀
      (fun q k => q < n + 1 ∧ k < (nodes₀.getD q default).numChildren)
      (assignOrdinals childIdx nodes n) := by
  have hnum : (nodes.getD n default).numChildren = (nodes₀.getD n default).numChildren :=
    getD_field_congr (f := SnapNode.bare) SnapNode.numChildren (fun _ => rfl) h.bare n
  have hfirst : (nodes.getD n default).firstChild = (nodes₀.getD n default).firstChild :=
    getD_field_congr (f := SnapNode.bare) SnapNode.firstChild (fun _ => rfl) h.bare n
  have hloop : ∀ m ≤ (nodes₀.getD n default).numChildren,
      OrdinalsSet childIdx nodes₀
        (fun q k => (q < n ∧ k < (nodes₀.getD q default).numChildren) ∨ q = n ∧ k < m)
        ((List.range m).foldl
          (fun nodes i => nodes.modify
            (childIdx.getD ((nodes₀.getD n default).firstChild + i) 0) fun nd =>
              { nd with
                dupOrdinal := dupOrdinal nodes childIdx (nodes₀.getD n default).firstChild i })
          nodes) := by
    intro m hm
    induction m with
    | zero => exact h.congr_done fun q k hqk => hqk.resolve_right (by omega)
    | succ m ih =>
      rw [List.range_succ, List.foldl_append, List.foldl_cons, List.foldl_nil]
      have hm' := ih (by omega)
      have hbase := getD_field_congr (f := SnapNode.bare) SnapNode.firstChild (fun _ => rfl)
        hm'.bare n
      have hstore := hm'.store hl (p := n) (i := m) (by rintro q k (hk | ⟨hq, hk⟩) <;> grind)
        (by omega)
      rw [ordinalOf, hbase] at hstore
      apply hstore.congr_done
      intro q k hqk
      omega
  rw [SysFS.assignOrdinals, hnum, hfirst]
  apply (hloop _ (Nat.le_refl _)).congr_done
  intro q k hqk
  by_cases hq : q = n
  · exact Or.inr ⟨hq, hq ▸ hqk.2⟩
  · exact Or.inl ⟨by omega, hqk.2⟩

theorem ordinalsSet_buildOrdinals (hl : Listed childIdx nodes₀) (n : ℕ) :
    OrdinalsSet childIdx nodes₀ (fun q k => q < n ∧ k < (nodes₀.getD q default).numChildren)
      ((List.range n).foldl (assignOrdinals childIdx) nodes₀) := by
  induction n with
  | zero => exact ⟨rfl, fun q k hqk => absurd hqk.1 (Nat.not_lt_zero q)⟩
  | succ n ih =>
    rw [List.range_succ, List.foldl_append, List.foldl_cons, List.foldl_nil]
    exact ih.assignOrdinals hl

end Ordinals

def Snapshot.childAt (snap : Snapshot) (p k : ℕ) : ℕ := childOf snap.childIdx snap.nodes p k

/-- A snapshot with the entries of `es`, as a build returns it. The child lists are all
empty where an allocation for them failed. -/
structure Built (es : List RegEntry) (snap : Snapshot) : Prop where
  entries : snap.nodes.map SnapNode.core = snapRoot :: es.map snapNode
  count : snap.nodeCount ≤ sysfsIokitMaxnodes
  find : ∀ r i, sysfsHashFind (some snap) r = some i ↔
    ∃ nd, snap.nodes[i]? = some nd ∧ nd.regid = r
  children : (∀ p, snap.children p = []) ∨
    ∀ p < snap.nodeCount, snap.children p = Csr.kids (parentIdx snap) (childItems snap) p
  ordinal : ∀ p k, k < (snap.node p).numChildren →
    (snap.node (snap.childAt p k)).dupOrdinal = ordinalOf snap.childIdx snap.nodes p k

section Finish

variable {cap : ℕ} {es : List RegEntry} {snap snap' : Snapshot}

theorem children_eq (snap : Snapshot) (p : ℕ) :
    snap.children p = (List.range (snap.node p).numChildren).map (snap.childAt p) := rfl

theorem node_ge {p : ℕ} (hp : snap.nodeCount ≤ p) : snap.node p = default :=
  List.getD_eq_default _ _ hp

theorem core_nodeCount (hcore : snap'.nodes.map SnapNode.core = snap.nodes.map SnapNode.core) :
    snap'.nodeCount = snap.nodeCount := by
  simpa [Snapshot.nodeCount] using congrArg List.length hcore

theorem sysfsHashFind_congr (hhash : snap'.hash = snap.hash) (r : UInt64) :
    sysfsHashFind (some snap') r = sysfsHashFind (some snap) r := by
  show (if snap'.hash.length = 0 then none else hashFindFrom snap'.hash r snap'.hash.length
    (sysfsHashOf r &&& (snap'.hash.length - 1))) = _
  rw [hhash]
  rfl

theorem core_parentIdx (hcore : snap'.nodes.map SnapNode.core = snap.nodes.map SnapNode.core)
    (hhash : snap'.hash = snap.hash) : parentIdx snap' = parentIdx snap := by
  funext i
  have hp : (snap'.node i).parentRegid = (snap.node i).parentRegid :=
    getD_field_congr (f := SnapNode.core) SnapNode.parentRegid (fun _ => rfl) hcore i
  rw [parentIdx, parentIdx, hp, sysfsHashFind_congr hhash]

theorem Recorded.built (h : Recorded cap es snap) (hcap : cap ≤ sysfsIokitMaxnodes)
    (hcore : snap'.nodes.map SnapNode.core = snap.nodes.map SnapNode.core)
    (hhash : snap'.hash = snap.hash)
    (hchildren : (∀ p, snap'.children p = []) ∨
      ∀ p < snap.nodeCount, snap'.children p = Csr.kids (parentIdx snap) (childItems snap) p)
    (hordinal : ∀ p k, k < (snap'.node p).numChildren →
      (snap'.node (snap'.childAt p k)).dupOrdinal = ordinalOf snap'.childIdx snap'.nodes p k) :
    Built es snap' where
  entries := by
    rw [hcore, h.nodes, List.map_cons, List.map_map]
    congr 1
    exact List.map_congr_left fun e _ => snapNode_core e
  count := by
    rw [core_nodeCount hcore]
    exact h.fits.trans hcap
  find r i := by
    have hi : (snap'.nodes[i]?).map SnapNode.core = (snap.nodes[i]?).map SnapNode.core := by
      rw [← List.getElem?_map, hcore, List.getElem?_map]
    rw [sysfsHashFind_congr hhash, h.hashFind, h.find]
    constructor
    · intro ⟨nd, hnd, hr⟩
      rw [hnd, Option.map_some, Option.map_eq_some_iff] at hi
      have ⟨nd', hnd', hc⟩ := hi
      exact ⟨nd', hnd', (congrArg SnapNode.regid hc).trans hr⟩
    · intro ⟨nd, hnd, hr⟩
      rw [hnd, Option.map_some, eq_comm, Option.map_eq_some_iff] at hi
      have ⟨nd', hnd', hc⟩ := hi
      exact ⟨nd', hnd', (congrArg SnapNode.regid hc).trans hr⟩
  children := by
    rw [core_parentIdx hcore hhash, childItems, core_nodeCount hcore]
    exact hchildren
  ordinal := hordinal

theorem Recorded.built_empty (h : Recorded cap es snap) (hcap : cap ≤ sysfsIokitMaxnodes)
    (hcore : snap'.nodes.map SnapNode.core = snap.nodes.map SnapNode.core)
    (hhash : snap'.hash = snap.hash) (hnum : ∀ nd ∈ snap'.nodes, nd.numChildren = 0) :
    Built es snap' := by
  have hzero : ∀ p, (snap'.node p).numChildren = 0 := by
    intro p
    rw [Snapshot.node, List.getD_eq_getElem?_getD]
    cases hp : snap'.nodes[p]? with
    | none => rfl
    | some nd => exact hnum nd (List.mem_of_getElem? hp)
  apply h.built hcap hcore hhash
  · apply Or.inl
    intro p
    rw [children_eq, hzero]
    rfl
  · intro p k hk
    rw [hzero] at hk
    exact absurd hk (Nat.not_lt_zero k)

theorem mem_children_iff {p i : ℕ} :
    i ∈ snap.children p ↔ ∃ k < (snap.node p).numChildren, snap.childAt p k = i := by
  rw [children_eq, List.mem_map]
  constructor
  · intro ⟨k, hk, hi⟩
    exact ⟨k, List.mem_range.mp hk, hi⟩
  · intro ⟨k, hk, hi⟩
    exact ⟨k, List.mem_range.mpr hk, hi⟩

theorem Recorded.buildChildren_listed (h : Recorded cap es snap) :
    Listed (buildChildren true snap).childIdx (buildChildren true snap).nodes := by
  have hcount : (buildChildren true snap).nodeCount = snap.nodeCount :=
    core_nodeCount (assignChildren_core 0 _ _)
  have hbound : ∀ p k, k < ((buildChildren true snap).node p).numChildren → p < snap.nodeCount := by
    intro p k hk
    by_contra hp
    rw [node_ge (hcount.symm ▸ Nat.le_of_not_lt hp)] at hk
    exact absurd hk (Nat.not_lt_zero k)
  have hmem : ∀ p k, k < ((buildChildren true snap).node p).numChildren →
      (buildChildren true snap).childAt p k ∈ childItems snap ∧
        parentIdx snap ((buildChildren true snap).childAt p k) = p := by
    intro p k hk
    have hm := mem_children_iff.mpr ⟨k, hk, rfl⟩
    rw [h.buildChildren_children (hbound p k hk), Csr.kids, List.mem_filter,
      decide_eq_true_eq] at hm
    exact hm
  constructor
  · intro p k hk
    have hi := (hmem p k hk).1
    rw [childItems, List.mem_range'_1] at hi
    have := h.nodeCount_pos
    show (buildChildren true snap).childAt p k < (buildChildren true snap).nodeCount
    omega
  · intro p k q j hk hj heq
    have hp := (hmem p k hk).2
    have hq := (hmem q j hj).2
    have hpq : p = q := by
      rw [← hp, ← hq]
      exact congrArg (parentIdx snap) heq
    subst hpq
    refine ⟨rfl, ?_⟩
    have hnodup : ((buildChildren true snap).children p).Nodup := by
      rw [h.buildChildren_children (hbound p k hk)]
      exact (List.nodup_range' (h := Nat.one_pos)).filter _
    rw [children_eq] at hnodup
    exact List.inj_on_of_nodup_map hnodup (List.mem_range.mpr hk) (List.mem_range.mpr hj) heq

theorem buildOrdinals_childAt (snap : Snapshot) (p k : ℕ) :
    (buildOrdinals (buildChildren true snap)).childAt p k =
      (buildChildren true snap).childAt p k := by
  have hf := congrArg SnapNode.firstChild (buildOrdinals_node_bare (buildChildren true snap) p)
  exact congrArg (fun b => (buildChildren true snap).childIdx.getD (b + k) 0) hf

theorem Recorded.buildOrdinals_children (h : Recorded cap es snap) {p : ℕ}
    (hp : p < snap.nodeCount) :
    (buildOrdinals (buildChildren true snap)).children p =
      Csr.kids (parentIdx snap) (childItems snap) p := by
  have hnum : ((buildOrdinals (buildChildren true snap)).node p).numChildren =
      ((buildChildren true snap).node p).numChildren :=
    (congrArg SnapNode.numChildren (buildOrdinals_node_bare (buildChildren true snap) p) :)
  rw [← h.buildChildren_children hp, children_eq, children_eq, hnum]
  exact List.map_congr_left fun k _ => buildOrdinals_childAt snap p k

theorem Recorded.built_children (h : Recorded cap es snap) (hcap : cap ≤ sysfsIokitMaxnodes)
    (modules : List SnapModule) (uptime : ℕ) :
    Built es { buildOrdinals (buildChildren true snap) with modules, uptime } := by
  have hn := ordinalsSet_buildOrdinals h.buildChildren_listed (buildChildren true snap).nodeCount
  apply h.built hcap
  · exact buildOrdinals_core snap
  · rfl
  · exact Or.inr fun p hp => h.buildOrdinals_children hp
  · intro p k hk
    have hk' : k < ((buildChildren true snap).node p).numChildren :=
      (congrArg SnapNode.numChildren (buildOrdinals_node_bare (buildChildren true snap) p) :) ▸ hk
    have hlt : p < (buildChildren true snap).nodeCount := by
      by_contra hp
      rw [node_ge (Nat.le_of_not_lt hp)] at hk'
      exact absurd hk' (Nat.not_lt_zero k)
    have hord := hn.ordinal p k ⟨hlt, hk'⟩
    show ((buildOrdinals (buildChildren true snap)).node
      ((buildOrdinals (buildChildren true snap)).childAt p k)).dupOrdinal = _
    rw [buildOrdinals_childAt]
    refine hord.trans ?_
    rw [ordinalOf, ordinalOf, dupOrdinal_congr hn.bare.symm]
    exact congrArg (dupOrdinal _ _ · k)
      (congrArg SnapNode.firstChild (buildOrdinals_node_bare (buildChildren true snap) p)).symm

theorem buildOrdinals_nodes (hnone : ∀ nd ∈ snap.nodes, nd.numChildren = 0) :
    (buildOrdinals snap).nodes = snap.nodes := by
  have hzero : ∀ p, (snap.nodes.getD p default).numChildren = 0 := by
    intro p
    rw [List.getD_eq_getElem?_getD]
    cases hp : snap.nodes[p]? with
    | none => rfl
    | some nd => exact hnone nd (List.mem_of_getElem? hp)
  rw [buildOrdinals]
  generalize snap.nodeCount = n
  induction n with
  | zero => rfl
  | succ n ih =>
    have ih : (List.range n).foldl (assignOrdinals snap.childIdx) snap.nodes = snap.nodes := ih
    show (List.range (n + 1)).foldl (assignOrdinals snap.childIdx) snap.nodes = snap.nodes
    rw [List.range_succ, List.foldl_append, ih, List.foldl_cons, List.foldl_nil, assignOrdinals,
      hzero]
    rfl

theorem snapFinish_empty {inp : BuildInput}
    (hfail : inp.allocs.childCounts = false ∨ inp.allocs.cursor = false)
    (hf : snapFinish inp snap = some snap') :
    snap'.nodes.map SnapNode.core = snap.nodes.map SnapNode.core ∧ snap'.hash = snap.hash ∧
      ∀ nd ∈ snap'.nodes, nd.numChildren = 0 := by
  -- when one of the allocations for the child lists fails, no node has children
  rw [snapFinish] at hf
  split at hf
  · cases hf
    refine ⟨?_, rfl, ?_⟩
    · rw [List.map_map]
      rfl
    · intro nd hnd
      have ⟨_, _, heq⟩ := List.mem_map.mp hnd
      rw [← heq]
  · next hcounts =>
    have hcursor : inp.allocs.cursor = false :=
      hfail.resolve_left fun hc => hcounts (by rw [hc]; rfl)
    rw [hcursor] at hf
    split at hf
    · cases hf
    · cases hf
      have hnone : ∀ nd ∈ (buildChildren false snap).nodes, nd.numChildren = 0 := by
        intro nd hnd
        have ⟨_, _, heq⟩ := List.mem_map.mp hnd
        rw [← heq]
      refine ⟨?_, rfl, ?_⟩
      · show (buildOrdinals (buildChildren false snap)).nodes.map _ = _
        rw [buildOrdinals_nodes hnone]
        show List.map _ (List.map _ (assignChildren 0 snap.nodes (childCounts snap))) = _
        rw [List.map_map]
        exact assignChildren_core 0 _ _
      · show ∀ nd ∈ (buildOrdinals (buildChildren false snap)).nodes, _
        rw [buildOrdinals_nodes hnone]
        exact hnone

theorem Recorded.snapFinish_built (h : Recorded cap es snap) (hcap : cap ≤ sysfsIokitMaxnodes)
    {inp : BuildInput} (hf : snapFinish inp snap = some snap') : Built es snap' := by
  by_cases hfail : inp.allocs.childCounts = false ∨ inp.allocs.cursor = false
  · have ⟨hcore, hhash, hnum⟩ := snapFinish_empty hfail hf
    exact h.built_empty hcap hcore hhash hnum
  · rw [not_or, Bool.not_eq_false, Bool.not_eq_false] at hfail
    rw [snapFinish, hfail.1, hfail.2, if_neg (Nat.not_lt.mpr h.sum_childCounts_le)] at hf
    cases hf
    exact h.built_children hcap _ _

/-- Where the allocations for the child lists succeed, every recorded entry is listed. -/
theorem Recorded.snapFinish_children (h : Recorded cap es snap) {inp : BuildInput}
    (hcounts : inp.allocs.childCounts = true) (hcursor : inp.allocs.cursor = true)
    (hf : snapFinish inp snap = some snap') {p : ℕ} (hp : p < snap'.nodeCount) :
    snap'.children p = Csr.kids (parentIdx snap') (childItems snap') p := by
  have hcore := buildOrdinals_core snap
  rw [snapFinish, hcounts, hcursor, if_neg (Nat.not_lt.mpr h.sum_childCounts_le)] at hf
  cases hf
  have hcount : (buildOrdinals (buildChildren true snap)).nodeCount = snap.nodeCount :=
    core_nodeCount hcore
  refine (h.buildOrdinals_children (hcount ▸ hp)).trans ?_
  congr 1
  · exact (core_parentIdx hcore rfl).symm
  · exact congrArg (fun n => List.range' 1 (n - 1)) hcount.symm

theorem Recorded.snapFinish_isSome (h : Recorded cap es snap) (inp : BuildInput) :
    (snapFinish inp snap).isSome := by
  rw [snapFinish]
  split
  · rfl
  · rw [if_neg (Nat.not_lt.mpr h.sum_childCounts_le)]
    rfl

end Finish

theorem snapWalk_spec {cap : ℕ} (hpos : 0 < cap) (hcap : cap ≤ sysfsIokitMaxnodes)
    (yields : Option (List RegEntry)) :
    ∃ es, Recorded cap es (snapWalk cap yields) ∧ es.Sublist (yields.getD []) ∧
      (cap ≤ (snapWalk cap yields).nodeCount ∨
        ∀ e ∈ yields.getD [], e.regid ≠ 0 → ∃ e' ∈ es, e'.regid = e.regid) := by
  have h := recorded_init hpos hcap
  cases yields with
  | none => exact ⟨[], h, List.Sublist.refl _, Or.inr nofun⟩
  | some yields => exact walkFrom_spec h yields

theorem snapBuildSized_built {cap lastNodeCount : ℕ} {inp : BuildInput} {snap : Snapshot}
    (hpos : 0 < cap) (hcap : cap ≤ sysfsIokitMaxnodes)
    (h : (snapBuildSized cap lastNodeCount inp).1 = some snap) :
    ∃ es, Built es snap ∧ es.Sublist (inp.yields.getD []) ∧
      (cap ≤ snap.nodeCount ∨
        ∀ e ∈ inp.yields.getD [], e.regid ≠ 0 → ∃ e' ∈ es, e'.regid = e.regid) := by
  rw [snapBuildSized] at h
  split at h
  · cases h
  · have ⟨es, hrec, hsub, hall⟩ := snapWalk_spec hpos hcap inp.yields
    have hb := hrec.snapFinish_built hcap h
    have hcount : snap.nodeCount = (snapWalk cap inp.yields).nodeCount := by
      have h₁ := congrArg List.length hb.entries
      have h₂ := congrArg List.length hrec.nodes
      rw [List.length_map] at h₁
      exact h₁.trans h₂.symm
    exact ⟨es, hb, hsub, hcount ▸ hall⟩

/-- Every snapshot that `sysfs_snap_build` returns is made of entries the iterator gave. -/
theorem sysfsSnapBuild_built {lastNodeCount : ℕ} {counted : Option (List RegEntry)}
    {inp : BuildInput} {snap : Snapshot}
    (h : (sysfsSnapBuild lastNodeCount counted inp).1 = some snap) :
    ∃ es, Built es snap ∧ es.Sublist (inp.yields.getD []) := by
  rw [sysfsSnapBuild] at h
  split at h
  · cases h
  · have ⟨es, hb, hsub, _⟩ := snapBuildSized_built (buildCap_pos _) (buildCap_le _) h
    exact ⟨es, hb, hsub⟩

theorem Built.regids {es : List RegEntry} {snap : Snapshot} (h : Built es snap) :
    snap.nodes.map SnapNode.regid = 0 :: es.map RegEntry.regid := by
  have hc := congrArg (List.map SnapNode.regid) h.entries
  rw [List.map_map, List.map_cons, List.map_map] at hc
  refine Eq.trans hc ?_
  congr 1
  exact List.map_congr_left fun e _ => snapNode_regid e

theorem Built.regids_nodup {es : List RegEntry} {snap : Snapshot} (h : Built es snap) :
    (snap.nodes.map SnapNode.regid).Nodup := by
  rw [List.nodup_iff_getElem?_ne_getElem?]
  intro i j hij hj heq
  rw [List.length_map] at hj
  rw [List.getElem?_map, List.getElem?_map, List.getElem?_eq_getElem hj,
    List.getElem?_eq_getElem (hij.trans hj), Option.map_some, Option.map_some,
    Option.some_inj] at heq
  have hi := (h.find _ i).mpr ⟨_, List.getElem?_eq_getElem (hij.trans hj), rfl⟩
  have hj' := (h.find _ j).mpr ⟨_, List.getElem?_eq_getElem hj, rfl⟩
  rw [heq, hj', Option.some_inj] at hi
  omega

end SysFS
