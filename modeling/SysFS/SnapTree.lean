import Mathlib
import SysFS.Lib.Forest
import SysFS.Descent

namespace SysFS
open CString Relation

def Snapshot.child (snap : Snapshot) (p c : ℕ) : Prop := c ∈ snap.children p

/-- The child lists hold every recorded entry under its parent. -/
def ChildrenListed (snap : Snapshot) : Prop :=
  ∀ p < snap.nodeCount, snap.children p = Csr.kids (parentIdx snap) (childItems snap) p

/-- The parent that was returned for the entry is one of its parents in the plane. -/
def OnPlane (parentOf : UInt64 → UInt64 → Prop) (e : RegEntry) : Prop :=
  ∀ p, e.parent = .entry p → parentOf p e.regid

theorem RegEntry.parent_eq_entry {e : RegEntry} (h : e.parentRegid ≠ 0) :
    e.parent = .entry e.parentRegid := by
  unfold RegEntry.parentRegid at h ⊢
  cases hp : e.parent with
  | none =>
    rw [hp] at h
    exact absurd rfl h
  | registryRoot =>
    rw [hp] at h
    exact absurd rfl h
  | entry r => rfl

section Tree

variable {es : List RegEntry} {snap : Snapshot} (h : Built es snap) (hlist : ChildrenListed snap)

include h in
theorem Built.node_entry {i : ℕ} (hpos : 0 < i) (hi : i < snap.nodeCount) :
    ∃ e ∈ es, (snap.node i).regid = e.regid ∧ (snap.node i).parentRegid = e.parentRegid := by
  have ⟨j, hj⟩ : ∃ j, i = j + 1 := ⟨i - 1, by omega⟩
  have hlen := congrArg List.length h.entries
  rw [List.length_map, List.length_cons, List.length_map] at hlen
  have hlt : j < es.length := by
    rw [Snapshot.nodeCount] at hi
    omega
  have hcore := h.node_core i
  rw [hj, List.getD_cons_succ, List.getD_eq_getElem _ _ (by rwa [List.length_map]),
    List.getElem_map] at hcore
  refine ⟨es[j], List.getElem_mem hlt, ?_, ?_⟩
  · rw [← snapNode_regid, ← hcore, hj]
    rfl
  · rw [← snapNode_parentRegid, ← hcore, hj]
    rfl

include h in
theorem Built.nodeCount_pos : 0 < snap.nodeCount := (h.find_lt h.find_zero).1

include h in
theorem Built.parentIdx_lt (i : ℕ) : parentIdx snap i < snap.nodeCount := by
  rw [parentIdx]
  cases hf : sysfsHashFind (some snap) (snap.node i).parentRegid with
  | none => exact h.nodeCount_pos
  | some p => exact (h.find_lt hf).1

include hlist in
theorem child_iff {p c : ℕ} :
    snap.child p c ↔ p < snap.nodeCount ∧ 0 < c ∧ c < snap.nodeCount ∧ parentIdx snap c = p := by
  by_cases hp : p < snap.nodeCount
  · rw [Snapshot.child, hlist p hp, Csr.kids, List.mem_filter, decide_eq_true_eq, childItems,
      List.mem_range'_1]
    omega
  · constructor
    · intro hc
      rw [Snapshot.child, children_eq, node_ge (Nat.le_of_not_lt hp)] at hc
      cases hc
    · intro hc
      exact absurd hc.1 hp

include hlist in
theorem child_isForest : Forest.IsForest snap.child 0 where
  parent_unique hp hq := ((child_iff hlist).mp hp).2.2.2.symm.trans ((child_iff hlist).mp hq).2.2.2
  root_parent hp := absurd ((child_iff hlist).mp hp).2.1 (Nat.lt_irrefl 0)

include h hlist in
theorem exists_parent {i : ℕ} (hi : i < snap.nodeCount) :
    i = 0 ∨ ∃ p, p < snap.nodeCount ∧ snap.child p i := by
  by_cases hpos : 0 < i
  · refine Or.inr ⟨parentIdx snap i, ?_⟩
    have hlt := h.parentIdx_lt i
    exact ⟨hlt, (child_iff hlist).mpr ⟨hlt, hpos, hi, rfl⟩⟩
  · exact Or.inl (by omega)

variable {parentOf : UInt64 → UInt64 → Prop} (hplane : ∀ e ∈ es, OnPlane parentOf e)

include h hlist hplane in
theorem child_on_plane {p c : ℕ} (hp : p ≠ 0) (hc : snap.child p c) :
    parentOf (snap.node p).regid (snap.node c).regid := by
  have ⟨hlt, hpos, hclt, hpar⟩ := (child_iff hlist).mp hc
  have ⟨e, he, hregid, hparent⟩ := h.node_entry hpos hclt
  rw [parentIdx] at hpar
  cases hf : sysfsHashFind (some snap) (snap.node c).parentRegid with
  | none =>
    rw [hf] at hpar
    exact absurd hpar.symm hp
  | some q =>
    rw [hf, Option.getD_some] at hpar
    have hq := (h.find_lt hf).2
    rw [hpar, hparent] at hq
    have hne : e.parentRegid ≠ 0 := by
      intro hzero
      have hroot := h.find_node hlt
      rw [hq, hzero, h.find_zero, Option.some_inj] at hroot
      exact hp hroot.symm
    rw [hregid, hq]
    exact hplane e he _ (RegEntry.parent_eq_entry hne)

include h hlist hplane in
/-- Without cycles in the plane, no descent goes on for ever. -/
theorem child_wellFounded (hacyclic : ∀ r, ¬TransGen parentOf r r) :
    WellFounded snap.child := by
  have hfinite : Finite UInt64 := Finite.of_injective UInt64.toFin fun _ _ => UInt64.toFin_inj.mp
  have hirrefl : Std.Irrefl (TransGen parentOf) := ⟨hacyclic⟩
  have hwf := Finite.wellFounded_of_trans_of_irrefl (TransGen parentOf)
  have hzero : Acc snap.child 0 :=
    ⟨0, fun p hp => absurd hp (child_isForest hlist).root_parent⟩
  have hacc : ∀ r i, (snap.node i).regid = r → Acc snap.child i := by
    intro r
    induction r using hwf.induction with
    | _ r ih =>
      intro i hr
      refine ⟨i, fun p hp => ?_⟩
      by_cases hroot : p = 0
      · exact hroot ▸ hzero
      · exact ih _ (hr ▸ .single (child_on_plane h hlist hplane hroot hp)) p rfl
  exact ⟨fun i => hacc _ i rfl⟩

end Tree

/-- The recorded entries form a tree under node 0: each is reached on exactly one way through
the child lists, in which it stands once, and none is below itself. -/
structure IsTree (snap : Snapshot) : Prop where
  path : ∀ i < snap.nodeCount, ∃! l, Forest.PathTo snap.child 0 l i
  once : ∀ p, (snap.children p).Nodup
  acyclic : ∀ i, ¬TransGen snap.child i i

theorem Built.isTree {es : List RegEntry} {snap : Snapshot} (h : Built es snap)
    (hlist : ChildrenListed snap) {parentOf : UInt64 → UInt64 → Prop}
    (hacyclic : ∀ r, ¬TransGen parentOf r r) (hplane : ∀ e ∈ es, OnPlane parentOf e) :
    IsTree snap := by
  have hwf := child_wellFounded h hlist hplane hacyclic
  refine ⟨fun i hi => ?_, fun p => ?_, fun i hcycle => ?_⟩
  · have ⟨l, hl⟩ := Forest.exists_path hwf (fun i hi => exists_parent h hlist hi) i hi
    exact ⟨l, hl, fun l' hl' => hl'.unique (child_isForest hlist) hl⟩
  · exact (h.children_sublist p).nodup (List.nodup_range' (h := Nat.one_pos))
  · exact hwf.transGen.asymmetric i i hcycle hcycle

/-- For every service plane without cycles, whatever entries the iterator yields in whatever
order and whatever room the table has: when no allocation fails, the snapshot is a tree of
the entries recorded. -/
theorem snapshot_is_tree {parentOf : UInt64 → UInt64 → Prop}
    (hacyclic : ∀ r, ¬TransGen parentOf r r) {cap : ℕ} (hpos : 0 < cap)
    (hcap : cap ≤ sysfsIokitMaxnodes) (lastNodeCount : ℕ) {inp : BuildInput}
    (halloc : inp.allocs = {}) (hplane : ∀ e ∈ inp.yields.getD [], OnPlane parentOf e) :
    ∃ snap, (snapBuildSized cap lastNodeCount inp).1 = some snap ∧ IsTree snap := by
  have ⟨es, hrec, hsub, _⟩ := snapWalk_spec hpos hcap inp.yields
  have ⟨snap, hsnap⟩ := Option.isSome_iff_exists.mp (hrec.snapFinish_isSome inp)
  have hbuild : (snapBuildSized cap lastNodeCount inp).1 = some snap := by
    rw [snapBuildSized, halloc]
    exact hsnap
  have hlist : ChildrenListed snap := fun p hp =>
    hrec.snapFinish_children (by rw [halloc]) (by rw [halloc]) hsnap hp
  exact ⟨snap, hbuild, (hrec.snapFinish_built hcap hsnap).isTree hlist hacyclic
    fun e he => hplane e (hsub.subset he)⟩

/-- A child met before its parent, twice, and a third entry that the table has no room for. -/
def outOfOrder : List RegEntry :=
  [{ regid := 2, name := some (cstr "disk"), parent := .entry 1 },
    { regid := 1, name := some (cstr "hub") },
    { regid := 2, name := some (cstr "disk"), parent := .entry 1 },
    { regid := 3, name := some (cstr "port"), parent := .entry 1 }]

theorem out_of_order_is_tree :
    ∃ snap, (snapBuildSized 3 0 { yields := some outOfOrder, kexts := none, uptime := 0 }).1 =
      some snap ∧ IsTree snap := by
  have hacyclic : ∀ r : UInt64, ¬TransGen (fun p c : UInt64 => p < c) r r := by
    intro r hcycle
    rw [transGen_eq_self] at hcycle
    exact UInt64.lt_irrefl r hcycle
  have hplane : ∀ e ∈ outOfOrder, OnPlane (fun p c => p < c) e := by
    intro e he p hp
    have hall : ∀ e ∈ outOfOrder, e.parent = .registryRoot ∨
        (e.parent = .entry 1 ∧ 1 < e.regid) := by decide
    rcases hall e he with h | ⟨h, hlt⟩
    · cases h.symm.trans hp
    · cases h.symm.trans hp
      exact hlt
  have hpos : 0 < 3 := by decide
  have hcap : 3 ≤ sysfsIokitMaxnodes := by decide
  exact snapshot_is_tree hacyclic hpos hcap 0 rfl hplane

end SysFS
