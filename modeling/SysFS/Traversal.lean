import SysFS.Mirror

namespace SysFS
open CString Forest

def capturedEntries (g : GSnapshot) : ℕ := g.elim 0 Snapshot.nodeCount

/-- The child lists lead from the root to the entry `r` in `k` steps. Without a snapshot there is
the root alone. -/
def DeviceWay : GSnapshot → ℕ → UInt64 → Prop
  | none, k, r => k = 0 ∧ r = 0
  | some snap, k, r => ∃ i l, i < snap.nodeCount ∧ (snap.node i).regid = r ∧
    PathTo snap.child 0 l i ∧ l.length = k + 1

theorem Built.child_isForest {es : List RegEntry} {snap : Snapshot} (hb : Built es snap) :
    IsForest snap.child 0 where
  parent_unique := by
  -- also with cycles among the recorded parents, no entry has two parents
    intro p q c hp hq
    obtain ⟨j, hj, rfl⟩ := mem_children_iff.mp hp
    obtain ⟨k, hk, heq⟩ := mem_children_iff.mp hq
    rw [← hb.parentIdx_childAt hj, ← hb.parentIdx_childAt hk, heq]
  root_parent := by
    intro p hp
    obtain ⟨j, hj, heq⟩ := mem_children_iff.mp hp
    have hpos := (hb.childAt_mem hj).1
    omega

theorem Built.path_lt {es : List RegEntry} {snap : Snapshot} (hb : Built es snap) {l : List ℕ}
    {i : ℕ} (hl : PathTo snap.child 0 l i) : ∀ x ∈ l, x < snap.nodeCount := by
  induction hl with
  | root =>
    intro x hx
    rw [List.mem_singleton.mp hx]
    exact hb.nodeCount_pos
  | step _ hc ih =>
    intro x hx
    obtain rfl | hx := List.mem_cons.mp hx
    · obtain ⟨j, hj, rfl⟩ := mem_children_iff.mp hc
      exact (hb.childAt_mem hj).2
    · exact ih x hx

section Ways
variable {g : GSnapshot} (hg : ∀ snap ∈ g, Produced snap)
include hg

theorem DeviceWay.child {k : ℕ} {r c : UInt64} (h : DeviceWay g k r) {nm : CStr} {len : ℕ}
    (hc : sysfsIokitChildNamed g r nm len = some c) : DeviceWay g (k + 1) c := by
  cases g with
  | none => cases hc
  | some snap =>
    obtain ⟨es, hb⟩ := (hg snap rfl).built
    obtain ⟨i, l, hi, hregid, hl, hlen⟩ := h
    obtain ⟨p, j, hp, hj, rfl⟩ := hb.child_of_named hc
    rw [← hregid, hb.find_node hi, Option.some_inj] at hp
    subst hp
    refine ⟨_, _, (hb.childAt_mem hj).2, rfl, .step hl (mem_children_iff.mpr ⟨j, hj, rfl⟩), ?_⟩
    rw [List.length_cons, hlen]

theorem DeviceWay.le {k : ℕ} {r : UInt64} (h : DeviceWay g k r) : k ≤ capturedEntries g := by
  cases g with
  | none => exact Nat.le_of_eq h.1
  | some snap =>
    obtain ⟨es, hb⟩ := (hg snap rfl).built
    obtain ⟨i, l, -, -, hl, hlen⟩ := h
    have hsub : l ⊆ List.range snap.nodeCount := fun x hx =>
      List.mem_range.mpr (hb.path_lt hl x hx)
    have hle := ((hl.nodup hb.child_isForest).subperm hsub).length_le
    rw [List.length_range] at hle
    show k ≤ snap.nodeCount
    omega

end Ways

section Lookups
variable {t : Tree} {g : GSnapshot} (hg : ∀ snap ∈ g, Produced snap)
include hg

end Lookups

end SysFS
