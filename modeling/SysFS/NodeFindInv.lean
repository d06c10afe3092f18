import SysFS.NodeFind

namespace SysFS
open Buckets Transition

theorem bucketOf_lt (mask : UInt64) (key : NodeKey) : bucketOf mask key < mask.toNat + 1 := by
  rw [bucketOf, UInt64.toNat_and]
  exact Nat.lt_succ_of_le Nat.and_le_right

open FindState in
/-- The steps that are possible, and where each call is before them. -/
inductive FindStepped (s : FindState) : FindOp → FindState → Prop where
  | call {c : ℕ} {args : Sfsnode} (hpc : (s.calls c).pc = .idle) :
    FindStepped s (.call c args) (s.setCall c ⟨args, none, false, .top⟩)
  | round {c : ℕ} (hpc : (s.calls c).pc = .top) : FindStepped s (.lock c) (s.loopSection c)
  | again {c : ℕ} (hpc : (s.calls c).pc = .retry) :
    FindStepped s (.lock c) ((s.dropNew c).loopSection c)
  | done {c b v : ℕ} (hpc : (s.calls c).pc = .creating b (some v)) :
    FindStepped s (.lock c) (s.createDone c b v)
  | allocated {c : ℕ} (hpc : (s.calls c).pc = .alloc) :
    FindStepped s (.malloc c true) ((s.setTable (s.osMalloc c)).setCall c
      { s.calls c with newSfsnode := some s.blocks, pc := .top })
  | noMemory {c : ℕ} (hpc : (s.calls c).pc = .alloc) :
    FindStepped s (.malloc c false) (s.setPc c (.finish enomem none none))
  | changed {c b v : ℕ} (hpc : (s.calls c).pc = .getvid b v) :
    FindStepped s (.getwithvid c false) (s.setPc c .retry)
  | got {c b v : ℕ} (hpc : (s.calls c).pc = .getvid b v) (hlive : (s.vnodes v).phase = .live) :
    FindStepped s (.getwithvid c true) ((s.setTable (s.setVnode v
      { s.vnodes v with iocounts := c :: (s.vnodes v).iocounts })).setPc c
        (.finish 0 (some b) (some v)))
  | made {c b : ℕ} (hpc : (s.calls c).pc = .creating b none) :
    FindStepped s (.vnodeCreate c) ((s.setTable (s.toNodeTable.vnodeCreate c b)).setPc c
      (.creating b (some s.vnodeCount)))
  | failed {c b : ℕ} {error : Int32} (hpc : (s.calls c).pc = .creating b none)
      (herror : error ≠ 0) : FindStepped s (.createFails c error) (s.createFailed c b error)
  | left {c : ℕ} {error : Int32} {target vnode : Option ℕ}
      (hpc : (s.calls c).pc = .finish error target vnode) :
    FindStepped s (.leave c) (s.leave c error target vnode)
  | put {c v : ℕ} {snp : Option ℕ} (hpc : (s.calls c).pc = .returned 0 snp (some v) true) :
    FindStepped s (.vnodePut c) ((s.setTable (s.setVnode v
      { s.vnodes v with iocounts := (s.vnodes v).iocounts.erase c })).setPc c
        (.returned 0 snp (some v) false))
  | terminated {v : ℕ} (hlive : (s.vnodes v).phase = .live) (hio : (s.vnodes v).iocounts = []) :
    FindStepped s (.terminate v)
      (s.setTable (s.setVnode v { s.vnodes v with phase := .terminating }))
  | reclaimed {v : ℕ} (hv : v < s.vnodeCount) (hphase : (s.vnodes v).phase = .terminating) :
    FindStepped s (.reclaim v) (s.setTable ((s.sysfsnodeFreeNode (s.vnodes v).fsnode).setVnode v
      { s.vnodes v with phase := .reclaimed }))

theorem findStep_inv {s s' : FindState} {op : FindOp} (hstep : findStep s op = some s') :
    FindStepped s op s' := by
  cases op with
  | call c args =>
    simp only [findStep] at hstep
    split at hstep
    · next hpc =>
      cases hstep
      exact .call hpc
    · cases hstep
  | lock c =>
    simp only [findStep] at hstep
    split at hstep
    · next hpc =>
      cases hstep
      exact .round hpc
    · next hpc =>
      cases hstep
      exact .again hpc
    · next hpc =>
      cases hstep
      exact .done hpc
    · cases hstep
  | malloc c allocated =>
    simp only [findStep] at hstep
    split at hstep
    · next hpc =>
      cases allocated with
      | true =>
        cases hstep
        exact .allocated hpc
      | false =>
        cases hstep
        exact .noMemory hpc
    · cases hstep
  | getwithvid c same =>
    simp only [findStep] at hstep
    split at hstep
    · next hpc =>
      cases same with
      | false =>
        cases hstep
        exact .changed hpc
      | true =>
        rw [if_neg (by simp)] at hstep
        split at hstep
        · next hlive =>
          cases hstep
          exact .got hpc hlive
        · cases hstep
    · cases hstep
  | vnodeCreate c =>
    simp only [findStep] at hstep
    split at hstep
    · next hpc =>
      cases hstep
      exact .made hpc
    · cases hstep
  | createFails c error =>
    simp only [findStep] at hstep
    split at hstep
    · next hpc =>
      split at hstep
      · cases hstep
      · next herror =>
        cases hstep
        exact .failed hpc herror
    · cases hstep
  | leave c =>
    simp only [findStep] at hstep
    split at hstep
    · next hpc =>
      cases hstep
      exact .left hpc
    · cases hstep
  | vnodePut c =>
    simp only [findStep] at hstep
    split at hstep
    · next hpc =>
      cases hstep
      exact .put hpc
    · cases hstep
  | terminate v =>
    simp only [findStep] at hstep
    split at hstep
    · next hguard =>
      cases hstep
      exact .terminated hguard.2.1 hguard.2.2
    · cases hstep
  | reclaim v =>
    simp only [findStep] at hstep
    split at hstep
    · next hguard =>
      cases hstep
      exact .reclaimed hguard.1 hguard.2
    · cases hstep

/-- The table by itself: every node once, in its bucket, and no two nodes of one key. -/
structure TableOk (t : NodeTable) : Prop where
  size : t.buckets.length = t.hashMask.toNat + 1
  nodup : t.nodes.Nodup
  placed : Placed (fun b => bucketOf t.hashMask (t.mem b).key) t.buckets
  unique : ∀ b ∈ t.nodes, ∀ b' ∈ t.nodes, (t.mem b).key = (t.mem b').key → b = b'
  live : t.liveNodes = t.nodes.length

/-- The call `c` has an iocount on the vnode `v` of the node `b` for `key`. -/
structure Holds (t : NodeTable) (c : ℕ) (key : NodeKey) (b v : ℕ) : Prop where
  node : b ∈ t.nodes
  key : (t.mem b).key = key
  vnode : (t.mem b).nodeVnode = some v
  made : v < t.vnodeCount
  phase : (t.vnodes v).phase = .live
  iocount : c ∈ (t.vnodes v).iocounts

def FindPc.searching : FindPc → Bool
  | .top | .alloc | .asleep _ | .getvid _ _ | .retry => true
  | _ => false

structure CallOk (t : NodeTable) (c : ℕ) (call : FindCall) : Prop where
  fresh : ∀ b, call.newSfsnode = some b → call.newSfsnodeInserted = false →
    b < t.blocks ∧ b ∉ t.nodes ∧ t.owner b = c ∧ b ∉ t.freed
  searching : call.pc.searching = true → call.newSfsnodeInserted = false
  asleep : ∀ b, call.pc = .asleep b → b ∈ t.nodes ∧
    (t.mem b).nodeAttachingVnode = true ∧ (t.mem b).nodeThreadWaitingAttach = true
  getvid : ∀ b v, call.pc = .getvid b v → (t.mem b).key = call.args.key ∧
    v < t.vnodeCount ∧ (t.vnodes v).fsnode = b ∧
    ((t.vnodes v).phase = .reclaimed ∧ b ∈ t.freed ∨ b ∈ t.nodes ∧ (t.mem b).nodeVnode = some v)
  creating : ∀ b ov, call.pc = .creating b ov → b ∈ t.nodes ∧ b < t.blocks ∧ t.owner b = c ∧
    call.newSfsnode = some b ∧ call.newSfsnodeInserted = true ∧
    (t.mem b).key = call.args.key ∧ (t.mem b).nodeVnode = none
  created : ∀ b v, call.pc = .creating b (some v) → v < t.vnodeCount ∧
    (t.vnodes v).fsnode = b ∧ (t.vnodes v).phase = .live ∧ c ∈ (t.vnodes v).iocounts
  finish : ∀ target vnode, call.pc = .finish 0 target vnode →
    ∃ b v, target = some b ∧ vnode = some v ∧ Holds t c call.args.key b v
  returned : ∀ snp vnp, call.pc = .returned 0 snp vnp true →
    ∃ b v, snp = some b ∧ vnp = some v ∧ Holds t c call.args.key b v
  failed : ∀ e snp vnp io, call.pc = .returned e snp vnp io → e ≠ 0 → snp = none ∧ vnp = none

/-- A node in the table has a vnode, or the call that added it is making one. -/
structure BlocksOk (s : FindState) : Prop where
  made : ∀ b ∈ s.nodes, b < s.blocks
  freed : ∀ b ∈ s.freed, b < s.blocks ∧ b ∉ s.nodes
  attached : ∀ b ∈ s.nodes, ∀ v, (s.mem b).nodeVnode = some v →
    (s.mem b).nodeAttachingVnode = false ∧ v < s.vnodeCount ∧ (s.vnodes v).fsnode = b ∧
      (s.vnodes v).phase ≠ .reclaimed
  attaching : ∀ b ∈ s.nodes, (s.mem b).nodeVnode = none →
    (s.mem b).nodeAttachingVnode = true ∧ ∃ vnode, (s.calls (s.owner b)).pc = .creating b vnode

/-- The node of the vnode is in the table: it points to the vnode, or will when the call
that made the vnode has the lock again. -/
def VnodeOk (s : FindState) (v : ℕ) : Prop :=
  (s.vnodes v).fsnode ∈ s.nodes ∧ ((s.mem (s.vnodes v).fsnode).nodeVnode = some v ∨
    (s.vnodes v).phase = .live ∧
      (s.calls (s.owner (s.vnodes v).fsnode)).pc = .creating (s.vnodes v).fsnode (some v))

structure FindInv (s : FindState) : Prop where
  table : TableOk s.toNodeTable
  blocks : BlocksOk s
  vnodes : ∀ v < s.vnodeCount, (s.vnodes v).phase ≠ .reclaimed → VnodeOk s v
  calls : ∀ c, CallOk s.toNodeTable c (s.calls c)

structure Rely (t t' : NodeTable) (c : ℕ) : Prop where
  blocks : t.blocks ≤ t'.blocks
  owner : ∀ b < t.blocks, t'.owner b = t.owner b
  fresh : ∀ b < t.blocks, t.owner b = c → b ∉ t.nodes → b ∉ t.freed → b ∉ t'.nodes ∧ b ∉ t'.freed
  freed : ∀ b ∈ t.freed, b ∈ t'.freed
  key : ∀ b, b ∈ t.nodes ∨ b ∈ t.freed → (t'.mem b).key = (t.mem b).key
  own : ∀ b ∈ t.nodes, t.owner b = c → (t.mem b).nodeVnode = none →
    b ∈ t'.nodes ∧ (t'.mem b).nodeVnode = none
  attached : ∀ b ∈ t.nodes, ∀ v, (t.mem b).nodeVnode = some v → (t'.mem b).nodeVnode = some v ∧
    (b ∈ t'.nodes ∨ (t'.vnodes v).phase = .reclaimed ∧ b ∈ t'.freed)
  vnodes : ∀ v < t.vnodeCount, v < t'.vnodeCount ∧ (t'.vnodes v).fsnode = (t.vnodes v).fsnode ∧
    ((t.vnodes v).phase = .reclaimed → (t'.vnodes v).phase = .reclaimed)
  iocount : ∀ v < t.vnodeCount, (t.vnodes v).phase = .live → c ∈ (t.vnodes v).iocounts →
    (t'.vnodes v).phase = .live ∧ c ∈ (t'.vnodes v).iocounts

theorem Rely.refl (t : NodeTable) (c : ℕ) : Rely t t c := by
  constructor <;> grind

section Rely
variable {t t' : NodeTable} {c : ℕ} {call : FindCall}

theorem Holds.rely {key : NodeKey} {b v : ℕ} (h : Holds t c key b v) (hr : Rely t t' c) :
    Holds t' c key b v := by
  have ⟨hnode, hkey, hvnode, hmade, hphase, hio⟩ := h
  have ⟨hphase', hio'⟩ := hr.iocount v hmade hphase hio
  have ⟨hvnode', hin⟩ := hr.attached b hnode v hvnode
  refine ⟨?_, ?_, hvnode', (hr.vnodes v hmade).1, hphase', hio'⟩
  · -- a vnode with an iocount is not reclaimed
    refine hin.resolve_right fun hreclaimed => ?_
    rw [hphase'] at hreclaimed
    cases hreclaimed.1
  · rw [hr.key b (.inl hnode), hkey]

theorem CallOk.rely (h : CallOk t c call) (hr : Rely t t' c)
    (hasleep : ∀ b, call.pc = .asleep b → b ∈ t'.nodes ∧
      (t'.mem b).nodeAttachingVnode = true ∧ (t'.mem b).nodeThreadWaitingAttach = true) :
    CallOk t' c call := by
  refine ⟨?_, h.searching, hasleep, ?_, ?_, ?_, ?_, ?_, h.failed⟩
  · intro b hnew hins
    have ⟨hlt, hnode, howner, hfreed⟩ := h.fresh b hnew hins
    have ⟨hnode', hfreed'⟩ := hr.fresh b hlt howner hnode hfreed
    exact ⟨hlt.trans_le hr.blocks, hnode', (hr.owner b hlt).trans howner, hfreed'⟩
  · intro b v hpc
    have ⟨hkey, hmade, hfs, hor⟩ := h.getvid b v hpc
    have ⟨hmade', hfs', hrec'⟩ := hr.vnodes v hmade
    have hkey' := hr.key b (hor.symm.imp And.left And.right)
    refine ⟨hkey'.trans hkey, hmade', hfs'.trans hfs, ?_⟩
    cases hor with
    | inl hrec => exact .inl ⟨hrec' hrec.1, hr.freed b hrec.2⟩
    | inr hin =>
      have ⟨hvnode', hin'⟩ := hr.attached b hin.1 v hin.2
      exact hin'.symm.imp_right fun hnode' => ⟨hnode', hvnode'⟩
  · intro b vnode hpc
    have ⟨hnode, hlt, howner, hnew, hins, hkey, hnone⟩ := h.creating b vnode hpc
    have ⟨hnode', hnone'⟩ := hr.own b hnode howner hnone
    exact ⟨hnode', hlt.trans_le hr.blocks, (hr.owner b hlt).trans howner, hnew, hins,
      (hr.key b (.inl hnode)).trans hkey, hnone'⟩
  · intro b v hpc
    have ⟨hmade, hfs, hphase, hio⟩ := h.created b v hpc
    have ⟨hmade', hfs', _⟩ := hr.vnodes v hmade
    exact ⟨hmade', hfs'.trans hfs, hr.iocount v hmade hphase hio⟩
  · intro target vnode hpc
    have ⟨b, v, hb, hv, hheld⟩ := h.finish target vnode hpc
    exact ⟨b, v, hb, hv, hheld.rely hr⟩
  · intro snp vnp hpc
    have ⟨b, v, hb, hv, hheld⟩ := h.returned snp vnp hpc
    exact ⟨b, v, hb, hv, hheld.rely hr⟩

theorem CallOk.wake {b : ℕ} (h : CallOk t c call) (hpc : call.pc = .asleep b) :
    CallOk t c { call with pc := .top } := by
  have hins : call.newSfsnodeInserted = false := h.searching (by rw [hpc]; rfl)
  exact ⟨h.fresh, fun _ => hins, nofun, nofun, nofun, nofun, nofun, nofun, nofun⟩

end Rely

section Table
variable {t t' : NodeTable}

theorem TableOk.of_keys (h : TableOk t) (hmask : t'.hashMask = t.hashMask)
    (hbuckets : t'.buckets = t.buckets) (hlive : t'.liveNodes = t.liveNodes)
    (hkey : ∀ b ∈ t.nodes, (t'.mem b).key = (t.mem b).key) : TableOk t' := by
  have hnodes : t'.nodes = t.nodes := congrArg entries hbuckets
  refine ⟨?_, ?_, ?_, ?_, ?_⟩
  · rw [hbuckets, hmask, h.size]
  · rw [hnodes]
    exact h.nodup
  · intro i b hb
    rw [hbuckets] at hb
    show bucketOf t'.hashMask (t'.mem b).key = i
    rw [hmask, hkey b (mem_entries_iff.mpr ⟨i, hb⟩)]
    exact h.placed i b hb
  · intro b hb b' hb' heq
    rw [hnodes] at hb hb'
    rw [hkey b hb, hkey b' hb'] at heq
    exact h.unique b hb b' hb' heq
  · rw [hlive, hnodes, h.live]

theorem mem_nodes_insertNew (h : TableOk t) (b : ℕ) (args : Sfsnode) (b' : ℕ) :
    b' ∈ (t.insertNew b args).nodes ↔ b' = b ∨ b' ∈ t.nodes := by
  have hlt : bucketOf t.hashMask args.key < t.buckets.length := by
    rw [h.size]
    exact bucketOf_lt _ _
  exact (entries_insertHead_perm hlt b).mem_iff.trans List.mem_cons

theorem tableOk_insertNew (h : TableOk t) {b : ℕ} (hb : b ∉ t.nodes) {args : Sfsnode}
    (hkey : ∀ b' ∈ t.nodes, (t.mem b').key ≠ args.key) : TableOk (t.insertNew b args) := by
  have hlt : bucketOf t.hashMask args.key < t.buckets.length := by
    rw [h.size]
    exact bucketOf_lt _ _
  have hperm : ((t.insertNew b args).nodes).Perm (b :: t.nodes) := entries_insertHead_perm hlt b
  have hnew : ((t.insertNew b args).mem b).key = args.key := by
    simp [NodeTable.insertNew, NodeTable.setBlock]
  have hold : ∀ b' ∈ t.nodes, ((t.insertNew b args).mem b').key = (t.mem b').key := by
    intro b' hb'
    have hne : b' ≠ b := fun heq => hb (heq ▸ hb')
    simp [NodeTable.insertNew, NodeTable.setBlock, hne]
  refine ⟨?_, ?_, ?_, ?_, ?_⟩
  · simpa [NodeTable.insertNew, NodeTable.setBlock, insertHead] using h.size
  · exact hperm.nodup_iff.mpr (List.nodup_cons.mpr ⟨hb, h.nodup⟩)
  · intro i b' hb'
    show bucketOf t.hashMask ((t.insertNew b args).mem b').key = i
    have hbucket : b' ∈ bucket (insertHead t.buckets (bucketOf t.hashMask args.key) b) i := hb'
    rw [bucket_insertHead _ hlt] at hbucket
    split at hbucket
    · next hi =>
      rcases List.mem_cons.mp hbucket with heq | hmem
      · rw [heq, hnew, hi]
      · rw [hold b' (mem_entries_iff.mpr ⟨_, hmem⟩), hi]
        exact h.placed _ b' hmem
    · rw [hold b' (mem_entries_iff.mpr ⟨_, hbucket⟩)]
      exact h.placed i b' hbucket
  · intro b₁ hb₁ b₂ hb₂ heq
    rw [mem_nodes_insertNew h] at hb₁ hb₂
    rcases hb₁ with heq₁ | hb₁ <;> rcases hb₂ with heq₂ | hb₂
    · rw [heq₁, heq₂]
    · rw [heq₁, hnew, hold b₂ hb₂] at heq
      exact absurd heq.symm (hkey b₂ hb₂)
    · rw [heq₂, hnew, hold b₁ hb₁] at heq
      exact absurd heq (hkey b₁ hb₁)
    · rw [hold b₁ hb₁, hold b₂ hb₂] at heq
      exact h.unique b₁ hb₁ b₂ hb₂ heq
  · show t.liveNodes + 1 = _
    rw [hperm.length_eq, h.live]
    simp

theorem nodes_freeNode (h : TableOk t) (b : ℕ) :
    (t.sysfsnodeFreeNode b).nodes = t.nodes.erase b := entries_unlink h.nodup b

theorem mem_nodes_freeNode (h : TableOk t) (b b' : ℕ) :
    b' ∈ (t.sysfsnodeFreeNode b).nodes ↔ b' ≠ b ∧ b' ∈ t.nodes := by
  rw [nodes_freeNode h]
  exact h.nodup.mem_erase_iff

theorem tableOk_freeNode (h : TableOk t) {b : ℕ} (hb : b ∈ t.nodes) :
    TableOk (t.sysfsnodeFreeNode b) := by
  refine ⟨?_, ?_, ?_, ?_, ?_⟩
  · simpa [NodeTable.sysfsnodeFreeNode, NodeTable.osFree, unlink] using h.size
  · rw [nodes_freeNode h]
    exact h.nodup.erase b
  · intro i b' hb'
    have hbucket : b' ∈ bucket (unlink t.buckets b) i := hb'
    rw [bucket_unlink] at hbucket
    exact h.placed i b' (List.mem_of_mem_erase hbucket)
  · intro b₁ hb₁ b₂ hb₂
    exact h.unique b₁ ((mem_nodes_freeNode h _ _).mp hb₁).2 b₂ ((mem_nodes_freeNode h _ _).mp hb₂).2
  · show t.liveNodes - 1 = _
    rw [nodes_freeNode h, List.length_erase_of_mem hb, h.live]
    have hpos := List.length_pos_of_mem hb
    omega

end Table

end SysFS
