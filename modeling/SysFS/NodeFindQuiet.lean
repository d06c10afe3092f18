import SysFS.NodeFindInv

namespace SysFS
open Buckets Transition

section Steps
variable {s s' : FindState} {c : ℕ}

theorem findInv_init (mask : UInt64) : FindInv (.init mask) := by
  have hnodes : (FindState.init mask).nodes = [] := entries_replicate_nil _
  refine ⟨⟨?_, ?_, ?_, ?_, ?_⟩, ⟨?_, nofun, ?_, ?_⟩, ?_, fun c => ?_⟩
  · exact List.length_replicate
  · rw [hnodes]
    exact List.nodup_nil
  · intro i a ha
    have hmem : a ∈ (FindState.init mask).nodes := mem_entries_iff.mpr ⟨i, ha⟩
    rw [hnodes] at hmem
    cases hmem
  · simp [hnodes]
  · rw [hnodes]
    rfl
  · simp [hnodes]
  · simp [hnodes]
  · simp [hnodes]
  · intro v hv
    cases hv
  · constructor <;> simp [FindState.init, FindPc.searching]

def Kept (v : ℕ) (t t' : NodeTable) : Prop := ∀ b ∈ t.nodes, (t.mem b).nodeVnode = some v →
  b ∈ t'.nodes ∧ (t'.mem b).nodeVnode = some v ∧ (t'.mem b).key = (t.mem b).key

/-- A step keeps the invariant and every node that has a vnode. -/
structure Evolves (s s' : FindState) : Prop where
  inv : FindInv s'
  kept : ∀ v, Kept v s.toNodeTable s'.toNodeTable

theorem Evolves.refl (h : FindInv s) : Evolves s s := ⟨h, fun _ _ hb hv => ⟨hb, hv, rfl⟩⟩

theorem Evolves.trans {s'' : FindState} (h : Evolves s s') (h' : Evolves s' s'') :
    Evolves s s'' := by
  refine ⟨h'.inv, fun v b hb hv => ?_⟩
  have ⟨hb', hv', hkey⟩ := h.kept v b hb hv
  have ⟨hb'', hv'', hkey'⟩ := h'.kept v b hb' hv'
  exact ⟨hb'', hv'', hkey'.trans hkey⟩

abbrev after (s : FindState) (c : ℕ) (t : NodeTable) (call : FindCall) : FindState :=
  (s.setTable t).setCall c call

@[simp] theorem after_self (t : NodeTable) (call : FindCall) :
    (after s c t call).calls c = call := Function.update_self ..

theorem after_of_ne {c' : ℕ} (h : c' ≠ c) (t : NodeTable) (call : FindCall) :
    (after s c t call).calls c' = s.calls c' := Function.update_of_ne h ..

theorem setTable_eq_after (s : FindState) (c : ℕ) (t : NodeTable) :
    s.setTable t = after s c t (s.calls c) := by
  simp [after, FindState.setCall, FindState.setTable]

theorem evolves_after (h : FindInv s) {t : NodeTable} {call : FindCall} (htable : TableOk t)
    (hblocks : BlocksOk (after s c t call)) (hvnodes : ∀ v < t.vnodeCount,
      (t.vnodes v).phase ≠ .reclaimed → VnodeOk (after s c t call) v)
    (hrely : ∀ c' ≠ c, Rely s.toNodeTable t c')
    (hasleep : ∀ b ∈ s.nodes, (s.mem b).nodeAttachingVnode = true →
      (s.mem b).nodeThreadWaitingAttach = true → b ∈ t.nodes ∧
      (t.mem b).nodeAttachingVnode = true ∧ (t.mem b).nodeThreadWaitingAttach = true)
    (hkept : ∀ v, Kept v s.toNodeTable t) (hok : CallOk t c call) :
    Evolves s (after s c t call) := by
  refine ⟨⟨htable, hblocks, hvnodes, fun c' => ?_⟩, hkept⟩
  by_cases hc : c' = c
  · rw [hc, after_self]
    exact hok
  · rw [after_of_ne hc]
    refine (h.calls c').rely (hrely c' hc) fun b hpc => ?_
    have ⟨hnode, hattach, hwait⟩ := (h.calls c').asleep b hpc
    exact hasleep b hnode hattach hwait

/-- The nodes and their vnodes stay; blocks that are not in the table may come and go. -/
structure Quiet (t t' : NodeTable) : Prop where
  mask : t'.hashMask = t.hashMask
  buckets : t'.buckets = t.buckets
  live : t'.liveNodes = t.liveNodes
  blocks : t.blocks ≤ t'.blocks
  owner : ∀ b < t.blocks, t'.owner b = t.owner b
  freed : ∀ b ∈ t.freed, b ∈ t'.freed
  newlyFreed : ∀ b ∈ t'.freed, b ∈ t.freed ∨ b < t.blocks ∧ b ∉ t.nodes
  key : ∀ b, (t'.mem b).key = (t.mem b).key
  vnode : ∀ b, (t'.mem b).nodeVnode = (t.mem b).nodeVnode
  attaching : ∀ b, (t'.mem b).nodeAttachingVnode = (t.mem b).nodeAttachingVnode
  waiting : ∀ b, (t.mem b).nodeThreadWaitingAttach = true →
    (t'.mem b).nodeThreadWaitingAttach = true
  made : t.vnodeCount ≤ t'.vnodeCount
  fsnode : ∀ v < t.vnodeCount, (t'.vnodes v).fsnode = (t.vnodes v).fsnode
  reclaimed : ∀ v < t.vnodeCount, (t'.vnodes v).phase = .reclaimed ↔ (t.vnodes v).phase = .reclaimed

section Quiet
variable {t t' : NodeTable} {call : FindCall}

theorem Quiet.nodes (q : Quiet t t') : t'.nodes = t.nodes := congrArg entries q.buckets

theorem Quiet.table (q : Quiet t t') (h : TableOk t) : TableOk t' :=
  h.of_keys q.mask q.buckets q.live fun b _ => q.key b

theorem Quiet.rely (q : Quiet t t') {c' : ℕ}
    (hfreed : ∀ b, t.owner b = c' → b ∈ t'.freed → b ∈ t.freed)
    (hio : ∀ v < t.vnodeCount, (t.vnodes v).phase = .live → c' ∈ (t.vnodes v).iocounts →
      (t'.vnodes v).phase = .live ∧ c' ∈ (t'.vnodes v).iocounts) : Rely t t' c' where
  blocks := q.blocks
  owner := q.owner
  fresh b hlt howner hnode hnot := by
    rw [q.nodes]
    exact ⟨hnode, fun hmem => hnot (hfreed b howner hmem)⟩
  freed := q.freed
  key b _ := q.key b
  own b hb _ hnone := by
    rw [q.nodes, q.vnode]
    exact ⟨hb, hnone⟩
  attached b hb v hv := by
    rw [q.nodes, q.vnode]
    exact ⟨hv, .inl hb⟩
  vnodes v hv := ⟨hv.trans_le q.made, q.fsnode v hv, (q.reclaimed v hv).mpr⟩
  iocount := hio

theorem Quiet.kept (q : Quiet t t') (v : ℕ) : Kept v t t' := by
  intro b hb hv
  rw [q.nodes, q.vnode, q.key]
  exact ⟨hb, hv, rfl⟩

theorem Quiet.blocksOk (q : Quiet s.toNodeTable t) (h : BlocksOk s)
    (hpc : ∀ b vnode, (s.calls c).pc = .creating b vnode → ∃ vnode', call.pc = .creating b vnode') :
    BlocksOk (after s c t call) where
  made b hb := (h.made b (q.nodes ▸ hb)).trans_le q.blocks
  freed b hb := by
    have hnode : b < s.blocks ∧ b ∉ s.nodes := (q.newlyFreed b hb).elim (h.freed b) id
    exact ⟨hnode.1.trans_le q.blocks, fun hmem => hnode.2 (q.nodes ▸ hmem)⟩
  attached b hb v hv := by
    have hv' : (s.mem b).nodeVnode = some v := (q.vnode b).symm.trans hv
    have ⟨hattach, hmade, hfs, hphase⟩ := h.attached b (q.nodes ▸ hb) v hv'
    refine ⟨(q.attaching b).trans hattach, hmade.trans_le q.made, (q.fsnode v hmade).trans hfs, ?_⟩
    exact fun hrec => hphase ((q.reclaimed v hmade).mp hrec)
  attaching b hb hnone := by
    have hmem : b ∈ s.nodes := q.nodes ▸ hb
    have ⟨hattach, vnode, hvnode⟩ := h.attaching b hmem ((q.vnode b).symm.trans hnone)
    refine ⟨(q.attaching b).trans hattach, ?_⟩
    show ∃ vnode, ((after s c t call).calls (t.owner b)).pc = .creating b vnode
    rw [q.owner b (h.made b hmem)]
    by_cases hc : s.owner b = c
    · rw [hc, after_self]
      exact hpc b vnode (hc ▸ hvnode)
    · rw [after_of_ne hc]
      exact ⟨vnode, hvnode⟩

theorem Quiet.vnodeOk (q : Quiet s.toNodeTable t) (h : FindInv s)
    (hpc : ∀ b v, (s.calls c).pc = .creating b (some v) → call.pc = .creating b (some v))
    (hlive : ∀ c' b v, (s.calls c').pc = .creating b (some v) → (t.vnodes v).phase = .live) {v : ℕ}
    (hv : v < s.vnodeCount) (hphase : (t.vnodes v).phase ≠ .reclaimed) :
    VnodeOk (after s c t call) v := by
  have ⟨hnode, hor⟩ := h.vnodes v hv fun hrec => hphase ((q.reclaimed v hv).mpr hrec)
  show (t.vnodes v).fsnode ∈ t.nodes ∧ ((t.mem (t.vnodes v).fsnode).nodeVnode = some v ∨
    (t.vnodes v).phase = .live ∧ ((after s c t call).calls (t.owner (t.vnodes v).fsnode)).pc =
      .creating (t.vnodes v).fsnode (some v))
  rw [q.nodes, q.vnode, q.fsnode v hv, q.owner _ (h.blocks.made _ hnode)]
  refine ⟨hnode, hor.imp_right fun hcreating => ⟨hlive _ _ _ hcreating.2, ?_⟩⟩
  by_cases hc : s.owner (s.vnodes v).fsnode = c
  · rw [hc, after_self]
    exact hpc _ _ (hc ▸ hcreating.2)
  · rw [after_of_ne hc]
    exact hcreating.2

theorem evolves_quiet (h : FindInv s) (q : Quiet s.toNodeTable t)
    (hcount : t.vnodeCount = s.vnodeCount) (hpc : ∀ b vnode, (s.calls c).pc = .creating b vnode →
      call.pc = .creating b vnode)
    (hrely : ∀ c' ≠ c, Rely s.toNodeTable t c') (hok : CallOk t c call) :
    Evolves s (after s c t call) := by
  refine evolves_after h (q.table h.table) ?_ ?_ hrely ?_ q.kept hok
  · exact q.blocksOk h.blocks fun b vnode hcreating => ⟨vnode, hpc b vnode hcreating⟩
  · intro v hv hphase
    refine q.vnodeOk h (fun b v => hpc b (some v)) ?_ (hcount ▸ hv) hphase
    intro c' b v hcreating
    by_cases hc : c' = c
    · exact (hok.created b v (hpc b (some v) (hc ▸ hcreating))).2.2.1
    · have ⟨hmade, _, hlive, hio⟩ := (h.calls c').created b v hcreating
      exact ((hrely c' hc).iocount v hmade hlive hio).1
  · intro b hb hattach hwait
    rw [q.nodes, q.attaching]
    exact ⟨hb, hattach, q.waiting b hwait⟩

theorem evolves_malloc (h : FindInv s) (hpc : (s.calls c).pc = .alloc) :
    Evolves s
      (after s c (s.osMalloc c) { s.calls c with newSfsnode := some s.blocks, pc := .top }) := by
  have howner : ∀ b < s.blocks, (s.osMalloc c).owner b = s.owner b := fun b hb =>
    Function.update_of_ne hb.ne ..
  have q : Quiet s.toNodeTable (s.osMalloc c) := ⟨rfl, rfl, rfl, Nat.le_succ _, howner, fun _ => id,
    fun _ => .inl, fun _ => rfl, fun _ => rfl, fun _ => rfl, fun _ => id, le_rfl, fun _ _ => rfl,
    fun _ _ => Iff.rfl⟩
  refine evolves_quiet h q rfl ?_ (fun c' _ => ?_) ?_
  · intro b vnode hcreating
    rw [hpc] at hcreating
    cases hcreating
  · exact q.rely (fun _ _ => id) fun _ _ hphase hio => ⟨hphase, hio⟩
  · have hins := (h.calls c).searching (by rw [hpc]; rfl)
    refine ⟨?_, fun _ => hins, nofun, nofun, nofun, nofun, nofun, nofun, nofun⟩
    intro b hb _
    cases hb
    refine ⟨Nat.lt_succ_self _, fun hmem => ?_, Function.update_self .., fun hmem => ?_⟩
    · exact lt_irrefl _ (h.blocks.made _ hmem)
    · exact lt_irrefl _ (h.blocks.freed _ hmem).1

theorem Quiet.refl (t : NodeTable) : Quiet t t :=
  ⟨rfl, rfl, rfl, le_rfl, fun _ _ => rfl, fun _ => id,
  fun _ => .inl, fun _ => rfl, fun _ => rfl, fun _ => rfl, fun _ => id, le_rfl, fun _ _ => rfl,
  fun _ _ => Iff.rfl⟩

theorem evolves_setCall (h : FindInv s) (hpc : ∀ b vnode, (s.calls c).pc ≠ .creating b vnode)
    (hok : CallOk s.toNodeTable c call) : Evolves s (s.setCall c call) :=
  evolves_quiet h (.refl _) rfl (fun b vnode hcreating => absurd hcreating (hpc b vnode))
    (fun c' _ => .refl _ c') hok

theorem evolves_dropNew (h : FindInv s) (c : ℕ) : Evolves s (s.dropNew c) := by
  unfold FindState.dropNew
  dsimp only
  split
  · next b hnew =>
    split
    · exact .refl h
    next hins =>
    rw [Bool.not_eq_true] at hins
    have hc := h.calls c
    have ⟨hlt, hnode, howner, hfreed⟩ := hc.fresh b hnew hins
    have hcreating : ∀ b' vnode, (s.calls c).pc ≠ .creating b' vnode := by
      intro b' vnode hpc
      have ⟨_, _, _, _, hins', _⟩ := hc.creating b' vnode hpc
      rw [hins] at hins'
      cases hins'
    have q : Quiet s.toNodeTable (s.osFree b) := { Quiet.refl s.toNodeTable with
      freed := fun _ => List.mem_cons_of_mem _
      newlyFreed := fun b' hb' => by
        refine (List.mem_cons.mp hb').symm.imp_right fun heq => ?_
        rw [heq]
        exact ⟨hlt, hnode⟩ }
    refine evolves_quiet h q rfl (fun b' vnode hpc => absurd hpc (hcreating b' vnode))
      (fun c' hc' => ?_) ?_
    · refine q.rely (fun b' howner' hb' => ?_) fun _ _ hphase hio => ⟨hphase, hio⟩
      refine (List.mem_cons.mp hb').resolve_left fun heq => hc' ?_
      rw [← howner', heq, howner]
    · refine ⟨nofun, fun _ => hins, hc.asleep, ?_, ?_, ?_, ?_, ?_, hc.failed⟩
      · intro b' v hpc
        have ⟨hkey, hmade, hfs, hor⟩ := hc.getvid b' v hpc
        exact ⟨hkey, hmade, hfs, hor.imp_left fun hrec => ⟨hrec.1, List.mem_cons_of_mem _ hrec.2⟩⟩
      · exact fun b' vnode hpc => absurd hpc (hcreating b' vnode)
      · exact fun b' v hpc => absurd hpc (hcreating b' (some v))
      · intro target vnode hpc
        have ⟨b', v, hb', hv, hh⟩ := hc.finish target vnode hpc
        exact ⟨b', v, hb', hv, hh.1, hh.2, hh.3, hh.4, hh.5, hh.6⟩
      · intro target vnode hpc
        have ⟨b', v, hb', hv, hh⟩ := hc.returned target vnode hpc
        exact ⟨b', v, hb', hv, hh.1, hh.2, hh.3, hh.4, hh.5, hh.6⟩
  · exact .refl h

theorem quiet_setVnode {v : ℕ} {vnode : Vnode} (hfs : vnode.fsnode = (t.vnodes v).fsnode)
    (hrec : vnode.phase = .reclaimed ↔ (t.vnodes v).phase = .reclaimed) :
    Quiet t (t.setVnode v vnode) :=
  { Quiet.refl t with
    fsnode := fun v' _ => by
      by_cases hv : v' = v <;> simp [NodeTable.setVnode, hv, hfs]
    reclaimed := fun v' _ => by
      by_cases hv : v' = v <;> simp [NodeTable.setVnode, hv, hrec] }

theorem rely_setVnode {v c' : ℕ} {vnode : Vnode} (q : Quiet t (t.setVnode v vnode))
    (hio : (t.vnodes v).phase = .live → c' ∈ (t.vnodes v).iocounts →
      vnode.phase = .live ∧ c' ∈ vnode.iocounts) : Rely t (t.setVnode v vnode) c' := by
  refine q.rely (fun _ _ => id) fun v' _ hphase hmem => ?_
  by_cases hv : v' = v
  · rw [hv] at hphase hmem
    simpa [NodeTable.setVnode, hv] using hio hphase hmem
  · simpa [NodeTable.setVnode, hv] using ⟨hphase, hmem⟩

theorem evolves_getwithvid (h : FindInv s) {b v : ℕ} (hpc : (s.calls c).pc = .getvid b v)
    (hlive : (s.vnodes v).phase = .live) :
    Evolves s (after s c (s.setVnode v { s.vnodes v with iocounts := c :: (s.vnodes v).iocounts })
      { s.calls c with pc := .finish 0 (some b) (some v) }) := by
  have hc := h.calls c
  have ⟨hkey, hmade, hfs, hor⟩ := hc.getvid b v hpc
  have hnode : b ∈ s.nodes ∧ (s.mem b).nodeVnode = some v := by
    refine hor.resolve_left fun hrec => ?_
    rw [hlive] at hrec
    cases hrec.1
  have q : Quiet s.toNodeTable
      (s.setVnode v { s.vnodes v with iocounts := c :: (s.vnodes v).iocounts }) :=
    quiet_setVnode rfl Iff.rfl
  refine evolves_quiet h q rfl ?_ (fun c' _ => ?_) ?_
  · intro b' vnode hcreating
    rw [hpc] at hcreating
    cases hcreating
  · exact rely_setVnode q fun hphase hio => ⟨hphase, List.mem_cons_of_mem _ hio⟩
  · refine ⟨hc.fresh, nofun, nofun, nofun, nofun, nofun, ?_, nofun, nofun⟩
    intro target vnode heq
    cases heq
    refine ⟨b, v, rfl, rfl, hnode.1, hkey, hnode.2, hmade, ?_, ?_⟩ <;>
      simp [NodeTable.setVnode, hlive]

theorem evolves_vnodePut (h : FindInv s) {v : ℕ} {snp : Option ℕ}
    (hpc : (s.calls c).pc = .returned 0 snp (some v) true) :
    Evolves s (after s c
      (s.setVnode v { s.vnodes v with iocounts := (s.vnodes v).iocounts.erase c })
      { s.calls c with pc := .returned 0 snp (some v) false }) := by
  have q : Quiet s.toNodeTable
      (s.setVnode v { s.vnodes v with iocounts := (s.vnodes v).iocounts.erase c }) :=
    quiet_setVnode rfl Iff.rfl
  refine evolves_quiet h q rfl ?_ (fun c' hc' => ?_) ?_
  · intro b' vnode hcreating
    rw [hpc] at hcreating
    cases hcreating
  · exact rely_setVnode q fun hphase hio => ⟨hphase, (List.mem_erase_of_ne hc').mpr hio⟩
  · refine ⟨(h.calls c).fresh, nofun, nofun, nofun, nofun, nofun, nofun, nofun, ?_⟩
    intro e _ _ _ heq he
    cases heq
    exact absurd rfl he

theorem evolves_terminate (h : FindInv s) {v : ℕ} (hio : (s.vnodes v).iocounts = [])
    (hlive : (s.vnodes v).phase = .live) :
    Evolves s (s.setTable (s.setVnode v { s.vnodes v with phase := .terminating })) := by
  have q : Quiet s.toNodeTable (s.setVnode v { s.vnodes v with phase := .terminating }) :=
    quiet_setVnode rfl (by simp [hlive])
  have hrely : ∀ c',
      Rely s.toNodeTable (s.setVnode v { s.vnodes v with phase := .terminating }) c' :=
    fun c' => rely_setVnode q fun _ hmem => by simp [hio] at hmem
  rw [setTable_eq_after s 0]
  refine evolves_quiet h q rfl (fun _ _ => id) (fun c' _ => hrely c') ?_
  exact (h.calls 0).rely (hrely 0) (h.calls 0).asleep

theorem evolves_asleep (h : FindInv s) (hpc : (s.calls c).pc.searching = true) {b : ℕ}
    (hb : b ∈ s.nodes) (hattach : (s.mem b).nodeAttachingVnode = true) :
    Evolves s (after s c (s.setBlock b { s.mem b with nodeThreadWaitingAttach := true })
      { s.calls c with pc := .asleep b }) := by
  -- the other thread is still attaching, and the call goes to sleep
  have q : Quiet s.toNodeTable (s.setBlock b { s.mem b with nodeThreadWaitingAttach := true }) :=
    { Quiet.refl s.toNodeTable with
      key := fun b' => by by_cases hb' : b' = b <;> simp [NodeTable.setBlock, hb']
      vnode := fun b' => by by_cases hb' : b' = b <;> simp [NodeTable.setBlock, hb']
      attaching := fun b' => by by_cases hb' : b' = b <;> simp [NodeTable.setBlock, hb']
      waiting := fun b' => by by_cases hb' : b' = b <;> simp [NodeTable.setBlock, hb'] }
  have hc := h.calls c
  refine evolves_quiet h q rfl ?_ (fun c' _ => ?_) ?_
  · intro b' vnode hcreating
    rw [hcreating] at hpc
    cases hpc
  · exact q.rely (fun _ _ => id) fun _ _ hphase hio => ⟨hphase, hio⟩
  · refine ⟨hc.fresh, fun _ => hc.searching hpc, ?_, by simp, by simp, by simp, by simp, by simp,
      by simp⟩
    intro b' heq
    cases heq
    exact ⟨hb, by simp [NodeTable.setBlock, hattach], by simp [NodeTable.setBlock]⟩

theorem evolves_vnodeCreate (h : FindInv s) {b : ℕ} (hpc : (s.calls c).pc = .creating b none) :
    Evolves s (after s c (s.toNodeTable.vnodeCreate c b)
      { s.calls c with pc := .creating b (some s.vnodeCount) }) := by
  have hc := h.calls c
  have ⟨hb, hlt, howner, hnew, hins, hkey, hnone⟩ := hc.creating b none hpc
  have hold : ∀ v < s.vnodeCount, (s.toNodeTable.vnodeCreate c b).vnodes v = s.vnodes v :=
    fun v hv => Function.update_of_ne hv.ne ..
  have hself : (s.toNodeTable.vnodeCreate c b).vnodes s.vnodeCount = ⟨b, .live, [c]⟩ :=
    Function.update_self ..
  have q : Quiet s.toNodeTable (s.toNodeTable.vnodeCreate c b) :=
    { Quiet.refl s.toNodeTable with
      made := Nat.le_succ _
      fsnode := fun v hv => by rw [hold v hv]
      reclaimed := fun v hv => by rw [hold v hv] }
  have hrely : ∀ c', Rely s.toNodeTable (s.toNodeTable.vnodeCreate c b) c' := fun c' =>
    q.rely (fun _ _ => id) fun v hv hphase hio => by
      rw [hold v hv]
      exact ⟨hphase, hio⟩
  refine evolves_after h (q.table h.table) ?_ ?_ (fun c' _ => hrely c') ?_ q.kept ?_
  · refine q.blocksOk h.blocks fun b' vnode hcreating => ?_
    rw [hpc] at hcreating
    cases hcreating
    exact ⟨_, rfl⟩
  · intro v hv hphase
    by_cases hvlt : v < s.vnodeCount
    · refine q.vnodeOk h ?_ ?_ hvlt hphase
      · intro b' v' hcreating
        rw [hpc] at hcreating
        cases hcreating
      · intro c' b' v' hcreating
        have ⟨hmade, _, hlive, _⟩ := (h.calls c').created b' v' hcreating
        rw [hold v' hmade]
        exact hlive
    · have hv' : v < s.vnodeCount + 1 := hv
      have heq : v = s.vnodeCount := by omega
      have hvnode : (after s c (s.toNodeTable.vnodeCreate c b)
          { s.calls c with pc := .creating b (some s.vnodeCount) }).vnodes v = ⟨b, .live, [c]⟩ := by
        rw [heq]
        exact hself
      have howner' : (after s c (s.toNodeTable.vnodeCreate c b)
          { s.calls c with pc := .creating b (some s.vnodeCount) }).owner b = c := howner
      unfold VnodeOk
      rw [hvnode]
      refine ⟨hb, .inr ⟨rfl, ?_⟩⟩
      rw [howner', after_self, heq]
  · exact fun b hb hattach hwait => ⟨hb, hattach, hwait⟩
  · refine ⟨hc.fresh, nofun, nofun, nofun, ?_, ?_, nofun, nofun, nofun⟩
    · intro b' vnode heq
      cases heq
      exact ⟨hb, hlt, howner, hnew, hins, hkey, hnone⟩
    · intro b' v heq
      cases heq
      rw [hself]
      exact ⟨Nat.lt_succ_self _, rfl, rfl, List.mem_singleton_self c⟩

end Quiet

end Steps

end SysFS
