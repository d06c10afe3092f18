import SysFS.NodeFindQuiet

namespace SysFS
open Buckets Transition

section Steps
variable {s s' : FindState} {c : ℕ}

/-- Only the block `b` and its vnodes change, and a live vnode does not. -/
structure OnlyBlock (t t' : NodeTable) (b : ℕ) : Prop where
  blocks : t'.blocks = t.blocks
  owner : t'.owner = t.owner
  nodes : ∀ b', b' ≠ b → (b' ∈ t'.nodes ↔ b' ∈ t.nodes)
  freed : ∀ b', b' ≠ b → (b' ∈ t'.freed ↔ b' ∈ t.freed)
  mem : ∀ b', b' ≠ b → t'.mem b' = t.mem b'
  count : t'.vnodeCount = t.vnodeCount
  fsnode : ∀ v, (t'.vnodes v).fsnode = (t.vnodes v).fsnode
  vnodes : ∀ v, (t.vnodes v).fsnode ≠ b ∨ (t.vnodes v).phase = .live → t'.vnodes v = t.vnodes v
  reclaimed : ∀ v, (t.vnodes v).phase = .reclaimed → (t'.vnodes v).phase = .reclaimed

section OnlyBlock
variable {t t' : NodeTable} {b : ℕ}

theorem OnlyBlock.rely (o : OnlyBlock t t' b) {c' : ℕ} (hother : b ∈ t.nodes ∨ t.owner b ≠ c')
    (hfreed : b ∉ t.freed) (hkey : b ∈ t.nodes → (t'.mem b).key = (t.mem b).key)
    (hown : b ∈ t.nodes → t.owner b = c' → (t.mem b).nodeVnode ≠ none)
    (hattached : b ∈ t.nodes → ∀ v, (t.mem b).nodeVnode = some v → (t'.mem b).nodeVnode = some v ∧
      (b ∈ t'.nodes ∨ (t'.vnodes v).phase = .reclaimed ∧ b ∈ t'.freed)) : Rely t t' c' where
  blocks := o.blocks.ge
  owner b' _ := congrFun o.owner b'
  fresh b' _ howner hnode hnot := by
    have hne : b' ≠ b := by
      intro heq
      rw [heq] at howner hnode
      exact hother.elim hnode fun hne => hne howner
    rw [o.nodes b' hne, o.freed b' hne]
    exact ⟨hnode, hnot⟩
  freed b' hb' := (o.freed b' fun heq => hfreed (heq ▸ hb')).mpr hb'
  key b' hb' := by
    by_cases heq : b' = b
    · rw [heq] at hb' ⊢
      exact hkey (hb'.resolve_right hfreed)
    · rw [o.mem b' heq]
  own b' hb' howner hnone := by
    have hne : b' ≠ b := by
      intro heq
      rw [heq] at hb' howner hnone
      exact hown hb' howner hnone
    rw [o.nodes b' hne, o.mem b' hne]
    exact ⟨hb', hnone⟩
  attached b' hb' v hv := by
    by_cases heq : b' = b
    · rw [heq] at hb' hv ⊢
      exact hattached hb' v hv
    · rw [o.nodes b' heq, o.mem b' heq]
      exact ⟨hv, .inl hb'⟩
  vnodes v hv := ⟨o.count.symm ▸ hv, o.fsnode v, o.reclaimed v⟩
  iocount v _ hphase hio := by
    rw [o.vnodes v (.inr hphase)]
    exact ⟨hphase, hio⟩

theorem OnlyBlock.kept (o : OnlyBlock t t' b) {v : ℕ}
    (hb : b ∈ t.nodes → (t.mem b).nodeVnode ≠ some v) : Kept v t t' := by
  intro b' hb' hv
  have hne : b' ≠ b := by
    intro heq
    rw [heq] at hb' hv
    exact hb hb' hv
  rw [o.nodes b' hne, o.mem b' hne]
  exact ⟨hb', hv, rfl⟩

theorem OnlyBlock.blocksOk (o : OnlyBlock s.toNodeTable s'.toNodeTable b) (h : BlocksOk s)
    (hpc : ∀ c' b' vnode, b' ≠ b → (s.calls c').pc = .creating b' vnode →
      (s'.calls c').pc = .creating b' vnode) (hlt : b < s.blocks)
    (hfreed : b ∈ s'.freed → b ∉ s'.nodes)
    (hattached : b ∈ s'.nodes → ∀ v, (s'.mem b).nodeVnode = some v →
      (s'.mem b).nodeAttachingVnode = false ∧ v < s.vnodeCount ∧ (s.vnodes v).fsnode = b ∧
        (s'.vnodes v).phase ≠ .reclaimed)
    (hattaching : b ∈ s'.nodes → (s'.mem b).nodeVnode = none →
      (s'.mem b).nodeAttachingVnode = true ∧
        ∃ vnode, (s'.calls (s.owner b)).pc = .creating b vnode) : BlocksOk s' where
  made b' hb' := by
    rw [o.blocks]
    by_cases heq : b' = b
    · rw [heq]
      exact hlt
    · exact h.made b' ((o.nodes b' heq).mp hb')
  freed b' hb' := by
    rw [o.blocks]
    by_cases heq : b' = b
    · rw [heq] at hb' ⊢
      exact ⟨hlt, hfreed hb'⟩
    · rw [o.nodes b' heq]
      exact h.freed b' ((o.freed b' heq).mp hb')
  attached b' hb' v hv := by
    rw [o.count, o.fsnode]
    by_cases heq : b' = b
    · rw [heq] at hb' hv ⊢
      exact hattached hb' v hv
    · rw [o.mem b' heq] at hv ⊢
      have ⟨hattach, hmade, hfs, hphase⟩ := h.attached b' ((o.nodes b' heq).mp hb') v hv
      rw [o.vnodes v (.inl fun hb => heq (hfs.symm.trans hb))]
      exact ⟨hattach, hmade, hfs, hphase⟩
  attaching b' hb' hnone := by
    rw [o.owner]
    by_cases heq : b' = b
    · rw [heq] at hb' hnone ⊢
      exact hattaching hb' hnone
    · rw [o.mem b' heq] at hnone ⊢
      have ⟨hattach, vnode, hvnode⟩ := h.attaching b' ((o.nodes b' heq).mp hb') hnone
      exact ⟨hattach, vnode, hpc _ b' vnode heq hvnode⟩

theorem OnlyBlock.vnodeOk (o : OnlyBlock s.toNodeTable s'.toNodeTable b) {v : ℕ}
    (h : VnodeOk s v) (hpc : ∀ c' b' vnode, b' ≠ b → (s.calls c').pc = .creating b' vnode →
      (s'.calls c').pc = .creating b' vnode) (hfs : (s.vnodes v).fsnode ≠ b) : VnodeOk s' v := by
  have ⟨hnode, hor⟩ := h
  unfold VnodeOk
  rw [o.vnodes v (.inl hfs), o.nodes _ hfs, o.mem _ hfs, o.owner]
  exact ⟨hnode, hor.imp_right fun hcreating => ⟨hcreating.1, hpc _ _ _ hfs hcreating.2⟩⟩

end OnlyBlock

theorem promoteNew_attach (c b : ℕ) :
    (s.promoteNew c b).attach c b = after s c
      ((s.insertNew b (s.calls c).args).setBlock b ⟨(s.calls c).args, none, true, false⟩)
      { s.calls c with newSfsnodeInserted := true, pc := .creating b none } := by
  simp [FindState.promoteNew, FindState.attach, FindState.setTable, FindState.setCall,
    FindState.setPc,
    NodeTable.insertNew, NodeTable.setBlock]

theorem not_creating_of_searching {pc : FindPc} (h : pc.searching = true) (b : ℕ)
    (vnode : Option ℕ) : pc ≠ .creating b vnode := by
  intro heq
  rw [heq] at h
  cases h

section Promote
variable {b : ℕ}

theorem onlyBlock_promote (h : FindInv s) (b : ℕ) (args : Sfsnode) :
    OnlyBlock s.toNodeTable ((s.insertNew b args).setBlock b ⟨args, none, true, false⟩) b where
  blocks := rfl
  owner := rfl
  nodes b' hne := by
    have hmem := mem_nodes_insertNew h.table b args b'
    rw [or_iff_right hne] at hmem
    exact hmem
  freed _ _ := Iff.rfl
  mem b' hne := by simp [NodeTable.setBlock, NodeTable.insertNew, hne]
  count := rfl
  fsnode _ := rfl
  vnodes _ _ := rfl
  reclaimed _ := id

theorem evolves_promote (h : FindInv s) (hpc : (s.calls c).pc.searching = true)
    (hnew : (s.calls c).newSfsnode = some b) (hfind : s.findInHash (s.calls c).args.key = none) :
    Evolves s ((s.promoteNew c b).attach c b) := by
  have hc := h.calls c
  have hins := hc.searching hpc
  obtain ⟨hlt, hnode, howner, hfreed⟩ := hc.fresh b hnew hins
  have hkeys : ∀ b' ∈ s.nodes, (s.mem b').key ≠ (s.calls c).args.key := by
    have hwalk := (find?_bucket_eq_none h.table.placed (fun b' hb' => by
      rw [of_decide_eq_true hb'])).mp hfind
    exact fun b' hb' => of_decide_eq_false (hwalk b' hb')
  have hpcs : ∀ (t : NodeTable) (call : FindCall) c' b' vnode, b' ≠ b →
      (s.calls c').pc = .creating b' vnode →
      ((after s c t call).calls c').pc = .creating b' vnode := by
    intro t call c' b' vnode _ hcreating
    have hne : c' ≠ c := fun heq => not_creating_of_searching hpc b' vnode (heq ▸ hcreating)
    rw [after_of_ne hne, hcreating]
  rw [promoteNew_attach]
  have o := onlyBlock_promote h b (s.calls c).args
  have hin : b ∈ ((s.insertNew b (s.calls c).args).setBlock b
      ⟨(s.calls c).args, none, true, false⟩).nodes :=
    (mem_nodes_insertNew h.table b _ b).mpr (.inl rfl)
  refine evolves_after h ?_ ?_ (fun v hv hphase => ?_) (fun c' hc' => ?_) ?_
    (fun v => o.kept fun hmem => absurd hmem hnode) ?_
  · refine (tableOk_insertNew h.table hnode hkeys).of_keys rfl rfl rfl fun b' _ => ?_
    by_cases heq : b' = b <;> simp [NodeTable.insertNew, NodeTable.setBlock, heq]
  · refine o.blocksOk h.blocks (hpcs _ _) hlt (fun hmem => absurd hmem hfreed) ?_ ?_
    · intro _ v hv
      simp [FindState.setCall, FindState.setTable, NodeTable.setBlock] at hv
    · intro _ _
      rw [howner, after_self]
      exact ⟨by simp [FindState.setCall, FindState.setTable, NodeTable.setBlock], none, rfl⟩
  · have hok := h.vnodes v hv hphase
    exact o.vnodeOk hok (hpcs _ _) fun heq => hnode (heq ▸ hok.1)
  · exact o.rely (.inr (howner ▸ hc'.symm)) hfreed (fun hmem => absurd hmem hnode)
      (fun hmem => absurd hmem hnode) (fun hmem => absurd hmem hnode)
  · intro b' hb' hattach hwait
    have hne : b' ≠ b := fun heq => hnode (heq ▸ hb')
    rw [o.nodes b' hne, o.mem b' hne]
    exact ⟨hb', hattach, hwait⟩
  · refine ⟨by simp, by rintro ⟨⟩, by simp, by simp, ?_, by simp, by simp, by simp, by simp⟩
    intro b' vnode heq
    cases heq
    refine ⟨hin, hlt, howner, hnew, rfl, ?_, ?_⟩ <;> simp [NodeTable.setBlock]

end Promote

section Created
variable {b v : ℕ}

theorem detach_calls (h : FindInv s) (b c' : ℕ) : (s.detach b).calls c' = (s.calls c').woken b := by
  -- a node with a thread asleep on it is marked, so `wakeup` is called for it
  unfold FindState.detach
  dsimp only
  split
  · rfl
  · next hwait =>
    have hpc : (s.calls c').pc ≠ .asleep b := fun hpc => hwait ((h.calls c').asleep b hpc).2.2
    rw [FindCall.woken, if_neg hpc]
    rfl

theorem detach_table (s : FindState) (b : ℕ) : (s.detach b).toNodeTable = s.setBlock b
    { s.mem b with nodeAttachingVnode := false, nodeThreadWaitingAttach := false } := by
  unfold FindState.detach
  dsimp only
  split <;> rfl

theorem woken_creating {call : FindCall} {b b' : ℕ} {vnode : Option ℕ}
    (h : call.pc = .creating b' vnode) : (call.woken b) = call := by
  simp [FindCall.woken, h]

/-- A step of the call `c` that changes the node `b` and wakes the calls asleep on it. -/
theorem evolves_wake (h : FindInv s) (o : OnlyBlock s.toNodeTable s'.toNodeTable b)
    (hcalls : ∀ c' ≠ c, s'.calls c' = (s.calls c').woken b) (htable : TableOk s'.toNodeTable)
    (hblocks : BlocksOk s')
    (hvnodes : ∀ v < s'.vnodeCount, (s'.vnodes v).phase ≠ .reclaimed → VnodeOk s' v)
    (hrely : ∀ c' ≠ c, Rely s.toNodeTable s'.toNodeTable c')
    (hnone : (s.mem b).nodeVnode = none) (hok : CallOk s'.toNodeTable c (s'.calls c)) :
    Evolves s s' := by
  refine ⟨⟨htable, hblocks, hvnodes, fun c' => ?_⟩, fun v => o.kept fun _ => ?_⟩
  rotate_left
  · rw [hnone]
    exact nofun
  by_cases hc : c' = c
  · rw [hc]
    exact hok
  rw [hcalls c' hc, FindCall.woken]
  split
  · next hpc => exact ((h.calls c').wake hpc).rely (hrely c' hc) nofun
  · next hpc =>
    refine (h.calls c').rely (hrely c' hc) fun b' hb' => ?_
    have hne : b' ≠ b := fun heq => hpc (heq ▸ hb')
    rw [o.nodes b' hne, o.mem b' hne]
    exact (h.calls c').asleep b' hb'

theorem detach_setCall_calls (h : FindInv s) {t : NodeTable} {call : FindCall} {c' : ℕ}
    (hc : c' ≠ c) : (after (s.detach b) c t call).calls c' = (s.calls c').woken b := by
  rw [after_of_ne hc, detach_calls h]

theorem detach_creating (h : FindInv s) {t : NodeTable} {call : FindCall} {vnode : Option ℕ}
    (hpc : (s.calls c).pc = .creating b vnode) {c' b' : ℕ} {vnode' : Option ℕ} (hne : b' ≠ b)
    (hc' : (s.calls c').pc = .creating b' vnode') :
    ((after (s.detach b) c t call).calls c').pc = .creating b' vnode' := by
  have hc : c' ≠ c := by
    intro heq
    rw [heq, hpc] at hc'
    cases hc'
    exact hne rfl
  rw [detach_setCall_calls h hc, woken_creating hc', hc']

theorem onlyBlock_setBlock (t : NodeTable) (b : ℕ) (block : NodeBlock) :
    OnlyBlock t (t.setBlock b block) b :=
  ⟨rfl, rfl, fun _ _ => Iff.rfl, fun _ _ => Iff.rfl, fun _ hne => Function.update_of_ne hne ..,
    rfl, fun _ => rfl, fun _ _ => rfl, fun _ => id⟩

theorem createDone_eq (h : FindInv s) (hpc : (s.calls c).pc = .creating b (some v)) :
    s.createDone c b v = after (s.detach b) c
      (s.setBlock b ⟨(s.mem b).toSfsnode, some v, false, false⟩)
      { s.calls c with pc := .finish 0 (some b) (some v) } := by
  have hcall : (s.detach b).calls c = s.calls c := by rw [detach_calls h, woken_creating hpc]
  unfold FindState.createDone
  dsimp only
  rw [FindState.setPc, detach_table]
  show after (s.detach b) c _ { (s.detach b).calls c with pc := _ } = _
  rw [hcall]
  simp [NodeTable.setBlock]

theorem evolves_createDone (h : FindInv s) (hpc : (s.calls c).pc = .creating b (some v)) :
    Evolves s (s.createDone c b v) := by
  have hc := h.calls c
  have ⟨hb, hlt, howner, hnew, hins, hkey, hnone⟩ := hc.creating b _ hpc
  have ⟨hmade, hfs, hlive, hio⟩ := hc.created b v hpc
  rw [createDone_eq h hpc]
  have hnotfreed : b ∉ s.freed := fun hmem => (h.blocks.freed b hmem).2 hb
  have o := onlyBlock_setBlock s.toNodeTable b ⟨(s.mem b).toSfsnode, some v, false, false⟩
  have hself : (s.setBlock b ⟨(s.mem b).toSfsnode, some v, false, false⟩).mem b =
      ⟨(s.mem b).toSfsnode, some v, false, false⟩ := Function.update_self ..
  have hrely : ∀ c', c' ≠ c → Rely s.toNodeTable _ c' := fun c' hc' =>
    o.rely (.inl hb) hnotfreed (fun _ => by rw [hself])
      (fun _ howner' => absurd (howner ▸ howner') hc'.symm)
      (fun _ v' hv' => by rw [hnone] at hv'; cases hv')
  refine evolves_wake h o (fun c' hc' => detach_setCall_calls h hc') ?_ ?_
    (fun v' hv' hphase' => ?_) hrely hnone ?_
  · refine h.table.of_keys rfl rfl rfl fun b' _ => ?_
    by_cases heq : b' = b
    · show ((s.setBlock b _).mem b').key = _
      rw [heq, hself]
    · show ((s.setBlock b _).mem b').key = _
      rw [o.mem b' heq]
  · refine o.blocksOk h.blocks (fun c' b' vnode hne => detach_creating h hpc hne) hlt
      (fun hmem => absurd hmem hnotfreed) (fun _ v' hv' => ?_) (fun _ hnone' => ?_)
    · have heq : (⟨(s.mem b).toSfsnode, some v, false, false⟩ : NodeBlock).nodeVnode = some v' :=
        hself ▸ hv'
      cases heq
      refine ⟨?_, hmade, hfs, ?_⟩
      · exact congrArg NodeBlock.nodeAttachingVnode hself
      · show (s.vnodes v).phase ≠ .reclaimed
        rw [hlive]
        exact nofun
    · have heq : (⟨(s.mem b).toSfsnode, some v, false, false⟩ : NodeBlock).nodeVnode = none :=
        hself ▸ hnone'
      cases heq
  · have hok := h.vnodes v' hv' hphase'
    by_cases heq : (s.vnodes v').fsnode = b
    · have hv'' : v' = v := by
        have hor := hok.2
        rw [heq, hnone, howner, hpc] at hor
        cases (hor.resolve_left nofun).2
        rfl
      have hnode : (after (s.detach b) c (s.setBlock b ⟨(s.mem b).toSfsnode, some v, false, false⟩)
        { s.calls c with pc := .finish 0 (some b) (some v) }).vnodes v' = s.vnodes v' := rfl
      unfold VnodeOk
      rw [hnode, heq, hv'']
      exact ⟨hb, .inl (congrArg NodeBlock.nodeVnode hself)⟩
    · exact o.vnodeOk hok (fun c' b' vnode hne => detach_creating h hpc hne) heq
  · rw [after_self]
    refine ⟨fun _ _ hins' => ?_, nofun, nofun, nofun, nofun, nofun, ?_, nofun, nofun⟩
    · rw [hins] at hins'
      cases hins'
    · intro target vnode heq
      cases heq
      refine ⟨b, v, rfl, rfl, hb, ?_, congrArg NodeBlock.nodeVnode hself, hmade, hlive, hio⟩
      show ((s.setBlock b _).mem b).key = _
      rw [hself]
      exact hkey

theorem onlyBlock_freeNode {t : NodeTable} (ht : TableOk t) (b : ℕ) :
    OnlyBlock t (t.sysfsnodeFreeNode b) b where
  blocks := rfl
  owner := rfl
  nodes b' hne := by
    rw [mem_nodes_freeNode ht]
    exact and_iff_right hne
  freed b' hne := by
    show b' ∈ b :: t.freed ↔ _
    rw [List.mem_cons]
    exact or_iff_right hne
  mem _ _ := rfl
  count := rfl
  fsnode _ := rfl
  vnodes _ _ := rfl
  reclaimed _ := id

theorem OnlyBlock.trans {t t' t'' : NodeTable} (o : OnlyBlock t t' b) (o' : OnlyBlock t' t'' b) :
    OnlyBlock t t'' b where
  blocks := o'.blocks.trans o.blocks
  owner := o'.owner.trans o.owner
  nodes b' hne := (o'.nodes b' hne).trans (o.nodes b' hne)
  freed b' hne := (o'.freed b' hne).trans (o.freed b' hne)
  mem b' hne := (o'.mem b' hne).trans (o.mem b' hne)
  count := o'.count.trans o.count
  fsnode v := (o'.fsnode v).trans (o.fsnode v)
  vnodes v hv := by
    have heq := o.vnodes v hv
    exact (o'.vnodes v (heq.symm ▸ hv)).trans heq
  reclaimed v hv := o'.reclaimed v (o.reclaimed v hv)

theorem tableOk_setBlock {t : NodeTable} (ht : TableOk t) {block : NodeBlock}
    (hkey : block.key = (t.mem b).key) : TableOk (t.setBlock b block) := by
  refine ht.of_keys rfl rfl rfl fun b' _ => ?_
  by_cases heq : b' = b <;> simp [NodeTable.setBlock, heq, hkey]

theorem createFailed_eq (h : FindInv s) (hpc : (s.calls c).pc = .creating b none) (error : Int32) :
    s.createFailed c b error = after (s.detach b) c
      ((s.setBlock b ⟨(s.mem b).toSfsnode, none, false, false⟩).sysfsnodeFreeNode b)
      { s.calls c with newSfsnode := none, pc := .finish error none none } := by
  have ⟨_, _, _, hnew, _, _, hnone⟩ := (h.calls c).creating b _ hpc
  have hcall : (s.detach b).calls c = s.calls c := by rw [detach_calls h, woken_creating hpc]
  unfold FindState.createFailed
  dsimp only
  rw [detach_table, hcall, hnew, if_pos rfl]
  dsimp only
  rw [hnone]

theorem evolves_createFailed (h : FindInv s) (hpc : (s.calls c).pc = .creating b none)
    {error : Int32}
    (herror : error ≠ 0) : Evolves s (s.createFailed c b error) := by
  -- the node goes, and with it what there was of its own call
  have hc := h.calls c
  obtain ⟨hb, hlt, howner, hnew, hins, hkey, hnone⟩ := hc.creating b _ hpc
  have hnotfreed : b ∉ s.freed := fun hmem => (h.blocks.freed b hmem).2 hb
  have htable : TableOk (s.setBlock b ⟨(s.mem b).toSfsnode, none, false, false⟩) :=
    tableOk_setBlock h.table rfl
  have o := (onlyBlock_setBlock s.toNodeTable b ⟨(s.mem b).toSfsnode, none, false, false⟩).trans
    (onlyBlock_freeNode htable b)
  have hgone : b ∉
      ((s.setBlock b ⟨(s.mem b).toSfsnode, none, false, false⟩).sysfsnodeFreeNode b).nodes := by
    rw [mem_nodes_freeNode htable]
    exact fun hmem => hmem.1 rfl
  rw [createFailed_eq h hpc]
  refine evolves_wake h o (fun c' hc' => detach_setCall_calls h hc') ?_ ?_
    (fun v hv hphase => ?_) (fun c' hc' => ?_) hnone ?_
  · exact tableOk_freeNode htable hb
  · exact o.blocksOk h.blocks (fun c' b' vnode hne => detach_creating h hpc hne) hlt
      (fun _ => hgone) (fun hmem => absurd hmem hgone) (fun hmem => absurd hmem hgone)
  · have hok := h.vnodes v hv hphase
    refine o.vnodeOk hok (fun c' b' vnode hne => detach_creating h hpc hne) fun heq => ?_
    -- the callback made no vnode for the node
    have hor := hok.2
    rw [heq, hnone, howner, hpc] at hor
    cases (hor.resolve_left (by simp)).2
  · refine o.rely (.inl hb) hnotfreed (fun _ => ?_) (fun _ howner' => ?_) (fun _ v' hv' => ?_)
    · simp [NodeTable.sysfsnodeFreeNode, NodeTable.osFree, NodeTable.setBlock]
    · exact absurd (howner ▸ howner') hc'.symm
    · rw [hnone] at hv'
      cases hv'
  · rw [after_self]
    refine ⟨by simp, by rintro ⟨⟩, by simp, by simp, by simp, by simp, ?_, by simp, by simp⟩
    intro target vnode heq
    cases heq
    exact absurd rfl herror

end Created

theorem findInv_reclaim (h : FindInv s) {v : ℕ} (hv : v < s.vnodeCount)
    (hphase : (s.vnodes v).phase = .terminating) :
    FindInv (s.setTable ((s.sysfsnodeFreeNode (s.vnodes v).fsnode).setVnode v
      { s.vnodes v with phase := .reclaimed })) ∧
    ∀ v', v' ≠ v → Kept v' s.toNodeTable ((s.sysfsnodeFreeNode (s.vnodes v).fsnode).setVnode v
      { s.vnodes v with phase := .reclaimed }) := by
  obtain ⟨hb, hor⟩ := h.vnodes v hv (by rw [hphase]; exact (by simp))
  have hvnode : (s.mem (s.vnodes v).fsnode).nodeVnode = some v := by
    refine hor.resolve_right fun hlive => ?_
    rw [hphase] at hlive
    cases hlive.1
  generalize hfs : (s.vnodes v).fsnode = b at hb hvnode ⊢
  have hnotfreed : b ∉ s.freed := fun hmem => (h.blocks.freed b hmem).2 hb
  have hfree := onlyBlock_freeNode h.table b
  have hgone : b ∉ (s.sysfsnodeFreeNode b).nodes := by
    rw [mem_nodes_freeNode h.table]
    exact fun hmem => hmem.1 rfl
  have o : OnlyBlock s.toNodeTable
      ((s.sysfsnodeFreeNode b).setVnode v { s.vnodes v with phase := .reclaimed }) b :=
    { hfree with
      fsnode := fun v' => by
        by_cases heq : v' = v <;> simp [NodeTable.setVnode, NodeTable.sysfsnodeFreeNode,
          NodeTable.osFree, heq]
      vnodes := fun v' hv' => by
        refine Function.update_of_ne (fun heq => ?_) ..
        rw [heq, hfs, hphase] at hv'
        exact hv'.elim (absurd rfl) (by simp)
      reclaimed := fun v' hv' => by
        by_cases heq : v' = v <;> simp [NodeTable.setVnode, NodeTable.sysfsnodeFreeNode,
          NodeTable.osFree, heq, hv'] }
  have hattach := (h.blocks.attached b hb v hvnode).1
  have hself : (((s.sysfsnodeFreeNode b).setVnode v
      { s.vnodes v with phase := .reclaimed }).vnodes v).phase = .reclaimed := by
    simp [NodeTable.setVnode]
  refine ⟨⟨?_, ?_, fun v' hv' hphase' => ?_, fun c' => ?_⟩, fun v' hne => o.kept fun _ heq => ?_⟩
  · exact (tableOk_freeNode h.table hb).of_keys rfl rfl rfl fun _ _ => rfl
  · exact o.blocksOk h.blocks (fun _ _ _ _ => id) (h.blocks.made b hb) (fun _ => hgone)
      (fun hmem => absurd hmem hgone) (fun hmem => absurd hmem hgone)
  · have hne : v' ≠ v := by
      intro heq
      rw [heq] at hphase'
      exact hphase' hself
    have hvnode' : ((s.sysfsnodeFreeNode b).setVnode v
      { s.vnodes v with phase := .reclaimed }).vnodes v' = s.vnodes v' :=
        Function.update_of_ne hne ..
    have hphase'' : (s.vnodes v').phase ≠ .reclaimed := hvnode' ▸ hphase'
    have hok := h.vnodes v' hv' hphase''
    refine o.vnodeOk hok (fun _ _ _ _ => id) fun heq => hne ?_
    -- the node has one vnode only
    have hor := hok.2
    rw [heq, hvnode] at hor
    refine hor.elim (fun hsome => (Option.some.inj hsome).symm) fun hcreating => ?_
    obtain ⟨_, _, _, _, _, _, hnone⟩ := (h.calls _).creating _ _ hcreating.2
    rw [hvnode] at hnone
    cases hnone
  · refine (h.calls c').rely ?_ fun b' hpc => ?_
    · refine o.rely (.inl hb) hnotfreed (fun _ => rfl) (fun _ _ => ?_) (fun _ v' hv' => ?_)
      · rw [hvnode]
        simp
      · rw [hvnode] at hv'
        cases hv'
        exact ⟨hvnode, .inr ⟨hself, List.mem_cons_self⟩⟩
    · obtain ⟨hnode, hattach', hwait⟩ := (h.calls c').asleep b' hpc
      have hne : b' ≠ b := by
        intro heq
        rw [heq, hattach] at hattach'
        cases hattach'
      show b' ∈ ((s.sysfsnodeFreeNode b).setVnode v _).nodes ∧ _
      rw [o.nodes b' hne]
      exact ⟨hnode, hattach', hwait⟩
  · rw [hvnode] at heq
    exact hne (Option.some.inj heq).symm

theorem evolves_attach (h : FindInv s) (hpc : (s.calls c).pc.searching = true) {b : ℕ}
    (hb : b ∈ s.nodes) (hkey : (s.mem b).key = (s.calls c).args.key) :
    Evolves s (s.attach c b) := by
  have hc := h.calls c
  unfold FindState.attach
  dsimp only
  split
  · next hattach => exact evolves_asleep h hpc hb hattach
  · next hattach =>
    split
    · next v hv =>
      have ⟨_, hmade, hfs, _⟩ := h.blocks.attached b hb v hv
      refine evolves_setCall h (not_creating_of_searching hpc) ⟨hc.fresh, fun _ => hc.searching hpc,
        nofun, ?_, nofun, nofun, nofun, nofun, nofun⟩
      intro b' v' heq
      cases heq
      exact ⟨hkey, hmade, hfs, .inr ⟨hb, hv⟩⟩
    · next hnone => exact absurd (h.blocks.attaching b hb hnone).1 hattach

theorem evolves_loopSection (h : FindInv s) (hpc : (s.calls c).pc.searching = true) :
    Evolves s (s.loopSection c) := by
  have hc := h.calls c
  unfold FindState.loopSection
  split
  · next b hfind =>
    have ⟨hb, hkey⟩ := find?_bucket_mem hfind
    exact evolves_attach h hpc hb (of_decide_eq_true hkey)
  · next hfind =>
    split
    · exact evolves_setCall h (not_creating_of_searching hpc) ⟨hc.fresh,
        fun _ => hc.searching hpc, nofun, nofun, nofun, nofun, nofun, nofun, nofun⟩
    · next b hnew => exact evolves_promote h hpc hnew hfind

theorem dropNew_call (s : FindState) (c : ℕ) : ((s.dropNew c).calls c).pc = (s.calls c).pc ∧
    ((s.dropNew c).calls c).args = (s.calls c).args := by
  unfold FindState.dropNew
  dsimp only
  split
  · split
    · exact ⟨rfl, rfl⟩
    · simp [FindState.setCall]
  · exact ⟨rfl, rfl⟩

theorem evolves_leave (h : FindInv s) {error : Int32} {target vnode : Option ℕ}
    (hpc : (s.calls c).pc = .finish error target vnode) :
    Evolves s (s.leave c error target vnode) := by
  unfold FindState.leave
  dsimp only
  generalize hs' : (if (s.calls c).newSfsnode ≠ target then s.dropNew c else s) = s'
  have hev : Evolves s s' := by
    rw [← hs']
    split
    · exact evolves_dropNew h c
    · exact .refl h
  have hpc' : (s'.calls c).pc = .finish error target vnode := by
    rw [← hs']
    split
    · rw [(dropNew_call s c).1, hpc]
    · exact hpc
  have hc := hev.inv.calls c
  refine hev.trans (evolves_setCall hev.inv (fun b vn heq => ?_)
    ⟨hc.fresh, nofun, nofun, nofun, nofun,
    nofun, nofun, fun snp vnp heq => ?_, fun e snp vnp io heq he => ?_⟩)
  · rw [hpc'] at heq
    cases heq
  · have ⟨herror, hsnp, hvnp, _⟩ := FindPc.returned.inj heq
    rw [if_pos herror] at hsnp hvnp
    rw [herror] at hpc'
    rw [← hsnp, ← hvnp]
    exact hc.finish target vnode hpc'
  · have ⟨herror, hsnp, hvnp, _⟩ := FindPc.returned.inj heq
    rw [if_neg (herror ▸ he)] at hsnp hvnp
    exact ⟨hsnp.symm, hvnp.symm⟩

end Steps

end SysFS
