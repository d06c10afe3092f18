import SysFS.NodeFindBlocks

namespace SysFS
open Buckets Transition

/-- A call that was made stays made, with the same arguments, and one that has returned and
holds an iocount does not move. -/
structure CallAges (call call' : FindCall) : Prop where
  made : call.pc ≠ .idle → call'.pc ≠ .idle ∧ call'.args = call.args
  returned : ∀ e snp vnp, call.pc = .returned e snp vnp true → call' = call

theorem CallAges.refl (call : FindCall) : CallAges call call :=
  ⟨fun h => ⟨h, rfl⟩, fun _ _ _ _ => rfl⟩

theorem CallAges.trans {call call' call'' : FindCall} (h : CallAges call call')
    (h' : CallAges call' call'') : CallAges call call'' := by
  refine ⟨fun hpc => ?_, fun e snp vnp hpc => ?_⟩
  · have hmade := h.made hpc
    have hmade' := h'.made hmade.1
    exact ⟨hmade'.1, hmade'.2.trans hmade.2⟩
  · have heq := h.returned e snp vnp hpc
    rw [heq] at h'
    rw [h'.returned e snp vnp hpc]

theorem CallAges.goesOn {call call' : FindCall} (hpc : call.pc.inProgress = true)
    (hpc' : call'.pc ≠ .idle) (hargs : call'.args = call.args) : CallAges call call' := by
  refine ⟨fun _ => ⟨hpc', hargs⟩, fun e snp vnp hret => ?_⟩
  rw [hret] at hpc
  cases hpc

theorem CallAges.woken (call : FindCall) (b : ℕ) : CallAges call (call.woken b) := by
  rw [FindCall.woken]
  split
  · next hpc =>
    apply CallAges.goesOn
    · rw [hpc]
      rfl
    · simp
    · rfl
  · exact .refl call

def Ages (s s' : FindState) : Prop := ∀ c, CallAges (s.calls c) (s'.calls c)

section Ages
variable {s s' s'' : FindState} {c : ℕ}

theorem Ages.refl (s : FindState) : Ages s s := fun _ => .refl _

theorem Ages.trans (h : Ages s s') (h' : Ages s' s'') : Ages s s'' := fun c => (h c).trans (h' c)

theorem ages_after {t : NodeTable} {call : FindCall} (h : CallAges (s.calls c) call) :
    Ages s (after s c t call) := by
  intro c'
  by_cases hc : c' = c
  · rw [hc, after_self]
    exact h
  · rw [after_of_ne hc]
    exact .refl _

theorem ages_attach (hpc : (s.calls c).pc.inProgress = true) (b : ℕ) : Ages s (s.attach c b) := by
  unfold FindState.attach
  dsimp only
  split
  · exact ages_after (.goesOn hpc nofun rfl)
  · split
    · exact ages_after (t := s.toNodeTable) (.goesOn hpc nofun rfl)
    · exact ages_after (.goesOn hpc nofun rfl)

theorem ages_loopSection (hpc : (s.calls c).pc.inProgress = true) : Ages s (s.loopSection c) := by
  unfold FindState.loopSection
  split
  · exact ages_attach hpc _
  · split
    · exact ages_after (t := s.toNodeTable) (.goesOn hpc nofun rfl)
    · next b _ =>
      have hpromote : Ages s (s.promoteNew c b) := by
        refine ages_after (.goesOn hpc ?_ rfl)
        intro hidle
        rw [hidle] at hpc
        cases hpc
      refine hpromote.trans (ages_attach ?_ b)
      rw [FindState.promoteNew, after_self]
      exact hpc

theorem ages_dropNew (hpc : (s.calls c).pc.inProgress = true) : Ages s (s.dropNew c) := by
  unfold FindState.dropNew
  dsimp only
  split
  · split
    · exact .refl s
    · refine ages_after (.goesOn hpc ?_ rfl)
      intro hidle
      rw [hidle] at hpc
      cases hpc
  · exact .refl s

theorem ages_detach (s : FindState) (b : ℕ) : Ages s (s.detach b) := by
  unfold FindState.detach
  dsimp only
  split
  · exact fun c => .woken (s.calls c) b
  · exact .refl s

theorem findStep_ages {op : FindOp} (hinv : FindInv s) (hstep : findStep s op = some s')
    (hput : ∀ c, op ≠ .vnodePut c) : Ages s s' := by
  have hin : ∀ {c pc}, (s.calls c).pc = pc → pc.inProgress = true →
      (s.calls c).pc.inProgress = true := fun h h' => h ▸ h'
  cases findStep_inv hstep with
  | @call c args hpc =>
    refine ages_after (t := s.toNodeTable) ⟨fun hne => absurd hpc hne, fun e snp vnp hret => ?_⟩
    cases hpc.symm.trans hret
  | round hpc => exact ages_loopSection (hin hpc rfl)
  | @again c hpc =>
    have hdrop := ages_dropNew (hin hpc rfl)
    refine hdrop.trans (ages_loopSection ?_)
    rw [(dropNew_call s c).1, hpc]
    rfl
  | @done c b v hpc =>
    rw [createDone_eq hinv hpc]
    refine (ages_detach s b).trans (ages_after ?_)
    rw [detach_calls hinv, woken_creating hpc]
    exact .goesOn (hin hpc rfl) nofun rfl
  | allocated hpc => exact ages_after (.goesOn (hin hpc rfl) nofun rfl)
  | noMemory hpc => exact ages_after (t := s.toNodeTable) (.goesOn (hin hpc rfl) nofun rfl)
  | changed hpc => exact ages_after (t := s.toNodeTable) (.goesOn (hin hpc rfl) nofun rfl)
  | got hpc => exact ages_after (.goesOn (hin hpc rfl) nofun rfl)
  | made hpc => exact ages_after (.goesOn (hin hpc rfl) nofun rfl)
  | @failed c b error hpc =>
    rw [createFailed_eq hinv hpc]
    refine (ages_detach s b).trans (ages_after ?_)
    rw [detach_calls hinv, woken_creating hpc]
    exact .goesOn (hin hpc rfl) nofun rfl
  | @left c error target vnode hpc =>
    unfold FindState.leave
    dsimp only
    split
    · refine (ages_dropNew (hin hpc rfl)).trans (ages_after (t := (s.dropNew c).toNodeTable) ?_)
      refine .goesOn ?_ nofun rfl
      rw [(dropNew_call s c).1, hpc]
      rfl
    · exact ages_after (t := s.toNodeTable) (.goesOn (hin hpc rfl) nofun rfl)
  | @put c v snp hpc => exact absurd rfl (hput c)
  | terminated | reclaimed => exact fun c => .refl _

end Ages

/-- What was asked for and what is in the hash has the property. -/
structure Asked (P : Sfsnode → Prop) (s : FindState) : Prop where
  calls : ∀ c, (s.calls c).pc ≠ .idle → P (s.calls c).args
  nodes : ∀ b ∈ s.nodes, P (s.mem b).toSfsnode

section Asked
variable {P : Sfsnode → Prop} {s s' : FindState} {c : ℕ}

theorem asked_init (mask : UInt64) : Asked P (.init mask) := by
  refine ⟨fun c hpc => absurd rfl hpc, fun b hb => ?_⟩
  have ⟨i, hi⟩ := mem_entries_iff.mp hb
  have hnil : bucket (List.replicate (mask.toNat + 1) []) i = ([] : List ℕ) := by
    simp [bucket, List.getElem?_replicate]
    split <;> rfl
  rw [show (FindState.init mask).buckets = List.replicate (mask.toNat + 1) [] from rfl, hnil] at hi
  cases hi

theorem named_setBlock {t : NodeTable} (h : ∀ b ∈ t.nodes, P (t.mem b).toSfsnode) {b : ℕ}
    {block : NodeBlock} (hsame : block.toSfsnode = (t.mem b).toSfsnode) :
    ∀ b' ∈ (t.setBlock b block).nodes, P ((t.setBlock b block).mem b').toSfsnode := by
  intro b' hb'
  have hp := h b' hb'
  by_cases heq : b' = b
  · rw [heq] at hp ⊢
    simpa [NodeTable.setBlock, hsame] using hp
  · simpa [NodeTable.setBlock, heq] using hp

theorem named_freeNode {t : NodeTable} (ht : TableOk t) (h : ∀ b ∈ t.nodes, P (t.mem b).toSfsnode)
    (b : ℕ) : ∀ b' ∈ (t.sysfsnodeFreeNode b).nodes, P ((t.sysfsnodeFreeNode b).mem b').toSfsnode :=
  fun b' hb' => h b' ((mem_nodes_freeNode ht b b').mp hb').2

theorem Asked.after (h : Asked P s) {t : NodeTable} {call : FindCall}
    (hcall : call.pc ≠ .idle → P call.args) (hnodes : ∀ b ∈ t.nodes, P (t.mem b).toSfsnode) :
    Asked P (after s c t call) := by
  refine ⟨fun c' => ?_, hnodes⟩
  by_cases hc : c' = c
  · rw [hc, after_self]
    exact hcall
  · rw [after_of_ne hc]
    exact h.calls c'

theorem Asked.goesOn (h : Asked P s) {t : NodeTable} {pc : FindPc} (hpc : (s.calls c).pc ≠ .idle)
    (hnodes : ∀ b ∈ t.nodes, P (t.mem b).toSfsnode) :
    Asked P (SysFS.after s c t { s.calls c with pc := pc }) :=
  h.after (fun _ => h.calls c hpc) hnodes

theorem asked_attach (h : Asked P s) (hpc : (s.calls c).pc ≠ .idle) (b : ℕ) :
    Asked P (s.attach c b) := by
  unfold FindState.attach
  dsimp only
  split
  · exact h.goesOn hpc (named_setBlock h.nodes rfl)
  · split
    · exact h.goesOn (t := s.toNodeTable) hpc h.nodes
    · exact h.goesOn hpc (named_setBlock h.nodes rfl)

theorem asked_promoteNew (h : Asked P s) (ht : TableOk s.toNodeTable)
    (hpc : (s.calls c).pc ≠ .idle) (b : ℕ) : Asked P (s.promoteNew c b) := by
  refine h.after (fun _ => h.calls c hpc) fun b' hb' => ?_
  by_cases heq : b' = b
  · rw [heq]
    simpa [NodeTable.insertNew, NodeTable.setBlock] using h.calls c hpc
  · have hold := ((mem_nodes_insertNew ht ..).mp hb').resolve_left heq
    simpa [NodeTable.insertNew, NodeTable.setBlock, heq] using h.nodes b' hold

theorem asked_loopSection (h : Asked P s) (ht : TableOk s.toNodeTable)
    (hpc : (s.calls c).pc ≠ .idle) : Asked P (s.loopSection c) := by
  unfold FindState.loopSection
  split
  · exact asked_attach h hpc _
  · split
    · exact h.goesOn (t := s.toNodeTable) hpc h.nodes
    · refine asked_attach (asked_promoteNew h ht hpc _) ?_ _
      rw [FindState.promoteNew, after_self]
      exact hpc

theorem asked_dropNew (h : Asked P s) (hpc : (s.calls c).pc ≠ .idle) : Asked P (s.dropNew c) := by
  unfold FindState.dropNew
  dsimp only
  split
  · split
    · exact h
    · exact h.after (fun _ => h.calls c hpc) h.nodes
  · exact h

theorem asked_detach (h : Asked P s) (b : ℕ) : Asked P (s.detach b) := by
  have hset : Asked P (s.setTable (s.setBlock b { s.mem b with
      nodeAttachingVnode := false, nodeThreadWaitingAttach := false })) :=
    ⟨h.calls, named_setBlock h.nodes rfl⟩
  unfold FindState.detach
  dsimp only
  split
  · refine ⟨fun c hpc => ?_, hset.nodes⟩
    show P ((s.calls c).woken b).args
    have hwoken : ((s.calls c).woken b).pc ≠ .idle := hpc
    rw [FindCall.woken] at hwoken ⊢
    split
    · next hasleep =>
      apply h.calls c
      rw [hasleep]
      simp
    · next hno =>
      rw [if_neg hno] at hwoken
      exact h.calls c hwoken
  · exact hset

/-- A step keeps the property when a new call asks for a node that has it. -/
theorem asked_step {op : FindOp} (h : Asked P s) (hinv : FindInv s)
    (hstep : findStep s op = some s') (hnew : ∀ c args, op = .call c args → P args) :
    Asked P s' := by
  have hmade : ∀ {c pc}, (s.calls c).pc = pc → pc ≠ .idle → (s.calls c).pc ≠ .idle :=
    fun heq hne => heq ▸ hne
  cases findStep_inv hstep with
  | @call c args hpc => exact h.after (t := s.toNodeTable) (fun _ => hnew c args rfl) h.nodes
  | round hpc => exact asked_loopSection h hinv.table (hmade hpc nofun)
  | @again c hpc =>
    refine asked_loopSection (asked_dropNew h (hmade hpc nofun))
      (evolves_dropNew hinv c).inv.table ?_
    rw [(dropNew_call s c).1]
    exact hmade hpc nofun
  | @done c b v hpc =>
    rw [createDone_eq hinv hpc]
    refine (asked_detach h b).after (fun _ => h.calls c (hmade hpc nofun)) ?_
    exact named_setBlock h.nodes rfl
  | allocated hpc => exact h.after (fun _ => h.calls _ (hmade hpc nofun)) h.nodes
  | noMemory hpc => exact h.goesOn (t := s.toNodeTable) (hmade hpc nofun) h.nodes
  | changed hpc => exact h.goesOn (t := s.toNodeTable) (hmade hpc nofun) h.nodes
  | got hpc => exact h.goesOn (hmade hpc nofun) h.nodes
  | made hpc => exact h.goesOn (hmade hpc nofun) h.nodes
  | @failed c b error hpc =>
    rw [createFailed_eq hinv hpc]
    refine (asked_detach h b).after (fun _ => h.calls c (hmade hpc nofun)) ?_
    have htable : TableOk (s.setBlock b ⟨(s.mem b).toSfsnode, none, false, false⟩) :=
      tableOk_setBlock hinv.table rfl
    exact named_freeNode htable (named_setBlock h.nodes rfl) b
  | @left c error target vnode hpc =>
    unfold FindState.leave
    dsimp only
    split
    · have hdrop := asked_dropNew h (hmade hpc nofun)
      refine hdrop.goesOn (t := (s.dropNew c).toNodeTable) ?_ hdrop.nodes
      rw [(dropNew_call s c).1]
      exact hmade hpc nofun
    · exact h.goesOn (t := s.toNodeTable) (hmade hpc nofun) h.nodes
  | put hpc => exact h.goesOn (hmade hpc nofun) h.nodes
  | terminated => exact ⟨h.calls, h.nodes⟩
  | reclaimed => exact ⟨h.calls, named_freeNode hinv.table h.nodes _⟩

end Asked

section Names
variable {s s' s'' : FindState} {c : ℕ}

/-- The nodes in the hash stay what they are, also when they leave it. -/
def NamesKept (s s' : FindState) : Prop :=
  ∀ b ∈ s.nodes, (s'.mem b).toSfsnode = (s.mem b).toSfsnode

theorem update_names {mem : ℕ → NodeBlock} {b : ℕ} (block : NodeBlock)
    (hsame : block.toSfsnode = (mem b).toSfsnode) (b' : ℕ) :
    (Function.update mem b block b').toSfsnode = (mem b').toSfsnode := by
  by_cases heq : b' = b
  · rw [heq, Function.update_self]
    exact hsame
  · rw [Function.update_of_ne heq]

theorem attach_names (s : FindState) (c b b' : ℕ) :
    ((s.attach c b).mem b').toSfsnode = (s.mem b').toSfsnode := by
  unfold FindState.attach
  dsimp only
  split
  · exact update_names { s.mem b with nodeThreadWaitingAttach := true } rfl b'
  · split
    · rfl
    · exact update_names { s.mem b with nodeAttachingVnode := true } rfl b'

theorem dropNew_table (s : FindState) (c : ℕ) :
    (s.dropNew c).mem = s.mem ∧ (s.dropNew c).nodes = s.nodes := by
  unfold FindState.dropNew
  dsimp only
  split
  · split <;> exact ⟨rfl, rfl⟩
  · exact ⟨rfl, rfl⟩

theorem loopSection_names (hinv : FindInv s) (hpc : (s.calls c).pc.searching = true) :
    NamesKept s (s.loopSection c) := by
  -- only the block of a new node is written, and it was not in the hash
  intro b hb
  unfold FindState.loopSection
  split
  · exact attach_names s c _ b
  · split
    · rfl
    · next b' hnew =>
      rw [attach_names]
      have hfresh := (hinv.calls c).fresh b' hnew ((hinv.calls c).searching hpc)
      have hne : b ≠ b' := by
        rintro rfl
        exact hfresh.2.1 hb
      simp [FindState.promoteNew, FindState.setCall, FindState.setTable, NodeTable.insertNew,
        NodeTable.setBlock, hne]

theorem findStep_names {op : FindOp} (hinv : FindInv s) (hstep : findStep s op = some s') :
    NamesKept s s' := by
  cases findStep_inv hstep with
  | round hpc =>
    apply loopSection_names hinv
    rw [hpc]
    rfl
  | @again c hpc =>
    have hsearching : ((s.dropNew c).calls c).pc.searching = true := by
      rw [(dropNew_call s c).1, hpc]
      rfl
    intro b hb
    have hb' : b ∈ (s.dropNew c).nodes := by
      rwa [(dropNew_table s c).2]
    rw [loopSection_names (evolves_dropNew hinv c).inv hsearching b hb', (dropNew_table s c).1]
  | @done c b v hpc =>
    rw [createDone_eq hinv hpc]
    exact fun b' _ => update_names ⟨(s.mem b).toSfsnode, some v, false, false⟩ rfl b'
  | @failed c b error hpc =>
    rw [createFailed_eq hinv hpc]
    exact fun b' _ => update_names ⟨(s.mem b).toSfsnode, none, false, false⟩ rfl b'
  | @left c error target vnode hpc =>
    intro b _
    unfold FindState.leave
    dsimp only
    split
    · exact congrArg (fun mem => (mem b).toSfsnode) (dropNew_table s c).1
    · rfl
  | call | allocated | noMemory | changed | got | made | put | terminated | reclaimed =>
    exact fun _ _ => rfl

end Names

end SysFS
