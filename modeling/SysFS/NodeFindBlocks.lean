import SysFS.NodeFindRuns

namespace SysFS
open Buckets Transition

def FindPc.inProgress : FindPc → Bool
  | .idle | .returned .. => false
  | _ => true

def FindCall.Keeps (call : FindCall) (b : ℕ) : Prop :=
  call.newSfsnode = some b ∧ call.newSfsnodeInserted = false

/-- A call that is not in progress keeps no block, one that allocates has none, and one that
failed has no node. -/
structure CallAccount (call : FindCall) : Prop where
  settled : call.pc.inProgress = false → ∀ b, ¬call.Keeps b
  alloc : call.pc = .alloc → call.newSfsnode = none
  failed : ∀ error target vnode, call.pc = .finish error target vnode → error ≠ 0 → target = none

structure Accounted (s : FindState) : Prop where
  once : s.freed.Nodup
  blocks : ∀ b < s.blocks, b ∈ s.nodes ∨ b ∈ s.freed ∨ (s.calls (s.owner b)).Keeps b
  calls : ∀ c, CallAccount (s.calls c)

theorem accounted_init (mask : UInt64) : Accounted (.init mask) := by
  refine ⟨List.nodup_nil, nofun, fun c => ⟨fun _ b hkeeps => ?_, nofun, nofun⟩⟩
  cases hkeeps.1

section Steps

variable {s s' : FindState} {c : ℕ}

theorem Accounted.after (h : Accounted s) {t : NodeTable} {call : FindCall}
    (hnodup : t.freed.Nodup) (hfreed : ∀ b ∈ s.freed, b ∈ t.freed)
    (hnodes : ∀ b ∈ s.nodes, b ∈ t.nodes ∨ b ∈ t.freed) (hblocks : t.blocks = s.blocks)
    (howner : t.owner = s.owner)
    (hkeeps : ∀ b, (s.calls c).Keeps b → b ∈ t.nodes ∨ b ∈ t.freed ∨ call.Keeps b)
    (hcall : CallAccount call) : Accounted (after s c t call) := by
  refine ⟨hnodup, fun b hb => ?_, ?_⟩
  · show b ∈ t.nodes ∨ b ∈ t.freed ∨ (Function.update s.calls c call (t.owner b)).Keeps b
    rw [howner]
    rcases h.blocks b (hblocks ▸ hb) with hnode | hfree | hkeep
    · exact (hnodes b hnode).imp_right Or.inl
    · exact .inr (.inl (hfreed b hfree))
    · by_cases heq : s.owner b = c
      · rw [heq] at hkeep ⊢
        rw [Function.update_self]
        exact hkeeps b hkeep
      · rw [Function.update_of_ne heq]
        exact .inr (.inr hkeep)
  · exact (Function.forall_update_iff _ _).mpr ⟨hcall, fun c' _ => h.calls c'⟩

theorem Accounted.moves (h : Accounted s) {t : NodeTable} {pc : FindPc}
    (hnodes : t.nodes = s.nodes) (hfreed : t.freed = s.freed) (hblocks : t.blocks = s.blocks)
    (howner : t.owner = s.owner) (hcall : CallAccount { s.calls c with pc := pc }) :
    Accounted (SysFS.after s c t { s.calls c with pc := pc }) := by
  refine h.after (hfreed ▸ h.once) (fun b hb => hfreed ▸ hb) (fun b hb => .inl (hnodes ▸ hb))
    hblocks howner (fun b hb => .inr (.inr hb)) hcall

theorem CallAccount.of_pc {call : FindCall} (hprogress : call.pc.inProgress = true)
    (halloc : call.pc ≠ .alloc)
    (hfinish : ∀ error target vnode, call.pc ≠ .finish error target vnode) : CallAccount call := by
  refine ⟨fun hno => ?_, fun hpc => absurd hpc halloc,
    fun error target vnode hpc => absurd hpc (hfinish error target vnode)⟩
  rw [hprogress] at hno
  cases hno

theorem CallAccount.finish {call : FindCall} {error : Int32} {target vnode : Option ℕ}
    (hpc : call.pc = .finish error target vnode) (hfailed : error ≠ 0 → target = none) :
    CallAccount call := by
  refine ⟨fun hno => ?_, fun halloc => ?_, fun error' target' vnode' hpc' herror => ?_⟩
  · rw [hpc] at hno
    cases hno
  · cases hpc.symm.trans halloc
  · cases hpc.symm.trans hpc'
    exact hfailed herror

theorem accounted_attach (h : Accounted s) (c b : ℕ) : Accounted (s.attach c b) := by
  unfold FindState.attach
  dsimp only
  split
  · exact h.moves rfl rfl rfl rfl (.of_pc rfl nofun nofun)
  · split
    · exact h.moves (t := s.toNodeTable) rfl rfl rfl rfl (.of_pc rfl nofun nofun)
    · exact h.moves rfl rfl rfl rfl (.of_pc rfl nofun nofun)

theorem accounted_promoteNew (h : Accounted s) (ht : TableOk s.toNodeTable)
    (hpc : (s.calls c).pc = .top ∨ (s.calls c).pc = .retry) {b : ℕ}
    (hnew : (s.calls c).newSfsnode = some b) : Accounted (s.promoteNew c b) := by
  have hcall : CallAccount { s.calls c with newSfsnodeInserted := true } := by
    rcases hpc with hpc | hpc
    · exact .of_pc (by rw [hpc]; rfl) (by rw [hpc]; nofun) (by rw [hpc]; nofun)
    · exact .of_pc (by rw [hpc]; rfl) (by rw [hpc]; nofun) (by rw [hpc]; nofun)
  refine h.after h.once (fun _ => id) (fun b' hb' => .inl ?_) rfl rfl
    (fun b' hkeeps => .inl ?_) hcall
  · exact (mem_nodes_insertNew ht ..).mpr (.inr hb')
  · cases hnew.symm.trans hkeeps.1
    exact (mem_nodes_insertNew ht ..).mpr (.inl rfl)

theorem accounted_loopSection (h : Accounted s) (ht : TableOk s.toNodeTable)
    (hpc : (s.calls c).pc = .top ∨ (s.calls c).pc = .retry) : Accounted (s.loopSection c) := by
  unfold FindState.loopSection
  split
  · exact accounted_attach h ..
  · split
    · next hnone =>
      exact h.moves (t := s.toNodeTable) rfl rfl rfl rfl ⟨nofun, fun _ => hnone, nofun⟩
    · next hnew => exact accounted_attach (accounted_promoteNew h ht hpc hnew) ..

theorem accounted_dropNew (h : Accounted s) (hinv : FindInv s) (c : ℕ) :
    Accounted (s.dropNew c) ∧ ∀ b, ¬((s.dropNew c).calls c).Keeps b := by
  unfold FindState.dropNew
  dsimp only
  split
  · next b hnew =>
    split
    · next hins => exact ⟨h, fun b' hkeeps => absurd (hins.symm.trans hkeeps.2) nofun⟩
    · next hins =>
      rw [Bool.not_eq_true] at hins
      have ⟨_, _, _, hfreed⟩ := (hinv.calls c).fresh b hnew hins
      refine ⟨h.after (List.nodup_cons.mpr ⟨hfreed, h.once⟩) (fun _ => List.mem_cons_of_mem _)
        (fun _ => .inl) rfl rfl (fun b' hkeeps => .inr (.inl ?_))
        ⟨fun _ b' hkeeps => ?_, fun _ => rfl, (h.calls c).failed⟩, fun b' hkeeps => ?_⟩
      · cases hnew.symm.trans hkeeps.1
        exact List.mem_cons_self
      · cases hkeeps.1
      · rw [after_self] at hkeeps
        cases hkeeps.1
  · next hnew => exact ⟨h, fun b' hkeeps => absurd (hnew.symm.trans hkeeps.1) nofun⟩

theorem accounted_detach (h : Accounted s) (b : ℕ) : Accounted (s.detach b) := by
  have hset : Accounted (s.setTable (s.setBlock b { s.mem b with
      nodeAttachingVnode := false, nodeThreadWaitingAttach := false })) :=
    ⟨h.once, h.blocks, h.calls⟩
  have hwake : ∀ {s : FindState}, Accounted s → Accounted (s.wakeup b) := by
    intro s h
    have hkeeps : ∀ c b', (s.calls c).Keeps b' → ((s.calls c).woken b).Keeps b' := by
      intro c b' hkeep
      rw [FindCall.woken]
      split <;> exact hkeep
    refine ⟨h.once, fun b' hb' => ?_, fun c => ?_⟩
    · exact (h.blocks b' hb').imp_right (Or.imp_right (hkeeps _ b'))
    · show CallAccount ((s.calls c).woken b)
      rw [FindCall.woken]
      split
      · exact .of_pc rfl (by simp) (by simp)
      · exact h.calls c
  unfold FindState.detach
  dsimp only
  split
  · exact hwake hset
  · exact hset

theorem accounted_malloc (h : Accounted s) (hinv : FindInv s) (hpc : (s.calls c).pc = .alloc) :
    Accounted (after s c (s.osMalloc c)
      { s.calls c with newSfsnode := some s.blocks, pc := .top }) := by
  have hnone := (h.calls c).alloc hpc
  have hins := (hinv.calls c).searching (by rw [hpc]; rfl)
  refine ⟨h.once, fun b hb => ?_, ?_⟩
  · show b ∈ s.nodes ∨ b ∈ s.freed ∨ (Function.update s.calls c _
      (Function.update s.owner s.blocks c b)).Keeps b
    by_cases hnew : b = s.blocks
    · rw [hnew, Function.update_self, Function.update_self]
      exact .inr (.inr ⟨rfl, hins⟩)
    · have hlt : b < s.blocks := by
        have : b < s.blocks + 1 := hb
        omega
      rw [Function.update_of_ne hnew]
      refine (h.blocks b hlt).imp_right (Or.imp_right fun hkeeps => ?_)
      rw [Function.update_of_ne]
      · exact hkeeps
      · intro heq
        rw [heq] at hkeeps
        cases hnone.symm.trans hkeeps.1
  · refine (Function.forall_update_iff _ _).mpr ⟨.of_pc rfl nofun nofun, fun c' _ => h.calls c'⟩

theorem accounted_createDone (h : Accounted s) (hinv : FindInv s) {b v : ℕ}
    (hpc : (s.calls c).pc = .creating b (some v)) : Accounted (s.createDone c b v) := by
  have hcall : (s.detach b).calls c = s.calls c := by
    rw [detach_calls hinv, woken_creating hpc]
  rw [createDone_eq hinv hpc, ← hcall]
  have hd := accounted_detach h b
  exact hd.moves (by rw [detach_table]; rfl) (by rw [detach_table]; rfl) (by rw [detach_table]; rfl)
    (by rw [detach_table]; rfl) (.finish rfl fun hne => absurd rfl hne)

theorem accounted_createFailed (h : Accounted s) (hinv : FindInv s) {b : ℕ}
    (hpc : (s.calls c).pc = .creating b none) (error : Int32) :
    Accounted (s.createFailed c b error) := by
  have ⟨hb, _, _, _, hins, _⟩ := (hinv.calls c).creating b none hpc
  have hnotfreed : b ∉ s.freed := fun hmem => (hinv.blocks.freed b hmem).2 hb
  have htable : TableOk (s.setBlock b ⟨(s.mem b).toSfsnode, none, false, false⟩) :=
    tableOk_setBlock hinv.table rfl
  rw [createFailed_eq hinv hpc]
  refine (accounted_detach h b).after (List.nodup_cons.mpr ⟨hnotfreed, h.once⟩) ?_ ?_ ?_ ?_ ?_
    (.finish rfl fun _ => rfl)
  · intro b' hb'
    rw [detach_table] at hb'
    exact List.mem_cons_of_mem _ hb'
  · intro b' hb'
    rw [detach_table] at hb'
    by_cases heq : b' = b
    · exact .inr (heq ▸ List.mem_cons_self)
    · exact .inl ((mem_nodes_freeNode htable b b').mpr ⟨heq, hb'⟩)
  · rw [detach_table]
    rfl
  · rw [detach_table]
    rfl
  · intro b' hkeeps
    rw [detach_calls hinv, woken_creating hpc] at hkeeps
    cases hins.symm.trans hkeeps.2

theorem accounted_leave (h : Accounted s) (hinv : FindInv s) {error : Int32}
    {target vnode : Option ℕ} (hpc : (s.calls c).pc = .finish error target vnode) :
    Accounted (s.leave c error target vnode) := by
  have hret : ∀ {s' : FindState} {pc : FindPc}, Accounted s' → pc.inProgress = false →
      (∀ b, ¬(s'.calls c).Keeps b) → Accounted (s'.setPc c pc) := by
    intro s' pc h' hprogress hkeeps
    refine h'.moves (t := s'.toNodeTable) rfl rfl rfl rfl ⟨fun _ => hkeeps, ?_, ?_⟩
    · intro (heq : pc = _)
      rw [heq] at hprogress
      cases hprogress
    · intro error' target' vnode' (heq : pc = _)
      rw [heq] at hprogress
      cases hprogress
  unfold FindState.leave
  dsimp only
  split
  · have ⟨hdrop, hnone⟩ := accounted_dropNew h hinv c
    exact hret hdrop rfl hnone
  · next heq =>
    -- a node that is returned is in the table, a block that is kept is not
    refine hret h rfl fun b hkeeps => ?_
    have htarget : target = some b := (not_not.mp heq).symm.trans hkeeps.1
    by_cases herror : error = 0
    · rw [herror] at hpc
      have ⟨b', v, hb', _, hheld⟩ := (hinv.calls c).finish target vnode hpc
      cases htarget.symm.trans hb'
      exact ((hinv.calls c).fresh b hkeeps.1 hkeeps.2).2.1 hheld.node
    · cases ((h.calls c).failed error target vnode hpc herror).symm.trans htarget

theorem accounted_reclaim (h : Accounted s) (hinv : FindInv s) {v : ℕ} (hv : v < s.vnodeCount)
    (hphase : (s.vnodes v).phase = .terminating) :
    Accounted (s.setTable ((s.sysfsnodeFreeNode (s.vnodes v).fsnode).setVnode v
      { s.vnodes v with phase := .reclaimed })) := by
  have ⟨hb, _⟩ := hinv.vnodes v hv (by rw [hphase]; nofun)
  have hnotfreed : (s.vnodes v).fsnode ∉ s.freed := fun hmem => (hinv.blocks.freed _ hmem).2 hb
  rw [setTable_eq_after s 0]
  refine h.after (List.nodup_cons.mpr ⟨hnotfreed, h.once⟩) (fun _ => List.mem_cons_of_mem _) ?_ rfl
    rfl (fun b hkeeps => .inr (.inr hkeeps)) (h.calls 0)
  intro b hb
  by_cases heq : b = (s.vnodes v).fsnode
  · exact .inr (heq ▸ List.mem_cons_self)
  · exact .inl ((mem_nodes_freeNode hinv.table _ b).mpr ⟨heq, hb⟩)

theorem accounted_step (h : Accounted s) (hinv : FindInv s) {op : FindOp}
    (hs : FindStepped s op s') : Accounted s' := by
  cases hs with
  | @call c args hpc =>
    refine h.after (t := s.toNodeTable) h.once (fun _ => id) (fun _ => .inl) rfl rfl
      (fun b hkeeps => ?_) (.of_pc rfl nofun nofun)
    exact absurd hkeeps ((h.calls c).settled (by rw [hpc]; rfl) b)
  | round hpc => exact accounted_loopSection h hinv.table (.inl hpc)
  | @again c hpc =>
    refine accounted_loopSection (accounted_dropNew h hinv c).1
      (evolves_dropNew hinv c).inv.table ?_
    rw [(dropNew_call s c).1]
    exact .inr hpc
  | done hpc => exact accounted_createDone h hinv hpc
  | allocated hpc => exact accounted_malloc h hinv hpc
  | noMemory hpc =>
    exact h.moves (t := s.toNodeTable) rfl rfl rfl rfl (.finish rfl fun _ => rfl)
  | changed hpc => exact h.moves (t := s.toNodeTable) rfl rfl rfl rfl (.of_pc rfl nofun nofun)
  | got hpc => exact h.moves rfl rfl rfl rfl (.finish rfl fun hne => absurd rfl hne)
  | made hpc => exact h.moves rfl rfl rfl rfl (.of_pc rfl nofun nofun)
  | failed hpc => exact accounted_createFailed h hinv hpc _
  | left hpc => exact accounted_leave h hinv hpc
  | @put c v snp hpc =>
    refine h.moves rfl rfl rfl rfl ⟨fun _ => ?_, nofun, nofun⟩
    exact (h.calls c).settled (by rw [hpc]; rfl)
  | terminated => exact ⟨h.once, h.blocks, h.calls⟩
  | reclaimed hv hphase => exact accounted_reclaim h hinv hv hphase

end Steps

def NodeTable.walk (t : NodeTable) (key : NodeKey) : List ℕ :=
  bucket t.buckets (bucketOf t.hashMask key)

/-- What a round of the loop may read and write: the bucket, and the call's own block. -/
def FindState.roundTouches (s : FindState) (c : ℕ) : List (ℕ × List ℕ) :=
  (s.walk (s.calls c).args.key ++ (s.calls c).newSfsnode.toList).map (·, s.freed)

/-- What the work on a node of the table may read and write: the node, and its bucket when it
is unlinked. -/
def FindState.nodeTouches (s : FindState) (b : ℕ) : List (ℕ × List ℕ) :=
  (b :: s.walk (s.mem b).key).map (·, s.freed)

/-- The blocks that a step may read and write, each with the blocks that are freed by then. -/
def FindState.touches (s : FindState) : FindOp → List (ℕ × List ℕ)
  | .lock c =>
    match (s.calls c).pc with
    | .top => s.roundTouches c
    | .retry => (s.dropNew c).roundTouches c
    | .creating b _ => s.nodeTouches b
    | _ => []
  | .vnodeCreate c | .createFails c _ =>
    match (s.calls c).pc with
    | .creating b _ => s.nodeTouches b
    | _ => []
  | .reclaim v => s.nodeTouches (s.vnodes v).fsnode
  | _ => []

section Touches

variable {s s' : FindState}

theorem FindInv.notFreed (h : FindInv s) {b : ℕ} (hb : b ∈ s.nodes) : b ∉ s.freed :=
  fun hfreed => (h.blocks.freed b hfreed).2 hb

theorem mem_nodes_of_walk {t : NodeTable} {key : NodeKey} {b : ℕ} (h : b ∈ t.walk key) :
    b ∈ t.nodes := mem_entries_iff.mpr ⟨_, h⟩

theorem roundTouches_live (h : FindInv s) {c : ℕ} (hpc : (s.calls c).pc.searching = true) :
    ∀ x ∈ s.roundTouches c, x.1 ∉ x.2 := by
  intro x hx
  have ⟨b, hb, heq⟩ := List.mem_map.mp hx
  rw [← heq]
  rcases List.mem_append.mp hb with hwalk | hnew
  · exact h.notFreed (mem_nodes_of_walk hwalk)
  · have hins := (h.calls c).searching hpc
    exact ((h.calls c).fresh b (Option.mem_toList.mp hnew) hins).2.2.2

theorem nodeTouches_live (h : FindInv s) {b : ℕ} (hb : b ∈ s.nodes) :
    ∀ x ∈ s.nodeTouches b, x.1 ∉ x.2 := by
  intro x hx
  have ⟨b', hb', heq⟩ := List.mem_map.mp hx
  rw [← heq]
  rcases List.mem_cons.mp hb' with hself | hwalk
  · exact hself ▸ h.notFreed hb
  · exact h.notFreed (mem_nodes_of_walk hwalk)

theorem touches_live (h : FindInv s) {op : FindOp} (hs : FindStepped s op s') :
    ∀ x ∈ s.touches op, x.1 ∉ x.2 := by
  cases hs with
  | round hpc =>
    simp only [FindState.touches, hpc]
    exact roundTouches_live h (by rw [hpc]; rfl)
  | @again c hpc =>
    simp only [FindState.touches, hpc]
    refine roundTouches_live (evolves_dropNew h c).inv ?_
    rw [(dropNew_call s c).1, hpc]
    rfl
  | @done c b v hpc =>
    simp only [FindState.touches, hpc]
    exact nodeTouches_live h ((h.calls c).creating b _ hpc).1
  | @made c b hpc | @failed c b _ hpc =>
    simp only [FindState.touches, hpc]
    exact nodeTouches_live h ((h.calls c).creating b _ hpc).1
  | reclaimed hv hphase =>
    exact nodeTouches_live h (h.vnodes _ hv (by rw [hphase]; nofun)).1
  | call | allocated | noMemory | changed | got | left | put | terminated => nofun

end Touches

/-- The call has not returned and keeps the block as its `new_sfsnode`. -/
def FindState.HeldBy (s : FindState) (c b : ℕ) : Prop :=
  (s.calls c).pc.inProgress = true ∧ (s.calls c).Keeps b

/-- The block is linked in the hash, held by one call, or freed once, and only one of these. -/
def InOnePlace (s : FindState) (b : ℕ) : Prop :=
  (s.nodes.count b = 1 ∧ (∀ c, ¬s.HeldBy c b) ∧ s.freed.count b = 0) ∨
    (s.nodes.count b = 0 ∧ (∃! c, s.HeldBy c b) ∧ s.freed.count b = 0) ∨
    (s.nodes.count b = 0 ∧ (∀ c, ¬s.HeldBy c b) ∧ s.freed.count b = 1)

section Runs

variable {s s' : FindState}

theorem accounted_run {ops : List FindOp} (h : Accounted s) (hinv : FindInv s)
    (hrun : run findStep s ops = some s') : Accounted s' := by
  induction ops generalizing s with
  | nil => exact Option.some.inj hrun ▸ h
  | cons op ops ih =>
    have ⟨s₁, hstep, hrest⟩ := Option.bind_eq_some_iff.mp hrun
    exact ih (accounted_step h hinv (findStep_inv hstep)) (findStep_evolves hinv hstep).1 hrest

theorem Accounted.inOnePlace (h : Accounted s) (hinv : FindInv s) {b : ℕ} (hb : b < s.blocks) :
    InOnePlace s b := by
  have hfresh : ∀ {c}, s.HeldBy c b → b ∉ s.nodes ∧ s.owner b = c ∧ b ∉ s.freed :=
    fun {c} hheld => ((hinv.calls c).fresh b hheld.2.1 hheld.2.2).2
  rcases h.blocks b hb with hnode | hfreed | hkeeps
  · refine .inl ⟨?_, fun c hheld => (hfresh hheld).1 hnode, ?_⟩
    · exact List.count_eq_one_of_mem hinv.table.nodup hnode
    · exact List.count_eq_zero_of_not_mem (hinv.notFreed hnode)
  · refine .inr (.inr ⟨?_, fun c hheld => (hfresh hheld).2.2 hfreed, ?_⟩)
    · exact List.count_eq_zero_of_not_mem (hinv.blocks.freed b hfreed).2
    · exact List.count_eq_one_of_mem h.once hfreed
  · have hprogress : (s.calls (s.owner b)).pc.inProgress = true := by
      by_contra hno
      exact (h.calls _).settled (Bool.not_eq_true _ ▸ hno) b hkeeps
    have hheld : s.HeldBy (s.owner b) b := ⟨hprogress, hkeeps⟩
    have ⟨hnode, _, hfreed⟩ := hfresh hheld
    refine .inr (.inl ⟨List.count_eq_zero_of_not_mem hnode, ⟨_, hheld, fun c hc => ?_⟩,
      List.count_eq_zero_of_not_mem hfreed⟩)
    exact (hfresh hc).2.1.symm

/-- In every run of finds and reclaims every block is in one place and freed once at most, no
step touches a block that was freed, and when no find is in progress the blocks that were not
freed are in the hash. -/
theorem blocks_in_one_place (mask : UInt64) {ops : List FindOp}
    (hrun : run findStep (.init mask) ops = some s) :
    (∀ b < s.blocks, InOnePlace s b) ∧
      (∀ op s', findStep s op = some s' → ∀ x ∈ s.touches op, x.1 ∉ x.2) ∧
      ((∀ c, (s.calls c).pc.inProgress = false) → ∀ b < s.blocks, b ∉ s.freed → b ∈ s.nodes) := by
  have hinv := findInv_run (findInv_init mask) hrun
  have haccount := accounted_run (accounted_init mask) (findInv_init mask) hrun
  refine ⟨fun b hb => haccount.inOnePlace hinv hb, ?_, ?_⟩
  · intro op s' hstep
    exact touches_live hinv (findStep_inv hstep)
  · intro hidle b hb hnot
    rcases haccount.blocks b hb with hnode | hfreed | hkeeps
    · exact hnode
    · exact absurd hfreed hnot
    · exact absurd hkeeps ((haccount.calls _).settled (hidle _) b)

def secondSleeps : List FindOp :=
  [.call 0 noNode, .call 1 noNode, .lock 0, .lock 1, .malloc 0 true, .malloc 1 true, .lock 0,
    .lock 1]

/-- The first block is in the hash, the second one is held by the call that sleeps. -/
theorem racing_blocks_in_one_place :
    ∃ s, run findStep (.init 3) secondSleeps = some s ∧ s.blocks = 2 ∧ s.nodes = [0] ∧
      ∀ b < 2, InOnePlace s b := by
  have hrun : (run findStep (.init 3) secondSleeps).any (fun s => s.blocks = 2 ∧ s.nodes = [0]) =
      true := by decide +kernel
  have ⟨s, hs, hfinal⟩ := (Option.any_eq_true _ _).mp hrun
  have ⟨hblocks, hnodes⟩ := of_decide_eq_true hfinal
  exact ⟨s, hs, hblocks, hnodes, hblocks ▸ (blocks_in_one_place 3 hs).1⟩

/-- In every run of finds and reclaims a call that sleeps does so on a node in the hash that
another call is attaching a vnode to, and that call will wake it. -/
theorem sleeper_has_attacher (mask : UInt64) {ops : List FindOp}
    (hrun : run findStep (.init mask) ops = some s) {c b : ℕ} (hpc : (s.calls c).pc = .asleep b) :
    b ∈ s.nodes ∧ b ∉ s.freed ∧ (s.mem b).nodeAttachingVnode = true ∧
      (s.mem b).nodeThreadWaitingAttach = true ∧
      ∃ c' vnode, c' ≠ c ∧ (s.calls c').pc = .creating b vnode := by
  have hinv := findInv_run (findInv_init mask) hrun
  have ⟨hnode, hattach, hwait⟩ := (hinv.calls c).asleep b hpc
  refine ⟨hnode, hinv.notFreed hnode, hattach, hwait, s.owner b, ?_⟩
  have hnone : (s.mem b).nodeVnode = none := by
    cases hv : (s.mem b).nodeVnode with
    | none => rfl
    | some v => cases hattach.symm.trans (hinv.blocks.attached b hnode v hv).1
  have ⟨_, vnode, hcreating⟩ := hinv.blocks.attaching b hnode hnone
  refine ⟨vnode, fun heq => ?_, hcreating⟩
  rw [heq, hpc] at hcreating
  cases hcreating

/-- The second of two calls for one node sleeps while the first is in its callback. -/
theorem second_call_sleeps :
    ∃ s, run findStep (.init 3) secondSleeps = some s ∧ (s.calls 1).pc = .asleep 0 ∧
      ∃ c' vnode, c' ≠ 1 ∧ (s.calls c').pc = .creating 0 vnode := by
  have hrun : (run findStep (.init 3) secondSleeps).any (fun s => (s.calls 1).pc = .asleep 0) =
      true := by decide +kernel
  have ⟨s, hs, hfinal⟩ := (Option.any_eq_true _ _).mp hrun
  have hpc : (s.calls 1).pc = .asleep 0 := of_decide_eq_true hfinal
  exact ⟨s, hs, hpc, (sleeper_has_attacher 3 hs hpc).2.2.2.2⟩

end Runs

end SysFS
