import SysFS.NodeFindBlocks

namespace SysFS
open Buckets Transition Finset

def FindOp.begins : FindOp → Bool
  | .call .. | .terminate _ => true
  | _ => false

def FindOp.newCall : FindOp → Option ℕ
  | .call c _ => some c
  | _ => none

def callersOf (ops : List FindOp) : Finset ℕ := (ops.filterMap FindOp.newCall).toFinset

/-- `vnode_getwithvid` refuses a vnode that is not reclaimed, and the call will find the same
node again. -/
def FindState.spins (s : FindState) : FindOp → Bool
  | .getwithvid c false =>
    match (s.calls c).pc with
    | .getvid _ v => (s.vnodes v).phase ≠ .reclaimed
    | _ => false
  | _ => false

/-- A refusal costs the rest of a round and the search in the next one. -/
def FindState.spinCost (s : FindState) (op : FindOp) : ℕ := if s.spins op then 5 else 0

def FindPc.working : FindPc → Bool
  | .top | .alloc | .asleep _ | .getvid _ _ | .retry | .creating _ _ => true
  | _ => false

/-- How far the call is from the end of its round. A round that starts without a block ends
with an allocation, and the next one does not. -/
def FindCall.weight (vnodes : ℕ → Vnode) (call : FindCall) : ℕ :=
  match call.pc with
  | .getvid _ v => if (vnodes v).phase = .reclaimed then 10 else 5
  | .retry => 9
  | .top => if call.newSfsnode = none then 8 else 6
  | .alloc => 7
  | .asleep _ => 5
  | .creating _ vnode => if vnode = none then 4 else 3
  | .finish .. => 2
  | .returned _ _ _ iocount => if iocount then 1 else 0
  | .idle => 0

theorem FindCall.weight_le (vnodes : ℕ → Vnode) (call : FindCall) : call.weight vnodes ≤ 10 := by
  fun_cases FindCall.weight vnodes call <;> omega

namespace FindState
variable (s : FindState) (callers : Finset ℕ)

def terminating : ℕ := #{v ∈ range s.vnodeCount | (s.vnodes v).phase = .terminating}

/-- A node is attached once at most for each call, and a node goes away once for each vnode. -/
def stage : ℕ := #{c ∈ callers | (s.calls c).pc.working} + s.terminating

def load : ℕ := ∑ c ∈ callers, (s.calls c).weight s.vnodes

def rank : ℕ := s.stage callers * (10 * callers.card + 1) + s.load callers

theorem load_le : s.load callers ≤ 10 * callers.card := by
  have hle := sum_le_card_nsmul callers (fun c => (s.calls c).weight s.vnodes) 10
    fun c _ => FindCall.weight_le s.vnodes (s.calls c)
  rw [smul_eq_mul, mul_comm] at hle
  exact hle

theorem rank_le :
    s.rank callers ≤ (callers.card + s.terminating + 1) * (10 * callers.card + 1) := by
  have hload := s.load_le callers
  have hstage : s.stage callers ≤ callers.card + s.terminating :=
    Nat.add_le_add_right (card_filter_le _ _) _
  have hmul := Nat.mul_le_mul_right (10 * callers.card + 1) hstage
  rw [rank, add_one_mul]
  omega

end FindState

section Steps
variable {s s' s'' : FindState} {callers : Finset ℕ} {c : ℕ}

theorem rank_lt_of_stage (h : s'.stage callers < s.stage callers) :
    s'.rank callers < s.rank callers := by
  have hload := s'.load_le callers
  have hmul := Nat.mul_le_mul_right (10 * callers.card + 1) (Nat.succ_le_of_lt h)
  rw [Nat.succ_mul] at hmul
  rw [FindState.rank, FindState.rank]
  omega

theorem rank_le_of_load {n : ℕ} (hstage : s'.stage callers ≤ s.stage callers)
    (hload : s'.load callers + 1 ≤ s.load callers + n) :
    s'.rank callers + 1 ≤ s.rank callers + n := by
  have hmul := Nat.mul_le_mul_right (10 * callers.card + 1) hstage
  rw [FindState.rank, FindState.rank]
  omega

def NoTerminate (s s' : FindState) : Prop :=
  ∀ v < s'.vnodeCount, (s'.vnodes v).phase = .terminating →
    v < s.vnodeCount ∧ (s.vnodes v).phase = .terminating

theorem NoTerminate.terminating_le (h : NoTerminate s s') : s'.terminating ≤ s.terminating := by
  apply card_le_card
  intro v hv
  rw [mem_filter, mem_range] at hv ⊢
  exact h v hv.1 hv.2

def NoRestart (s s' : FindState) : Prop :=
  ∀ c, (s'.calls c).pc.working → (s.calls c).pc.working

theorem stage_le (hterm : NoTerminate s s') (hwork : NoRestart s s') :
    s'.stage callers ≤ s.stage callers := by
  apply Nat.add_le_add _ hterm.terminating_le
  exact card_le_card (monotone_filter_right callers fun c _ => hwork c)

theorem stage_lt_of_done (hterm : NoTerminate s s') (hwork : NoRestart s s') (hc : c ∈ callers)
    (hbusy : (s.calls c).pc.working) (hdone : (s'.calls c).pc.working = false) :
    s'.stage callers < s.stage callers := by
  apply Nat.add_lt_add_of_lt_of_le _ hterm.terminating_le
  apply card_lt_card
  rw [ssubset_iff_of_subset (monotone_filter_right callers fun c _ => hwork c)]
  refine ⟨c, mem_filter.mpr ⟨hc, hbusy⟩, fun hmem => ?_⟩
  rw [mem_filter, hdone] at hmem
  cases hmem.2

structure CallMoves (s s' : FindState) (c : ℕ) : Prop where
  calls : ∀ c' ≠ c, s'.calls c' = s.calls c'
  count : s.vnodeCount ≤ s'.vnodeCount
  phases : ∀ v < s.vnodeCount, (s'.vnodes v).phase = (s.vnodes v).phase
  fresh : ∀ v, s.vnodeCount ≤ v → v < s'.vnodeCount → (s'.vnodes v).phase = .live

theorem CallMoves.trans (h : CallMoves s s' c) (h' : CallMoves s' s'' c) : CallMoves s s'' c where
  calls c' hc := (h'.calls c' hc).trans (h.calls c' hc)
  count := h.count.trans h'.count
  phases v hv := (h'.phases v (hv.trans_le h.count)).trans (h.phases v hv)
  fresh v hle hlt := by
    by_cases hv : v < s'.vnodeCount
    · rw [h'.phases v hv]
      exact h.fresh v hle hv
    · exact h'.fresh v (not_lt.mp hv) hlt

theorem callMoves_after {t : NodeTable} {call : FindCall} (hcount : t.vnodeCount = s.vnodeCount)
    (hvnodes : t.vnodes = s.vnodes) : CallMoves s (after s c t call) c where
  calls _ hc := after_of_ne hc t call
  count := hcount.ge
  phases v _ := congrArg (fun f => (f v).phase) hvnodes
  fresh v hle hlt := absurd (hcount ▸ hlt : v < s.vnodeCount) (not_lt.mpr hle)

theorem CallMoves.noTerminate (h : CallMoves s s' c) : NoTerminate s s' := by
  intro v hv hphase
  by_cases hlt : v < s.vnodeCount
  · rw [h.phases v hlt] at hphase
    exact ⟨hlt, hphase⟩
  · rw [h.fresh v (not_lt.mp hlt) hv] at hphase
    cases hphase

theorem CallMoves.noRestart (h : CallMoves s s' c) (hbusy : (s.calls c).pc.working ∨
    (s'.calls c).pc.working = false) : NoRestart s s' := by
  intro c' hc'
  by_cases hc : c' = c
  · rw [hc] at hc' ⊢
    exact hbusy.resolve_right fun hdone => by rw [hdone] at hc'; cases hc'
  · rw [h.calls c' hc] at hc'
    exact hc'

theorem weight_congr (hinv : FindInv s) (h : CallMoves s s' c) {c' : ℕ} (hc : c' ≠ c) :
    (s'.calls c').weight s'.vnodes = (s.calls c').weight s.vnodes := by
  -- the weight of a call depends on the phase of the vnode it is asking for, which was made before
  rw [h.calls c' hc, FindCall.weight, FindCall.weight]
  cases hpc : (s.calls c').pc with
  | getvid b v =>
    dsimp only
    rw [h.phases v ((hinv.calls c').getvid b v hpc).2.1]
  | _ => rfl

theorem CallMoves.load_le (hinv : FindInv s) (h : CallMoves s s' c) (hc : c ∈ callers) {n : ℕ}
    (hweight : (s'.calls c).weight s'.vnodes + 1 ≤ (s.calls c).weight s.vnodes + n) :
    s'.load callers + 1 ≤ s.load callers + n := by
  have hrest : ∑ c' ∈ callers.erase c, (s'.calls c').weight s'.vnodes =
      ∑ c' ∈ callers.erase c, (s.calls c').weight s.vnodes :=
    sum_congr rfl fun c' hc' => weight_congr hinv h (ne_of_mem_erase hc')
  rw [FindState.load, FindState.load, ← add_sum_erase callers _ hc, ← add_sum_erase callers _ hc,
    hrest]
  omega

theorem CallMoves.rank_le (hinv : FindInv s) (h : CallMoves s s' c) (hc : c ∈ callers)
    (hbusy : (s.calls c).pc.working ∨ (s'.calls c).pc.working = false) {n : ℕ}
    (hweight : (s'.calls c).weight s'.vnodes + 1 ≤ (s.calls c).weight s.vnodes + n) :
    s'.rank callers + 1 ≤ s.rank callers + n :=
  rank_le_of_load (stage_le h.noTerminate (h.noRestart hbusy)) (h.load_le hinv hc hweight)

theorem CallMoves.rank_lt (h : CallMoves s s' c) (hc : c ∈ callers) (hbusy : (s.calls c).pc.working)
    (hdone : (s'.calls c).pc.working = false) : s'.rank callers < s.rank callers :=
  rank_lt_of_stage (stage_lt_of_done h.noTerminate (h.noRestart (Or.inl hbusy)) hc hbusy hdone)

theorem callMoves_refl (s : FindState) (c : ℕ) : CallMoves s s c :=
  ⟨fun _ _ => rfl, le_rfl, fun _ _ => rfl, fun _ hle hlt => absurd hlt (not_lt.mpr hle)⟩

theorem callMoves_setPc (s : FindState) (c : ℕ) (pc : FindPc) : CallMoves s (s.setPc c pc) c :=
  callMoves_after rfl rfl

theorem callMoves_attach (s : FindState) (c b : ℕ) : CallMoves s (s.attach c b) c := by
  unfold FindState.attach
  dsimp only
  split
  · exact callMoves_after rfl rfl
  · split
    · exact callMoves_setPc s c _
    · exact callMoves_after rfl rfl

theorem callMoves_loopSection (s : FindState) (c : ℕ) : CallMoves s (s.loopSection c) c := by
  unfold FindState.loopSection
  split
  · exact callMoves_attach s c _
  · split
    · exact callMoves_setPc s c _
    · rw [promoteNew_attach]
      exact callMoves_after rfl rfl

theorem callMoves_dropNew (s : FindState) (c : ℕ) : CallMoves s (s.dropNew c) c := by
  unfold FindState.dropNew
  dsimp only
  split
  · split
    · exact callMoves_refl s c
    · exact callMoves_after rfl rfl
  · exact callMoves_refl s c

theorem callMoves_leave (s : FindState) (c : ℕ) (error : Int32) (target vnode : Option ℕ) :
    CallMoves s (s.leave c error target vnode) c := by
  unfold FindState.leave
  dsimp only
  split
  · exact (callMoves_dropNew s c).trans (callMoves_setPc _ c _)
  · exact callMoves_setPc s c _

theorem callMoves_setVnode (s : FindState) (c v : ℕ) (iocounts : List ℕ) (pc : FindPc) :
    CallMoves s
      ((s.setTable (s.setVnode v { s.vnodes v with iocounts := iocounts })).setPc c pc) c where
  calls _ hc := after_of_ne hc _ _
  count := le_rfl
  phases v' _ := by
    show (Function.update s.vnodes v _ v').phase = _
    by_cases hv : v' = v <;> simp [hv]
  fresh _ hle hlt := absurd hlt (not_lt.mpr hle)

theorem callMoves_vnodeCreate (s : FindState) (c b : ℕ) (pc : FindPc) :
    CallMoves s ((s.setTable (s.toNodeTable.vnodeCreate c b)).setPc c pc) c where
  calls _ hc := after_of_ne hc _ _
  count := Nat.le_succ _
  phases v hv := by
    show (Function.update s.vnodes s.vnodeCount _ v).phase = _
    rw [Function.update_of_ne hv.ne]
  fresh v hle hlt := by
    have hv : v = s.vnodeCount := Nat.le_antisymm (Nat.le_of_lt_succ hlt) hle
    show (Function.update s.vnodes s.vnodeCount _ v).phase = _
    rw [hv, Function.update_self]

structure Wakes (s s' : FindState) (c b : ℕ) : Prop where
  calls : ∀ c' ≠ c, s'.calls c' = (s.calls c').woken b
  vnodes : s'.vnodes = s.vnodes
  count : s'.vnodeCount = s.vnodeCount

theorem wakes_createDone (hinv : FindInv s) {b v : ℕ}
    (hpc : (s.calls c).pc = .creating b (some v)) : Wakes s (s.createDone c b v) c b := by
  rw [createDone_eq hinv hpc]
  exact ⟨fun c' hc => detach_setCall_calls hinv hc, rfl, rfl⟩

theorem wakes_createFailed (hinv : FindInv s) {b : ℕ} {error : Int32}
    (hpc : (s.calls c).pc = .creating b none) : Wakes s (s.createFailed c b error) c b := by
  rw [createFailed_eq hinv hpc]
  exact ⟨fun c' hc => detach_setCall_calls hinv hc, rfl, rfl⟩

theorem woken_working (call : FindCall) (b : ℕ) : (call.woken b).pc.working = call.pc.working := by
  unfold FindCall.woken
  split
  · next hpc => rw [hpc, FindPc.working, FindPc.working]
  · rfl

theorem Wakes.rank_lt {b : ℕ} (h : Wakes s s' c b) (hc : c ∈ callers)
    (hbusy : (s.calls c).pc.working) (hdone : (s'.calls c).pc.working = false) :
    s'.rank callers < s.rank callers := by
  -- the calls that are woken start a round, but the call that woke them has its result
  have hterm : NoTerminate s s' := by
    intro v hv hphase
    rw [h.count] at hv
    rw [h.vnodes] at hphase
    exact ⟨hv, hphase⟩
  apply rank_lt_of_stage (stage_lt_of_done hterm _ hc hbusy hdone)
  intro c' hc'
  by_cases heq : c' = c
  · rw [heq]
    exact hbusy
  · rw [h.calls c' heq, woken_working] at hc'
    exact hc'

theorem weight_loopSection (hinv : FindInv s) (c : ℕ) :
    ((s.loopSection c).calls c).weight (s.loopSection c).vnodes ≤ 5 ∨
      (s.calls c).newSfsnode = none ∧
        ((s.loopSection c).calls c).weight (s.loopSection c).vnodes = 7 := by
  unfold FindState.loopSection
  split
  · next b hfind =>
    left
    have hb : b ∈ s.nodes := (find?_bucket_mem hfind).1
    unfold FindState.attach
    dsimp only
    split
    · simp [FindState.setPc, FindState.setCall, FindCall.weight]
    · split
      · next v hv =>
        -- the vnode of a node in the hash is not reclaimed
        have hphase := (hinv.blocks.attached b hb v hv).2.2.2
        simp [FindState.setPc, FindState.setCall, FindCall.weight, hphase]
      · simp [FindState.setPc, FindState.setCall, FindCall.weight]
  · split
    · next hnew =>
      right
      refine ⟨hnew, ?_⟩
      simp [FindState.setPc, FindState.setCall, FindCall.weight]
    · left
      rw [promoteNew_attach, after_self]
      simp [FindCall.weight]

theorem rank_lt_reclaim {v : ℕ} {t : NodeTable} (hv : v < s.vnodeCount)
    (hphase : (s.vnodes v).phase = .terminating) (hcount : t.vnodeCount = s.vnodeCount)
    (hvnodes : t.vnodes = Function.update s.vnodes v { s.vnodes v with phase := .reclaimed }) :
    (s.setTable t).rank callers < s.rank callers := by
  -- a vnode that is reclaimed sends the calls that ask for it back to the hash, and is one less on
  -- its way out
  apply rank_lt_of_stage
  apply Nat.add_lt_add_left
  apply card_lt_card
  have hne : ∀ v', (t.vnodes v').phase = .terminating → v' ≠ v ∧
      (s.vnodes v').phase = .terminating := by
    intro v' hv'
    rw [hvnodes] at hv'
    by_cases heq : v' = v
    · rw [heq, Function.update_self] at hv'
      cases hv'
    · rw [Function.update_of_ne heq] at hv'
      exact ⟨heq, hv'⟩
  refine (ssubset_iff_of_subset fun v' hv' => ?_).mpr ⟨v, ?_, fun hmem => ?_⟩
  · obtain ⟨hlt, hterm⟩ := mem_filter.mp hv'
    refine mem_filter.mpr ⟨?_, (hne v' hterm).2⟩
    exact hcount ▸ hlt
  · exact mem_filter.mpr ⟨mem_range.mpr hv, hphase⟩
  · exact (hne v (mem_filter.mp hmem).2).1 rfl

def CallsIn (callers : Finset ℕ) (s : FindState) : Prop :=
  ∀ c ∉ callers, (s.calls c).pc = .idle

theorem CallsIn.mem (h : CallsIn callers s) (hpc : (s.calls c).pc ≠ .idle) : c ∈ callers := by
  by_contra hc
  exact hpc (h c hc)

/-- What each step that starts nothing does to the rank. -/
theorem rank_step (hinv : FindInv s) (hin : CallsIn callers s) {op : FindOp}
    (hbegins : op.begins = false) (hs : FindStepped s op s') :
    s'.rank callers + 1 ≤ s.rank callers + s.spinCost op := by
  have hmem : ∀ {c pc}, (s.calls c).pc = pc → pc ≠ .idle → c ∈ callers := by
    intro c pc hpc hne
    exact hin.mem (hpc ▸ hne)
  cases hs with
  | call | terminated => cases hbegins
  | @round c hpc =>
    have hc := hmem hpc (by simp)
    apply (callMoves_loopSection s c).rank_le hinv hc (Or.inl (by rw [hpc]; rfl))
    have hweight := weight_loopSection hinv c
    have hold : (s.calls c).weight s.vnodes = if (s.calls c).newSfsnode = none then 8 else 6 := by
      rw [FindCall.weight, hpc]
    by_cases hnew : (s.calls c).newSfsnode = none
    · rw [if_pos hnew] at hold
      omega
    · rw [if_neg hnew] at hold
      have hle := hweight.resolve_right fun hright => hnew hright.1
      omega
  | @again c hpc =>
    have hc := hmem hpc (by simp)
    have hmoves := (callMoves_dropNew s c).trans (callMoves_loopSection _ c)
    apply hmoves.rank_le hinv hc (Or.inl (by rw [hpc]; rfl))
    have hweight := weight_loopSection (evolves_dropNew hinv c).inv c
    have hold : (s.calls c).weight s.vnodes = 9 := by rw [FindCall.weight, hpc]
    omega
  | @done c b v hpc =>
    apply Nat.le_add_right_of_le
    apply (wakes_createDone hinv hpc).rank_lt (hmem hpc (by simp)) (by rw [hpc]; rfl)
    rw [createDone_eq hinv hpc, after_self]
    rfl
  | @failed c b error hpc _ =>
    apply Nat.le_add_right_of_le
    apply (wakes_createFailed hinv hpc).rank_lt (hmem hpc (by simp)) (by rw [hpc]; rfl)
    rw [createFailed_eq hinv hpc, after_self]
    rfl
  | @allocated c hpc =>
    have hc := hmem hpc (by simp)
    refine (callMoves_after rfl rfl).rank_le hinv hc (Or.inl (by rw [hpc]; rfl)) ?_
    rw [after_self]
    simp [FindCall.weight, hpc]
  | @noMemory c hpc =>
    apply Nat.le_add_right_of_le
    apply (callMoves_setPc s c _).rank_lt (hmem hpc (by simp)) (by rw [hpc]; rfl)
    simp [FindState.setPc, FindState.setCall, FindPc.working]
  | @changed c b v hpc =>
    have hc := hmem hpc (by simp)
    apply (callMoves_setPc s c _).rank_le hinv hc (Or.inl (by rw [hpc]; rfl))
    by_cases hphase : (s.vnodes v).phase = .reclaimed <;>
      simp [FindState.setPc, FindState.setCall, FindCall.weight, FindState.spinCost,
        FindState.spins, hpc, hphase]
  | @got c b v hpc hlive =>
    apply Nat.le_add_right_of_le
    apply (callMoves_setVnode s c v _ _).rank_lt (hmem hpc (by simp)) (by rw [hpc]; rfl)
    simp [FindState.setPc, FindState.setCall, FindPc.working]
  | @made c b hpc =>
    have hc := hmem hpc (by simp)
    apply (callMoves_vnodeCreate s c b _).rank_le hinv hc (Or.inl (by rw [hpc]; rfl))
    simp [FindState.setPc, FindState.setCall, FindState.setTable, FindCall.weight, hpc]
  | @left c error target vnode hpc =>
    have hc := hmem hpc (by simp)
    apply (callMoves_leave s c error target vnode).rank_le hinv hc
    · right
      simp [FindState.leave, FindState.setPc, FindState.setCall, FindPc.working]
    · simp [FindState.leave, FindState.setPc, FindState.setCall, FindCall.weight, hpc]
  | @put c v snp hpc =>
    have hc := hmem hpc (by simp)
    apply (callMoves_setVnode s c v _ _).rank_le hinv hc
    · right
      simp [FindState.setPc, FindState.setCall, FindPc.working]
    · simp [FindState.setPc, FindState.setCall, FindCall.weight, hpc]
  | @reclaimed v hv hphase =>
    apply Nat.le_add_right_of_le
    exact rank_lt_reclaim hv hphase rfl rfl

theorem idle_of_findStep (hinv : FindInv s) {op : FindOp} (hs : FindStepped s op s') {c' : ℕ}
    (hnew : op.newCall ≠ some c') (hidle : (s.calls c').pc = .idle) :
    (s'.calls c').pc = .idle := by
  have hother : ∀ {c pc}, (s.calls c).pc = pc → pc ≠ .idle → c' ≠ c := by
    intro c pc hpc hne heq
    rw [← heq, hidle] at hpc
    exact hne hpc.symm
  have hmove : ∀ {c pc s'}, (s.calls c).pc = pc → pc ≠ .idle → CallMoves s s' c →
      (s'.calls c').pc = .idle := by
    intro c pc s' hpc hne hmoves
    rw [hmoves.calls c' (hother hpc hne)]
    exact hidle
  have hwake : ∀ {c pc s' b}, (s.calls c).pc = pc → pc ≠ .idle → Wakes s s' c b →
      (s'.calls c').pc = .idle := by
    intro c pc s' b hpc hne hwakes
    rw [hwakes.calls c' (hother hpc hne), FindCall.woken, hidle]
    exact hidle
  cases hs with
  | @call c args hpc =>
    have hne : c' ≠ c := fun heq => hnew (congrArg some heq.symm)
    simp [FindState.setCall, hne, hidle]
  | round hpc => exact hmove hpc (by simp) (callMoves_loopSection s _)
  | again hpc =>
    exact hmove hpc (by simp) ((callMoves_dropNew s _).trans (callMoves_loopSection _ _))
  | done hpc => exact hwake hpc (by simp) (wakes_createDone hinv hpc)
  | failed hpc _ => exact hwake hpc (by simp) (wakes_createFailed hinv hpc)
  | allocated hpc => exact hmove hpc (by simp) (callMoves_after rfl rfl)
  | noMemory hpc | changed hpc => exact hmove hpc (by simp) (callMoves_setPc s _ _)
  | got hpc _ | put hpc => exact hmove hpc (by simp) (callMoves_setVnode s _ _ _ _)
  | made hpc => exact hmove hpc (by simp) (callMoves_vnodeCreate s _ _ _)
  | left hpc => exact hmove hpc (by simp) (callMoves_leave s _ _ _ _)
  | terminated | reclaimed => exact hidle

theorem CallsIn.step (hin : CallsIn callers s) (hinv : FindInv s) {op : FindOp}
    (hnew : ∀ c, op.newCall = some c → c ∈ callers) (hs : FindStepped s op s') :
    CallsIn callers s' := by
  intro c hc
  exact idle_of_findStep hinv hs (fun hcall => hc (hnew c hcall)) (hin c hc)

theorem callsIn_run {ops : List FindOp} (hinv : FindInv s) (hin : CallsIn callers s)
    (hops : ∀ op ∈ ops, ∀ c, op.newCall = some c → c ∈ callers)
    (hrun : run findStep s ops = some s') : CallsIn callers s' := by
  induction ops generalizing s with
  | nil =>
    cases hrun
    exact hin
  | cons op ops ih =>
    rw [run, Option.bind_eq_some_iff] at hrun
    obtain ⟨s₁, hstep, hrest⟩ := hrun
    have hin₁ := hin.step hinv (hops op List.mem_cons_self) (findStep_inv hstep)
    apply ih (findStep_evolves hinv hstep).1 hin₁ _ hrest
    exact fun op' hop' => hops op' (List.mem_cons_of_mem op hop')

theorem callsIn_of_run {mask : UInt64} {ops : List FindOp}
    (hrun : run findStep (.init mask) ops = some s) : CallsIn (callersOf ops) s := by
  refine callsIn_run (findInv_init mask) (fun _ _ => rfl) (fun op hop c hcall => ?_) hrun
  exact List.mem_toFinset.mpr (List.mem_filterMap.mpr ⟨op, hop, hcall⟩)

theorem settle_step (callers : Finset ℕ) (s : FindState) (op : FindOp) (s' : FindState)
    (h : FindInv s ∧ CallsIn callers s) (hbegins : op.begins = false)
    (hstep : findStep s op = some s') :
    (FindInv s' ∧ CallsIn callers s') ∧ s'.rank callers + 1 ≤ s.rank callers + s.spinCost op := by
  obtain ⟨hinv, hin⟩ := h
  have hs := findStep_inv hstep
  refine ⟨⟨(findStep_evolves hinv hstep).1, hin.step hinv ?_ hs⟩, rank_step hinv hin hbegins hs⟩
  intro c hcall
  cases op with
  | call => cases hbegins
  | _ => cases hcall

def FindState.CanGoOn (s : FindState) : Prop :=
  ∃ op : FindOp, op.begins = false ∧ s.spins op = false ∧ (findStep s op).isSome

theorem canGoOn_of_creating {b : ℕ} {vnode : Option ℕ}
    (hpc : (s.calls c).pc = .creating b vnode) : s.CanGoOn := by
  cases vnode with
  | none => exact ⟨.vnodeCreate c, rfl, rfl, by simp [findStep, hpc]⟩
  | some v => exact ⟨.lock c, rfl, rfl, by simp [findStep, hpc]⟩

/-- A call in progress can go on, or waits for another call or for a reclaim that can. -/
theorem canGoOn_of_inProgress (hinv : FindInv s) (hpc : (s.calls c).pc.inProgress) :
    s.CanGoOn := by
  cases hc : (s.calls c).pc with rw [hc] at hpc
  | top | retry => exact ⟨.lock c, rfl, rfl, by simp [findStep, hc]⟩
  | alloc => exact ⟨.malloc c true, rfl, rfl, by simp [findStep, hc]⟩
  | asleep b =>
    obtain ⟨hnode, hattach, -⟩ := (hinv.calls c).asleep b hc
    cases hv : (s.mem b).nodeVnode with
    | none =>
      obtain ⟨-, vnode, hcreating⟩ := hinv.blocks.attaching b hnode hv
      exact canGoOn_of_creating hcreating
    | some v =>
      rw [(hinv.blocks.attached b hnode v hv).1] at hattach
      cases hattach
  | getvid b v =>
    cases hphase : (s.vnodes v).phase with
    | live => exact ⟨.getwithvid c true, rfl, rfl, by simp [findStep, hc, hphase]⟩
    | terminating =>
      have hv := ((hinv.calls c).getvid b v hc).2.1
      exact ⟨.reclaim v, rfl, rfl, by simp [findStep, hv, hphase]⟩
    | reclaimed =>
      refine ⟨.getwithvid c false, rfl, ?_, by simp [findStep, hc]⟩
      simp [FindState.spins, hc, hphase]
  | creating b vnode => exact canGoOn_of_creating hc
  | finish error target vnode => exact ⟨.leave c, rfl, rfl, by simp [findStep, hc]⟩
  | idle | returned => cases hpc

end Steps

/-- When no call starts and no vnode goes away any more, the steps that the threads can still
take are bounded in number, whatever their order and whatever fails, but for the refusals of
vnodes on their way out. While a call is in progress there is one that is not such a refusal. -/
theorem finds_return (mask : UInt64) {ops rest : List FindOp} {s s' : FindState}
    (hrun : run findStep (.init mask) ops = some s) (hrest : run findStep s rest = some s')
    (hno : ∀ op ∈ rest, op.begins = false) :
    rest.length ≤ ((callersOf ops).card + s.terminating + 1) * (10 * (callersOf ops).card + 1) +
        total findStep FindState.spinCost s rest ∧
      ((∃ c, (s'.calls c).pc.inProgress) → s'.CanGoOn) := by
  have hinv := findInv_run (findInv_init mask) hrun
  have hin := callsIn_of_run hrun
  constructor
  · have hlen := length_add_rank_le (settle_step (callersOf ops)) ⟨hinv, hin⟩ hno hrest
    have hrank := s.rank_le (callersOf ops)
    omega
  · rintro ⟨c, hc⟩
    exact canGoOn_of_inProgress (findInv_run hinv hrest) hc

/-- The first call makes the vnode, and the second one gets it. -/
def bothReturn : List FindOp :=
  [.vnodeCreate 0, .lock 0, .leave 0, .lock 1, .getwithvid 1 true, .leave 1]

/-- The second call sleeps, and both return. -/
theorem sleeper_returns :
    ∃ s s', run findStep (.init 3) secondSleeps = some s ∧ (s.calls 1).pc = .asleep 0 ∧
      run findStep s bothReturn = some s' ∧
      bothReturn.length ≤ (2 + s.terminating + 1) * (10 * 2 + 1) ∧
      (s'.calls 1).pc = .returned 0 (some 0) (some 0) true ∧
      ((∃ c, (s'.calls c).pc.inProgress) → s'.CanGoOn) := by
  have hrun : (run findStep (.init 3) secondSleeps).any (fun s => (s.calls 1).pc = .asleep 0 ∧
      total findStep FindState.spinCost s bothReturn = 0 ∧
      (run findStep s bothReturn).any fun s' =>
        (s'.calls 1).pc = .returned 0 (some 0) (some 0) true) := by
    decide +kernel
  obtain ⟨s, hs, hok⟩ := (Option.any_eq_true _ _).mp hrun
  obtain ⟨hasleep, hcost, hrest⟩ := of_decide_eq_true hok
  obtain ⟨s', hs', hdone⟩ := (Option.any_eq_true _ _).mp hrest
  obtain ⟨hlen, hgo⟩ := finds_return 3 hs hs' (by simp [bothReturn, FindOp.begins])
  have hcallers : (callersOf secondSleeps).card = 2 := by decide
  rw [hcallers, hcost, Nat.add_zero] at hlen
  exact ⟨s, s', hs, hasleep, hs', hlen, of_decide_eq_true hdone, hgo⟩

section Flush
variable {s : FindState}

/-- What `vflush` has to give for the mount `m`: every vnode of the mount is reclaimed, and no
call for one of its nodes is in progress. -/
structure Flushed (m : Int32) (s : FindState) : Prop where
  vnodes : ∀ v < s.vnodeCount, (s.mem (s.vnodes v).fsnode).nodeMntId = m →
    (s.vnodes v).phase = .reclaimed
  calls : ∀ c, (s.calls c).pc.inProgress = true → (s.calls c).args.nodeMntId ≠ m

theorem FindInv.mntId_ne_of_flushed (h : FindInv s) {m : Int32} (hflushed : Flushed m s) {b : ℕ}
    (hb : b ∈ s.nodes) : (s.mem b).nodeMntId ≠ m := by
  intro hm
  cases hv : (s.mem b).nodeVnode with
  | none =>
    -- the call that is attaching a vnode was made for this node
    obtain ⟨-, vnode, hpc⟩ := h.blocks.attaching b hb hv
    have hkey := ((h.calls (s.owner b)).creating b vnode hpc).2.2.2.2.2.1
    apply hflushed.calls (s.owner b) (by rw [hpc]; rfl)
    rw [← hm]
    exact (congrArg NodeKey.mntId hkey).symm
  | some v =>
    obtain ⟨-, hlt, hfs, hphase⟩ := h.blocks.attached b hb v hv
    apply hphase
    apply hflushed.vnodes v hlt
    rw [hfs, hm]

/-- In every run of finds and reclaims a mount that is flushed has no node in the hash. When all
mounts are flushed every bucket is empty, and every block is freed once. -/
theorem flushed_mounts_leave_nothing (mask : UInt64) {ops : List FindOp}
    (hrun : run findStep (.init mask) ops = some s) :
    (∀ m, Flushed m s → ∀ b ∈ s.nodes, (s.mem b).nodeMntId ≠ m) ∧
      ((∀ m, Flushed m s) → (∀ bucket ∈ s.buckets, bucket = []) ∧ s.liveNodes = 0 ∧
        ∀ b < s.blocks, s.freed.count b = 1) := by
  have hinv := findInv_run (findInv_init mask) hrun
  have haccount := accounted_run (accounted_init mask) (findInv_init mask) hrun
  refine ⟨fun m hm b hb => hinv.mntId_ne_of_flushed hm hb, fun hall => ?_⟩
  have hnodes : s.nodes = [] := by
    apply List.eq_nil_iff_forall_not_mem.mpr
    intro b hb
    exact hinv.mntId_ne_of_flushed (hall _) hb rfl
  refine ⟨?_, ?_, ?_⟩
  · intro bucket hbucket
    exact List.flatten_eq_nil_iff.mp hnodes bucket hbucket
  · rw [hinv.table.live, hnodes]
    rfl
  · intro b hb
    rcases haccount.inOnePlace hinv hb with hnode | hheld | hfreed
    · rw [hnodes] at hnode
      cases hnode.1
    · obtain ⟨c, hc, -⟩ := hheld.2.1
      exact absurd rfl ((hall _).calls c hc.1)
    · exact hfreed.2.2

def madeAndReclaimed : List FindOp :=
  List.flatten [secondSleeps, bothReturn, [.vnodePut 0, .vnodePut 1, .terminate 0, .reclaim 0]]

/-- No block of the two is left. -/
theorem reclaimed_mount_leaves_nothing :
    ∃ s, run findStep (.init 3) madeAndReclaimed = some s ∧ (∀ m, Flushed m s) ∧ s.blocks = 2 ∧
      (∀ bucket ∈ s.buckets, bucket = []) ∧ ∀ b < s.blocks, s.freed.count b = 1 := by
  have hrun : (run findStep (.init 3) madeAndReclaimed).any (fun s => s.blocks = 2 ∧
      (∀ v < s.vnodeCount, (s.vnodes v).phase = .reclaimed) ∧
      ∀ c ∈ callersOf madeAndReclaimed, (s.calls c).pc.inProgress = false) := by
    decide +kernel
  obtain ⟨s, hs, hok⟩ := (Option.any_eq_true _ _).mp hrun
  obtain ⟨hblocks, hvnodes, hcalls⟩ := of_decide_eq_true hok
  have hin := callsIn_of_run hs
  have hflushed : ∀ m, Flushed m s := by
    intro m
    refine ⟨fun v hv _ => hvnodes v hv, fun c hc => ?_⟩
    by_cases hmem : c ∈ callersOf madeAndReclaimed
    · rw [hcalls c hmem] at hc
      cases hc
    · rw [hin c hmem] at hc
      cases hc
  obtain ⟨hempty, -, hfreed⟩ := (flushed_mounts_leave_nothing 3 hs).2 hflushed
  exact ⟨s, hs, hflushed, hblocks, hempty, hfreed⟩

end Flush

end SysFS
