import SysFS.Mount

namespace SysFS
open Transition

/-- How far `sysfs_mount` is for a mount structure. -/
inductive MountPhase where
  | unmounted
  | added
  | mounted (pmntId : Int32)
  deriving DecidableEq, Repr

/-- The mount structures, the counter and the nodes in the hash. Two fields record the history,
and no step uses them: `adds` counts the increments, and `readers` has the mounted instances
that have read the counter since the last one. -/
structure IdState where
  phase : ℕ → MountPhase
  sysfsMountId : Int32
  hash : List HashedNode
  adds : ℕ
  readers : List ℕ

def IdState.load : IdState := ⟨fun _ => .unmounted, 0, [], 0, []⟩

/-- The steps: the increment and the read of a first-time mount, an unmount, and what the
instances do with their ids. -/
inductive IdOp where
  | add (mp : ℕ)
  | read (mp : ℕ)
  | unmount (mp : ℕ)
  | find (mp : ℕ) (nodeId : Sfsid) (snode : Option SnodeRef)
  | reclaim (n : HashedNode)

/-- The key that `sysfsnode_find` looks for. -/
def HashedNode.hasKey (mntId : Int32) (nodeId : Sfsid) (n : HashedNode) : Bool :=
  n.nodeMntId = mntId ∧ n.nodeId = nodeId

/-- The lock that orders mounts and unmounts belongs to one mount structure, so the steps of
different mounts may interleave. -/
def idStep (s : IdState) : IdOp → Option IdState
  | .add mp =>
    match s.phase mp with
    | .unmounted =>
      some { s with
        phase := Function.update s.phase mp .added
        sysfsMountId := s.sysfsMountId + 1
        adds := s.adds + 1
        readers := [] }
    | _ => none
  | .read mp =>
    match s.phase mp with
    | .added =>
      some { s with
        phase := Function.update s.phase mp (.mounted s.sysfsMountId)
        readers := mp :: s.readers }
    | _ => none
  | .unmount mp =>
    match s.phase mp with
    | .mounted _ =>
      some { s with
        phase := Function.update s.phase mp .unmounted
        hash := s.hash.filter fun n => n.nodeMp ≠ mp
        readers := s.readers.filter fun r => r ≠ mp }
    | _ => none
  | .find mp nodeId snode =>
    match s.phase mp with
    | .mounted pmntId =>
      if s.hash.any (HashedNode.hasKey pmntId nodeId) then some s
      else some { s with hash := ⟨mp, pmntId, nodeId, snode⟩ :: s.hash }
    | _ => none
  | .reclaim n => if n ∈ s.hash then some { s with hash := s.hash.erase n } else none

def IdsDistinct (s : IdState) : Prop :=
  ∀ mp mp' id, s.phase mp = .mounted id → s.phase mp' = .mounted id → mp = mp'

/-- What an instance finds by its id and a node id is a node of its own. -/
def FindsOwn (s : IdState) : Prop :=
  ∀ mp id nodeId, s.phase mp = .mounted id → ∀ n ∈ s.hash, n.hasKey id nodeId → n.nodeMp = mp

structure IdInv (s : IdState) : Prop where
  current : s.sysfsMountId = Int32.ofNat s.adds
  numbered : ∀ mp id, s.phase mp = .mounted id →
    ∃ k ≤ s.adds, id = Int32.ofNat k ∧ (k = s.adds → mp ∈ s.readers)
  readers : ∀ mp ∈ s.readers, s.phase mp = .mounted s.sysfsMountId
  owned : ∀ n ∈ s.hash, s.phase n.nodeMp = .mounted n.nodeMntId

theorem idInv_load : IdInv .load := ⟨rfl, nofun, nofun, nofun⟩

theorem update_eq_mounted {phase : ℕ → MountPhase} {mp mp' : ℕ} {p : MountPhase} {id : Int32}
    (hp : ∀ id, p ≠ .mounted id) (h : Function.update phase mp p mp' = .mounted id) :
    mp' ≠ mp ∧ phase mp' = .mounted id := by
  by_cases heq : mp' = mp
  · rw [heq, Function.update_self] at h
    exact absurd h (hp id)
  · rw [Function.update_of_ne heq] at h
    exact ⟨heq, h⟩

theorem update_of_phase {phase : ℕ → MountPhase} {mp mp' : ℕ} {p q : MountPhase}
    (hold : phase mp ≠ q) (h : phase mp' = q) : Function.update phase mp p mp' = q := by
  rw [Function.update_of_ne, h]
  intro heq
  rw [heq] at h
  exact hold h

inductive IdStepped (s : IdState) : IdOp → IdState → Prop where
  | add {mp : ℕ} (hphase : s.phase mp = .unmounted) :
    IdStepped s (.add mp) { s with
      phase := Function.update s.phase mp .added
      sysfsMountId := s.sysfsMountId + 1
      adds := s.adds + 1
      readers := [] }
  | read {mp : ℕ} (hphase : s.phase mp = .added) :
    IdStepped s (.read mp) { s with
      phase := Function.update s.phase mp (.mounted s.sysfsMountId)
      readers := mp :: s.readers }
  | unmount {mp : ℕ} :
    IdStepped s (.unmount mp) { s with
      phase := Function.update s.phase mp .unmounted
      hash := s.hash.filter fun n => n.nodeMp ≠ mp
      readers := s.readers.filter fun r => r ≠ mp }
  | found {mp : ℕ} {nodeId : Sfsid} {snode : Option SnodeRef} :
      IdStepped s (.find mp nodeId snode) s
  | created {mp : ℕ} {nodeId : Sfsid} {snode : Option SnodeRef} {pmntId : Int32}
      (hphase : s.phase mp = .mounted pmntId) :
    IdStepped s (.find mp nodeId snode) { s with hash := ⟨mp, pmntId, nodeId, snode⟩ :: s.hash }
  | reclaim {n : HashedNode} : IdStepped s (.reclaim n) { s with hash := s.hash.erase n }

theorem idStep_inv {s s' : IdState} {op : IdOp} (h : idStep s op = some s') :
    IdStepped s op s' := by
  cases op with
  | add mp =>
    rw [idStep] at h
    split at h
    · next hphase =>
      cases h
      exact .add hphase
    · cases h
  | read mp =>
    rw [idStep] at h
    split at h
    · next hphase =>
      cases h
      exact .read hphase
    · cases h
  | unmount mp =>
    rw [idStep] at h
    split at h
    · cases h
      exact .unmount
    · cases h
  | find mp nodeId snode =>
    rw [idStep] at h
    split at h
    · next hphase =>
      split at h
      · cases h
        exact .found
      · cases h
        exact .created hphase
    · cases h
  | reclaim n =>
    rw [idStep] at h
    split at h
    · cases h
      exact .reclaim
    · cases h

theorem IdInv.step {s s' : IdState} {op : IdOp} (h : IdInv s) (hs : IdStepped s op s') :
    IdInv s' := by
  cases hs with
  | @add mp hphase =>
    have hnot : ∀ id, s.phase mp ≠ .mounted id := by
      rw [hphase]
      nofun
    refine ⟨?_, ?_, nofun, fun n hn => update_of_phase (hnot _) (h.owned n hn)⟩
    · show s.sysfsMountId + 1 = Int32.ofNat (s.adds + 1)
      rw [h.current, Int32.ofNat_add]
      rfl
    · intro mp' id hmp'
      have ⟨_, hold⟩ := update_eq_mounted (p := .added) (fun _ => nofun) hmp'
      have ⟨k, hk, hid, _⟩ := h.numbered mp' id hold
      exact ⟨k, Nat.le_succ_of_le hk, hid, fun (heq : k = s.adds + 1) => by omega⟩
  | @read mp hphase =>
    have hnot : ∀ id, s.phase mp ≠ .mounted id := by
      rw [hphase]
      nofun
    refine ⟨h.current, ?_, ?_, fun n hn => update_of_phase (hnot _) (h.owned n hn)⟩
    · intro mp' id (hmp' : Function.update s.phase mp _ mp' = _)
      by_cases heq : mp' = mp
      · rw [heq, Function.update_self] at hmp'
        cases hmp'
        exact ⟨s.adds, le_refl _, h.current, fun _ => heq ▸ List.mem_cons_self⟩
      · rw [Function.update_of_ne heq] at hmp'
        have ⟨k, hk, hid, hreader⟩ := h.numbered mp' id hmp'
        exact ⟨k, hk, hid, fun hcur => List.mem_cons_of_mem _ (hreader hcur)⟩
    · intro mp' hmp'
      rcases List.mem_cons.mp hmp' with heq | hold
      · rw [heq]
        exact Function.update_self ..
      · exact update_of_phase (hnot _) (h.readers mp' hold)
  | @unmount mp =>
    refine ⟨h.current, ?_, ?_, ?_⟩
    · intro mp' id hmp'
      have ⟨hne, hold⟩ := update_eq_mounted (p := .unmounted) (fun _ => nofun) hmp'
      have ⟨k, hk, hid, hreader⟩ := h.numbered mp' id hold
      exact ⟨k, hk, hid, fun hcur => List.mem_filter.mpr ⟨hreader hcur, decide_eq_true hne⟩⟩
    · intro mp' hmp'
      have ⟨hold, hne⟩ := List.mem_filter.mp hmp'
      exact (Function.update_of_ne (of_decide_eq_true hne) ..).trans (h.readers mp' hold)
    · intro n hn
      have ⟨hold, hne⟩ := List.mem_filter.mp hn
      exact (Function.update_of_ne (of_decide_eq_true hne) ..).trans (h.owned n hold)
  | found => exact h
  | created hphase =>
    exact ⟨h.current, h.numbered, h.readers, List.forall_mem_cons.mpr ⟨hphase, h.owned⟩⟩
  | reclaim =>
    exact ⟨h.current, h.numbered, h.readers, fun m hm => h.owned m (List.mem_of_mem_erase hm)⟩

theorem IdInv.findsOwn {s : IdState} (h : IdInv s) (hdistinct : IdsDistinct s) : FindsOwn s := by
  intro mp id nodeId hmp n hn hkey
  have ⟨hid, _⟩ := of_decide_eq_true hkey
  exact hdistinct n.nodeMp mp id (hid ▸ h.owned n hn) hmp

def IdOp.isAdd : IdOp → Bool
  | .add _ => true
  | _ => false

theorem adds_step {s s' : IdState} {op : IdOp} (hs : IdStepped s op s') :
    s'.adds = s.adds + if op.isAdd then 1 else 0 := by
  cases hs <;> rfl

theorem adds_run {ops : List IdOp} {s : IdState} (h : run idStep .load ops = some s) :
    s.adds = ops.countP IdOp.isAdd := by
  induction ops using List.reverseRecOn generalizing s with
  | nil =>
    cases h
    rfl
  | append_singleton ops op ih =>
    rw [run_concat, Option.bind_eq_some_iff] at h
    have ⟨s₀, hs₀, hstep⟩ := h
    rw [adds_step (idStep_inv hstep), ih hs₀, List.countP_append, List.countP_singleton]

theorem adds_le {ops : List IdOp} {s : IdState} (h : Reached idStep .load ops s) :
    s.adds ≤ ops.countP IdOp.isAdd := by
  have ⟨k, hk⟩ := h
  rw [adds_run hk]
  exact (List.take_sublist k ops).countP_le

theorem idInv_reached {ops : List IdOp} {s : IdState} (h : Reached idStep .load ops s) :
    IdInv s := by
  refine invariant_along idInv_load ?_ h
  intro s op s' htaken hinv
  exact hinv.step (idStep_inv htaken.step_eq)

theorem int32_ofNat_inj {k l : ℕ} (hk : k < 2 ^ 32) (hl : l < 2 ^ 32)
    (h : Int32.ofNat k = Int32.ofNat l) : k = l := by
  have hbits : (BitVec.ofNat 32 k).toNat = (BitVec.ofNat 32 l).toNat :=
    congrArg (fun i => i.toBitVec.toNat) h
  rw [BitVec.toNat_ofNat, BitVec.toNat_ofNat] at hbits
  omega

theorem idsDistinct_of_mounted {s s' : IdState} (hdistinct : IdsDistinct s)
    (hsub : ∀ mp id, s'.phase mp = .mounted id → s.phase mp = .mounted id) : IdsDistinct s' :=
  fun mp mp' id hm hm' => hdistinct mp mp' id (hsub mp id hm) (hsub mp' id hm')

/-- The counter has a value of its own while no mounted instance has read it since the last
increment. -/
theorem IdInv.id_ne {s : IdState} (h : IdInv s) (hadds : s.adds < 2 ^ 32)
    (hreaders : s.readers = []) {mp : ℕ} {id : Int32} (hmp : s.phase mp = .mounted id) :
    id ≠ s.sysfsMountId := by
  intro heq
  have ⟨k, hk, hid, hreader⟩ := h.numbered mp id hmp
  have hcur : k = s.adds :=
    int32_ofNat_inj (by omega) hadds (hid.symm.trans (heq.trans h.current))
  have hmem := hreader hcur
  rw [hreaders] at hmem
  cases hmem

theorem IdInv.distinct_step {s s' : IdState} (h : IdInv s) (hadds : s.adds < 2 ^ 32) {op : IdOp}
    (hs : IdStepped s op s') (hreaders : ∀ mp, op = .read mp → s.readers = [])
    (hdistinct : IdsDistinct s) : IdsDistinct s' := by
  cases hs with
  | add =>
    exact idsDistinct_of_mounted hdistinct fun _ _ hm =>
      (update_eq_mounted (p := .added) (fun _ => nofun) hm).2
  | unmount =>
    exact idsDistinct_of_mounted hdistinct fun _ _ hm =>
      (update_eq_mounted (p := .unmounted) (fun _ => nofun) hm).2
  | found | created | reclaim => exact idsDistinct_of_mounted hdistinct fun _ _ hm => hm
  | @read mp hphase =>
    have hnew : ∀ m id, s.phase m = .mounted id → id ≠ s.sysfsMountId :=
      fun m id hm => h.id_ne hadds (hreaders mp rfl) hm
    intro m m' id (hm : Function.update s.phase mp _ m = _)
      (hm' : Function.update s.phase mp _ m' = _)
    by_cases heq : m = mp
    · by_cases heq' : m' = mp
      · rw [heq, heq']
      · rw [heq, Function.update_self] at hm
        rw [Function.update_of_ne heq'] at hm'
        cases hm
        exact absurd rfl (hnew m' _ hm')
    · rw [Function.update_of_ne heq] at hm
      by_cases heq' : m' = mp
      · rw [heq', Function.update_self] at hm'
        cases hm'
        exact absurd rfl (hnew m _ hm)
      · rw [Function.update_of_ne heq'] at hm'
        exact hdistinct m m' id hm hm'

/-- In every interleaving of fewer than `2 ^ 32` mounts with unmounts and lookups, the mounted
instances have different ids and find only their own nodes, exactly if each mount reads the
counter when no mounted instance has read it since the last increment. -/
theorem mount_ids_distinct_iff (ops : List IdOp) (hfew : ops.countP IdOp.isAdd < 2 ^ 32) :
    (∀ s, Reached idStep .load ops s → IdsDistinct s ∧ FindsOwn s) ↔
      ∀ s mp s', StepTaken idStep .load ops s (.read mp) s' → s.readers = [] := by
  constructor
  · intro h s mp s' htaken
    have hinv := idInv_reached htaken.reached
    have hdistinct := (h s' htaken.reached_next).1
    cases idStep_inv htaken.step_eq with
    | read hphase =>
      apply List.eq_nil_iff_forall_not_mem.mpr
      intro mp' hmp'
      have hmounted := hinv.readers mp' hmp'
      have hne : mp' ≠ mp := by
        intro heq
        rw [heq, hphase] at hmounted
        cases hmounted
      exact hne (hdistinct mp' mp s.sysfsMountId
        ((Function.update_of_ne hne ..).trans hmounted) (Function.update_self ..))
  · intro h s hs
    have hload : IdsDistinct .load := nofun
    have hdistinct : IdsDistinct s := by
      refine invariant_along hload ?_ hs
      intro s op s' htaken hdistinct
      have hadds := (adds_le htaken.reached).trans_lt hfew
      exact (idInv_reached htaken.reached).distinct_step hadds (idStep_inv htaken.step_eq)
        (fun mp hop => h s mp s' (hop ▸ htaken)) hdistinct
    exact ⟨hdistinct, (idInv_reached hs).findsOwn hdistinct⟩

/-- Two mounts increment the counter before either reads it; then both look up their roots. -/
def addsBeforeReads : List IdOp :=
  [.add 1, .add 2, .read 1, .read 2, .find 1 ⟨0, 0, sysfsRootNodeBaseId⟩ none,
    .find 2 ⟨0, 0, sysfsRootNodeBaseId⟩ none]

/-- Both instances have the id 2, and the second finds the root node of the first one. -/
theorem concurrent_mounts_share_id :
    ∃ s, run idStep .load addsBeforeReads = some s ∧ s.phase 1 = .mounted 2 ∧
      s.phase 2 = .mounted 2 ∧ s.hash.map (fun n => n.nodeMp) = [1] ∧
      s.hash.all (HashedNode.hasKey 2 ⟨0, 0, sysfsRootNodeBaseId⟩) = true := by
  have hrun : (run idStep .load addsBeforeReads).any (fun s =>
      s.phase 1 = .mounted 2 ∧ s.phase 2 = .mounted 2 ∧ s.hash.map (fun n => n.nodeMp) = [1] ∧
        s.hash.all (HashedNode.hasKey 2 ⟨0, 0, sysfsRootNodeBaseId⟩) = true) = true := by
    decide +kernel
  have ⟨s, hs, hfinal⟩ := (Option.any_eq_true _ _).mp hrun
  exact ⟨s, hs, of_decide_eq_true hfinal⟩

/-- Whether no mounted instance has read the counter since the last increment, at a read. -/
def readsAlone (s : IdState) : IdOp → Bool
  | .read _ => s.readers = []
  | _ => true

/-- Mounts that come one after the other have different ids. -/
theorem successive_mounts_distinct :
    ∃ s, run idStep .load [.add 1, .read 1, .add 2, .read 2] = some s ∧
      s.phase 1 = .mounted 1 ∧ s.phase 2 = .mounted 2 ∧ IdsDistinct s ∧ FindsOwn s := by
  have hall : ∀ s, Reached idStep .load [.add 1, .read 1, .add 2, .read 2] s →
      IdsDistinct s ∧ FindsOwn s := by
    apply (mount_ids_distinct_iff _ (by decide)).mpr
    intro s mp s' htaken
    have hcheck : checkRun idStep readsAlone .load [.add 1, .read 1, .add 2, .read 2] = true := by
      decide +kernel
    have hok := ok_of_checkRun hcheck htaken
    exact of_decide_eq_true hok
  exact ⟨_, rfl, rfl, rfl, hall _ ⟨4, rfl⟩⟩

end SysFS
