import SysFS.Mount

namespace SysFS
open CString Transition

theorem mntfromname_succ (k : ℕ) :
    mntfromname (k + 1 : ℕ) = if k = 0 then cstr "sys" else cstr "sys" ++ decimal (k + 1) := by
  rw [mntfromname]
  split
  · next hone => rw [if_pos (by omega)]
  · next hone =>
    rw [if_neg (by omega), if_neg (by omega), List.append_nil, Int.natAbs_natCast]

theorem mntfromname_inj {k l : ℕ} (h : mntfromname (k + 1 : ℕ) = mntfromname (l + 1 : ℕ)) :
    k = l := by
  rw [mntfromname_succ, mntfromname_succ] at h
  split at h
  · next hk =>
    split at h
    · next hl => rw [hk, hl]
    · have hnil : [] = decimal (l + 1) := List.append_cancel_left ((List.append_nil _).trans h)
      exact absurd hnil.symm (decimal_ne_nil _)
  · split at h
    · have hnil : decimal (k + 1) = [] := List.append_cancel_left (h.trans (List.append_nil _).symm)
      exact absurd hnil (decimal_ne_nil _)
    · have heq := decimal_injective (List.append_cancel_left h)
      omega

/-- The mounted instances after one more operation. Each is kept with the number of the
instances that were mounted before it. -/
def instancesStep (l : List (ℕ × ℕ)) : MountOp → List (ℕ × ℕ)
  | .mount mp allocated _ =>
    if allocated ∧ mp ∉ l.map Prod.fst then (mp, l.length) :: l else l
  | .unmount mp => l.filter fun m => m.1 ≠ mp
  | _ => l

def instances (ops : List MountOp) : List (ℕ × ℕ) := ops.foldl instancesStep []

theorem instances_concat (ops : List MountOp) (op : MountOp) :
    instances (ops ++ [op]) = instancesStep (instances ops) op := List.foldl_concat ..

/-- The mounts of a state are the instances `l`, named after their numbers. -/
structure NamedAfter (s : MountState) (l : List (ℕ × ℕ)) : Prop where
  names : s.mounts.map (fun m => (m.1, m.2.mntfromname)) =
    l.map fun m => (m.1, mntfromname (m.2 + 1 : ℕ))
  count : s.mountedInstanceCount = l.length
  distinct : (l.map Prod.fst).Nodup

inductive MountsStep (s s' : MountState) : MountOp → Prop where
  | mounted {mp : ℕ} {ncpu : UInt32} {sm : Sfsmount} (hnew : mptopmp s mp = none)
      (hname : sm.mntfromname = mntfromname (s.mountedInstanceCount + 1))
      (hmounts : s'.mounts = (mp, sm) :: s.mounts)
      (hcount : s'.mountedInstanceCount = s.mountedInstanceCount + 1) :
    MountsStep s s' (.mount mp true ncpu)
  | unmounted {mp : ℕ} {sm : Sfsmount} (hold : mptopmp s mp = some sm)
      (hmounts : s'.mounts = s.mounts.filter fun m => m.1 ≠ mp)
      (hcount : s'.mountedInstanceCount = s.mountedInstanceCount - 1) :
    MountsStep s s' (.unmount mp)
  | same {op : MountOp}
      (hmount : ∀ mp ncpu, op = .mount mp true ncpu → mptopmp s mp ≠ none)
      (hunmount : ∀ mp, op = .unmount mp → mptopmp s mp = none)
      (hmounts : s'.mounts = s.mounts)
      (hcount : s'.mountedInstanceCount = s.mountedInstanceCount) :
    MountsStep s s' op

theorem findNode_mounts (n : HashedNode) (created : Bool) (s : MountState) :
    (findNode n created s).mounts = s.mounts ∧
      (findNode n created s).mountedInstanceCount = s.mountedInstanceCount := by
  unfold findNode
  split <;> exact ⟨rfl, rfl⟩

theorem mountStep_mounts {s s' : MountState} {op : MountOp} (h : mountStep s op = some s') :
    MountsStep s s' op := by
  cases op with
  | mount mp allocated ncpu =>
    cases h
    cases hmp : mptopmp s mp with
    | some sm =>
      rw [sysfsMount, hmp]
      refine .same (fun mp' ncpu' heq => ?_) (by simp) rfl rfl
      cases heq
      rw [hmp]
      simp
    | none =>
      cases allocated with
      | false =>
        rw [sysfsMount, hmp]
        exact .same (by simp) (by simp) rfl rfl
      | true =>
        rw [sysfsMount, hmp]
        exact .mounted hmp rfl rfl rfl
  | unmount mp =>
    cases h
    cases hmp : mptopmp s mp with
    | none =>
      rw [sysfsUnmount, unmountPrivate, hmp]
      refine .same (by simp) (fun mp' heq => ?_) rfl rfl
      cases heq
      exact hmp
    | some sm =>
      rw [sysfsUnmount, unmountPrivate, hmp]
      exact .unmounted hmp rfl rfl
  | root mp created =>
    rw [mountStep] at h
    split at h
    · split at h
      · cases h
        exact .same (by simp) (by simp) (findNode_mounts ..).1 (findNode_mounts ..).2
      · cases h
    · cases h
  | lookup dir g cn created =>
    rw [mountStep] at h
    split at h
    · split at h
      · cases h
        rw [lookupNode]
        split
        · exact .same (by simp) (by simp) rfl rfl
        · exact .same (by simp) (by simp) (findNode_mounts ..).1 (findNode_mounts ..).2
      · cases h
    · cases h
  | reclaim n =>
    rw [mountStep] at h
    split at h
    · cases h
      exact .same (by simp) (by simp) rfl rfl
    · cases h

theorem length_filter_key {l : List (ℕ × ℕ)} {mp : ℕ} (hnodup : (l.map Prod.fst).Nodup)
    (hmem : mp ∈ l.map Prod.fst) : (l.filter fun m => m.1 ≠ mp).length + 1 = l.length := by
  induction l with
  | nil => cases hmem
  | cons m l ih =>
    rw [List.map_cons, List.nodup_cons] at hnodup
    by_cases heq : m.1 = mp
    · have hrest : l.filter (fun m => m.1 ≠ mp) = l := by
        rw [List.filter_eq_self]
        intro m' hm'
        refine decide_eq_true fun heq' => hnodup.1 ?_
        exact List.mem_map.mpr ⟨m', hm', heq'.trans heq.symm⟩
      rw [List.filter_cons_of_neg (by simp [heq]), hrest, List.length_cons]
    · have hl : mp ∈ l.map Prod.fst :=
        (List.mem_cons.mp hmem).resolve_left fun hmp => heq hmp.symm
      rw [List.filter_cons_of_pos (by simp [heq]), List.length_cons, ih hnodup.2 hl,
        List.length_cons]

namespace NamedAfter

variable {s s' : MountState} {l : List (ℕ × ℕ)} (h : NamedAfter s l)
include h

theorem mptopmp_eq_none_iff (mp : ℕ) : mptopmp s mp = none ↔ mp ∉ l.map Prod.fst := by
  have hkeys := congrArg (List.map Prod.fst) h.names
  rw [List.map_map, List.map_map] at hkeys
  rw [SysFS.mptopmp_eq_none_iff]
  exact not_congr (iff_of_eq (congrArg (mp ∈ ·) hkeys))

theorem instancesStep_same {op : MountOp}
    (hmount : ∀ mp ncpu, op = .mount mp true ncpu → mptopmp s mp ≠ none)
    (hunmount : ∀ mp, op = .unmount mp → mptopmp s mp = none) : instancesStep l op = l := by
  cases op with
  | mount mp allocated ncpu =>
    cases allocated with
    | false => rw [instancesStep, if_neg fun hcond => Bool.false_ne_true hcond.1]
    | true =>
      rw [instancesStep, if_neg]
      intro hcond
      exact hmount mp ncpu rfl ((h.mptopmp_eq_none_iff mp).mpr hcond.2)
  | unmount mp =>
    rw [instancesStep, List.filter_eq_self]
    intro m hm
    have hmp := (h.mptopmp_eq_none_iff mp).mp (hunmount mp rfl)
    exact decide_eq_true fun heq => hmp (List.mem_map.mpr ⟨m, hm, heq⟩)
  | root | lookup | reclaim => rfl

theorem step {op : MountOp} (hstep : MountsStep s s' op) : NamedAfter s' (instancesStep l op) := by
  cases hstep with
  | @mounted mp ncpu sm hnew hname hmounts hcount =>
    have hmp := (h.mptopmp_eq_none_iff mp).mp hnew
    rw [instancesStep, if_pos ⟨rfl, hmp⟩]
    refine ⟨?_, ?_, List.nodup_cons.mpr ⟨hmp, h.distinct⟩⟩
    · rw [hmounts, List.map_cons, List.map_cons, h.names, hname, h.count]
      rfl
    · rw [hcount, h.count]
      rfl
  | @unmounted mp sm hold hmounts hcount =>
    have hmp : mp ∈ l.map Prod.fst := by
      by_contra hmp
      rw [(h.mptopmp_eq_none_iff mp).mpr hmp] at hold
      cases hold
    rw [instancesStep]
    refine ⟨?_, ?_, h.distinct.sublist (List.filter_sublist.map _)⟩
    · have hfilter := congrArg (List.filter fun m => m.1 ≠ mp) h.names
      rw [List.filter_map, List.filter_map] at hfilter
      rw [hmounts]
      exact hfilter
    · have hlen := length_filter_key h.distinct hmp
      rw [hcount, h.count]
      omega
  | same hmount hunmount hmounts hcount =>
    rw [h.instancesStep_same hmount hunmount]
    exact ⟨hmounts ▸ h.names, hcount ▸ h.count, h.distinct⟩

end NamedAfter

theorem namedAfter_run {ops : List MountOp} {s : MountState}
    (h : run mountStep .load ops = some s) : NamedAfter s (instances ops) := by
  induction ops using List.reverseRecOn generalizing s with
  | nil =>
    cases h
    exact ⟨rfl, rfl, List.nodup_nil⟩
  | append_singleton ops op ih =>
    rw [run_concat, Option.bind_eq_some_iff] at h
    have ⟨s₀, hs₀, hstep⟩ := h
    rw [instances_concat]
    exact (ih hs₀).step (mountStep_mounts hstep)

def NamesDistinct (s : MountState) : Prop := (s.mounts.map fun m => m.2.mntfromname).Nodup

/-- Each mount of the history that adds an instance finds none mounted that was itself added
when as many instances were mounted. -/
def NumbersFree (ops : List MountOp) : Prop :=
  ∀ k s mp ncpu, run mountStep .load (ops.take k) = some s →
    ops[k]? = some (.mount mp true ncpu) → mptopmp s mp = none →
      ∀ m ∈ instances (ops.take k), m.2 ≠ (instances (ops.take k)).length

theorem NamedAfter.name_mem_iff {s : MountState} {l : List (ℕ × ℕ)} (h : NamedAfter s l) :
    mntfromname (s.mountedInstanceCount + 1) ∈ s.mounts.map (fun m => m.2.mntfromname) ↔
      ∃ m ∈ l, m.2 = l.length := by
  have hnames := congrArg (List.map Prod.snd) h.names
  rw [List.map_map, List.map_map] at hnames
  have hmem : mntfromname (s.mountedInstanceCount + 1) ∈ s.mounts.map (fun m => m.2.mntfromname) ↔
      mntfromname (s.mountedInstanceCount + 1) ∈ l.map fun m => mntfromname (m.2 + 1 : ℕ) :=
    iff_of_eq (congrArg (_ ∈ ·) hnames)
  rw [hmem, List.mem_map, h.count]
  constructor
  · intro ⟨m, hm, heq⟩
    exact ⟨m, hm, mntfromname_inj heq⟩
  · intro ⟨m, hm, heq⟩
    exact ⟨m, hm, by rw [heq]; rfl⟩

/-- A step keeps the names distinct unless it mounts an instance under a name in use. -/
theorem NamesDistinct.step {s s' : MountState} {op : MountOp} (h : NamesDistinct s)
    (hstep : MountsStep s s' op)
    (hfree : ∀ mp ncpu, op = .mount mp true ncpu → mptopmp s mp = none →
      mntfromname (s.mountedInstanceCount + 1) ∉ s.mounts.map fun m => m.2.mntfromname) :
    NamesDistinct s' := by
  cases hstep with
  | mounted hnew hname hmounts =>
    rw [NamesDistinct, hmounts, List.map_cons, List.nodup_cons, hname]
    exact ⟨hfree _ _ rfl hnew, h⟩
  | unmounted _ hmounts =>
    rw [NamesDistinct, hmounts]
    exact h.sublist (List.filter_sublist.map _)
  | same _ _ hmounts =>
    rw [NamesDistinct, hmounts]
    exact h

/-- Along a history of mounts, unmounts and lookups the mounted instances always have
different names exactly if no mount meets an instance with its own number. -/
theorem mount_names_distinct_iff (ops : List MountOp) :
    (∀ s, Reached mountStep .load ops s → NamesDistinct s) ↔ NumbersFree ops := by
  constructor
  · intro h k s mp ncpu hs hop hnew m hm heq
    have hafter := namedAfter_run hs
    have htaken : StepTaken mountStep .load ops s (.mount mp true ncpu) _ := ⟨k, hs, hop, rfl⟩
    have hdistinct := h _ htaken.reached_next
    rw [NamesDistinct, sysfsMount, hnew] at hdistinct
    exact (List.nodup_cons.mp hdistinct).1 (hafter.name_mem_iff.mpr ⟨m, hm, heq⟩)
  · intro h s hs
    have hload : NamesDistinct .load := List.nodup_nil
    refine invariant_along hload ?_ hs
    intro s op s' ⟨k, hk, hop, hstep⟩ hdistinct
    refine hdistinct.step (mountStep_mounts hstep) fun mp ncpu heq hnew hmem => ?_
    have ⟨m, hm, hnum⟩ := (namedAfter_run hk).name_mem_iff.mp hmem
    exact h k s mp ncpu hk (heq ▸ hop) hnew m hm hnum

/-- With two instances mounted, the first is unmounted and a third one mounted. -/
def thirdAfterUnmount : List MountOp :=
  [.mount 1 true 1, .mount 2 true 1, .unmount 1, .mount 3 true 1]

/-- The third instance gets the name of the second one. -/
theorem third_mount_takes_name :
    ∃ s, run mountStep .load thirdAfterUnmount = some s ∧
      s.mounts.map (fun m => (m.1, m.2.mntfromname)) = [(3, cstr "sys2"), (2, cstr "sys2")] := by
  have hrun : (run mountStep .load thirdAfterUnmount).any (fun s =>
      s.mounts.map (fun m => (m.1, m.2.mntfromname)) = [(3, cstr "sys2"), (2, cstr "sys2")]) =
        true := by decide +kernel
  have ⟨s, hs, hnames⟩ := (Option.any_eq_true _ _).mp hrun
  exact ⟨s, hs, of_decide_eq_true hnames⟩

end SysFS
