import SysFS.RefreshFresh
import SysFS.RefreshMemory

namespace SysFS
open Transition

def RefreshPc.inBuild : RefreshPc → Bool
  | counting _ _ | sized _ _ | walking _ _ _ | publishing _ _ _ => true
  | _ => false

theorem RefreshPc.pends_of_inBuild {pc : RefreshPc} (h : pc.inBuild) : pc.pends := by
  cases pc <;> first | rfl | cases h

structure Estimate (n : ℕ) (s : RefreshState) : Prop where
  last : s.lastNodeCount = n
  idle : ∀ t, (s.threads t).inBuild = false

section Steps

variable {s s' : RefreshState} {n t : ℕ}

theorem Estimate.setPc {pc : RefreshPc} (h : Estimate n s) (hpc : pc.inBuild = false)
    (hthreads : s'.threads = Function.update s.threads t pc)
    (hlast : s'.lastNodeCount = s.lastNodeCount) : Estimate n s' where
  last := hlast.trans h.last
  idle := by
    rw [hthreads]
    exact (Function.forall_update_iff s.threads fun _ pc => pc.inBuild = false).mpr
      ⟨hpc, fun u _ => h.idle u⟩

theorem Estimate.step {op : RefreshOp} (h : Estimate n s) (hs : RefreshStep s op s')
    (hsize : ∀ u allocated, op ≠ .size u allocated) (hclear : op ≠ .clear) : Estimate n s' := by
  have hbusy : ∀ u pc, s.threads u = pc → pc.inBuild = true → False := by
    intro u pc hu hpc
    have := h.idle u
    rw [hu, hpc] at this
    cases this
  cases hs with
  | mutate | tick | drain | freeCall => exact ⟨h.last, h.idle⟩
  | ensure | enter | start | prime | sample | free => exact h.setPc rfl rfl rfl
  | @check t gen =>
    have ⟨_, _, pc, heq, hpc⟩ := s.ensureCheck_eq t gen
    rw [heq]
    rcases hpc with rfl | rfl
    · exact h.setPc rfl rfl rfl
    · exact h.setPc rfl rfl rfl
  | @primeLock t =>
    have ⟨_, pc, heq, hpc⟩ := s.primeCheck_eq t
    rw [heq]
    rcases hpc with rfl | rfl
    · exact h.setPc rfl rfl rfl
    · exact h.setPc rfl rfl rfl
  | size ht allocated => exact absurd rfl (hsize _ allocated)
  | count ht => exact (hbusy _ _ ht rfl).elim
  | walk ht => exact (hbusy _ _ ht rfl).elim
  | walkEnd ht => exact (hbusy _ _ ht rfl).elim
  | publish ht => exact (hbusy _ _ ht rfl).elim
  | teardown =>
    have ⟨_, _, heq⟩ := s.startTeardown_eq
    rw [heq]
    exact ⟨h.last, h.idle⟩
  | clear => exact absurd rfl hclear

theorem estimate_publish {gen walked : ℕ} {snap : Snapshot} (h : SingleInv s)
    (ht : s.threads t = .publishing gen walked (some snap)) :
    Estimate snap.nodeCount (s.publish t gen (some snap)) where
  last := rfl
  idle := by
    refine (Function.forall_update_iff s.threads fun _ pc => pc.inBuild = false).mpr
      ⟨rfl, fun u hu => ?_⟩
    cases hb : (s.threads u).inBuild with
    | false => rfl
    | true =>
      have hpends : (s.threads t).pends := by
        rw [ht]
        rfl
      exact absurd (h.unique u t (RefreshPc.pends_of_inBuild hb) hpends) hu

theorem publishing_stays {gen walked : ℕ} {newSnap : Option Snapshot} {op : RefreshOp}
    (ht : s.threads t = .publishing gen walked newSnap) (hop : op ≠ .publish t)
    (hs : RefreshStep s op s') : s'.threads t = .publishing gen walked newSnap := by
  have hne : ∀ {u pc pc'}, s.threads u = pc' → pc' ≠ .publishing gen walked newSnap →
      Function.update s.threads u pc t = .publishing gen walked newSnap := by
    intro u pc pc' hu hpc
    rw [Function.update_of_ne, ht]
    rintro rfl
    exact hpc (hu.symm.trans ht)
  cases hs with
  | mutate | tick | drain | freeCall => exact ht
  | ensure hu | enter hu | start hu | prime hu | sample hu | free hu | count hu | walk hu
  | walkEnd hu => exact hne hu nofun
  | @check u gen' hu =>
    have ⟨_, _, pc, heq, _⟩ := s.ensureCheck_eq u gen'
    rw [heq]
    exact hne hu nofun
  | @primeLock u hu =>
    have ⟨_, pc, heq, _⟩ := s.primeCheck_eq u
    rw [heq]
    exact hne hu nofun
  | @size u gen' hu allocated =>
    have ⟨pc, heq, _⟩ := s.buildSize_eq u gen' allocated
    rw [heq]
    exact hne hu nofun
  | @publish u gen' _ newSnap' hu =>
    have hut : t ≠ u := fun heq => hop (by rw [heq])
    have ⟨old, hold⟩ := s.publish_threads u gen' newSnap'
    rw [hold, Function.update_of_ne hut, ht]
  | teardown =>
    have ⟨_, _, heq⟩ := s.startTeardown_eq
    rw [heq]
    exact ht
  | clear => rw [s.clear_threads, ht]

end Steps

def SizedPc : RefreshPc → Prop
  | .sized _ cap | .walking _ cap _ => 0 < cap ∧ cap ≤ sysfsIokitMaxnodes
  | _ => True

theorem sizedPc_step {s s' : RefreshState} {op : RefreshOp} (h : ∀ t, SizedPc (s.threads t))
    (hs : RefreshStep s op s') : ∀ t, SizedPc (s'.threads t) := by
  have hset : ∀ {u pc}, SizedPc pc → ∀ t, SizedPc (Function.update s.threads u pc t) := by
    intro u pc hpc
    exact (Function.forall_update_iff s.threads fun _ pc => SizedPc pc).mpr
      ⟨hpc, fun t _ => h t⟩
  cases hs with
  | mutate | tick | drain | freeCall => exact h
  | ensure | enter | start | prime | sample | free | walkEnd => exact hset trivial
  | count => exact hset ⟨buildCap_pos _, buildCap_le _⟩
  | @walk t gen cap ht =>
    have hcap := h t
    rw [ht] at hcap
    exact hset hcap
  | @check u gen =>
    have ⟨_, _, pc, heq, hpc⟩ := s.ensureCheck_eq u gen
    rw [heq]
    rcases hpc with rfl | rfl
    · exact hset trivial
    · exact hset trivial
  | @primeLock u =>
    have ⟨_, pc, heq, hpc⟩ := s.primeCheck_eq u
    rw [heq]
    rcases hpc with rfl | rfl
    · exact hset trivial
    · exact hset trivial
  | @size u gen _ allocated =>
    have ⟨pc, heq, hpc⟩ := s.buildSize_eq u gen allocated
    rw [heq]
    rcases hpc with rfl | rfl | rfl
    · exact hset trivial
    · exact hset ⟨buildCap_pos _, buildCap_le _⟩
    · exact hset trivial
  | @publish u gen _ newSnap =>
    have ⟨old, hold⟩ := s.publish_threads u gen newSnap
    rw [hold]
    exact hset trivial
  | teardown =>
    have ⟨_, _, heq⟩ := s.startTeardown_eq
    rw [heq]
    exact h
  | clear =>
    rw [s.clear_threads]
    exact h

theorem grows_enough_iff {cap : ℕ} (hcap : cap < sysfsIokitMaxnodes) :
    min (2 * cap) sysfsIokitMaxnodes ≤ buildCap cap ↔ cap ≤ 86 ∨ 13056 ≤ cap := by
  rw [buildCap]
  unfold sysfsIokitMaxnodes at hcap ⊢
  omega

theorem built_nodeCount_le {cap lastNodeCount : ℕ} {inp : BuildInput} {snap : Snapshot}
    (hpos : 0 < cap) (hcap : cap ≤ sysfsIokitMaxnodes)
    (h : (snapBuildSized cap lastNodeCount inp).1 = some snap) : snap.nodeCount ≤ cap := by
  rw [snapBuildSized] at h
  split at h
  · cases h
  · obtain ⟨es, hrec, _⟩ := snapWalk_spec hpos hcap inp.yields
    have hb := congrArg List.length (hrec.snapFinish_built hcap h).entries
    have hr := congrArg List.length hrec.nodes
    rw [List.length_map] at hb
    have hfits := hrec.fits
    rw [Snapshot.nodeCount] at hfits ⊢
    omega

section Runs

variable {lock refreshCall : Bool} {registry : List RegEntry} {before mid later : List RefreshOp}
  {s s₁ s₂ s₃ : RefreshState} {t u gen cap start : ℕ} {inp : BuildInput} {snap : Snapshot}

theorem refresh_reached {labels : List RefreshOp}
    (h : Reached refreshStep (.init lock refreshCall registry) labels s) :
    SingleInv s ∧ ∀ t, SizedPc (s.threads t) := by
  refine invariant_along (P := fun s => SingleInv s ∧ ∀ t, SizedPc (s.threads t))
    ⟨singleInv_init .., fun _ => trivial⟩ (fun s op s' htaken hinv => ?_) h
  have hstep := htaken.step_eq
  exact ⟨singleInv_step hinv.1 hstep, sizedPc_step hinv.2 (refreshStep_spec hstep)⟩

/-- A build with capacity `cap` fills its table, its snapshot is published, and the next
build that begins is sized: it has the promised room, twice as much or the maximum, exactly
if `cap` is at most 86 or at least 13056. -/
theorem doubled_after_full_iff
    (hbefore : run refreshStep (.init lock refreshCall registry) before = some s)
    (hwalk : s.threads t = .walking gen cap start) (hcap : cap < sysfsIokitMaxnodes)
    (hbuilt : (snapBuildSized cap s.lastNodeCount { inp with uptime := s.clock }).1 = some snap)
    (hfull : cap ≤ snap.nodeCount)
    (hmid : run refreshStep s (.walkEnd t inp :: mid) = some s₁) (hsame : .publish t ∉ mid)
    (hlater : run refreshStep s₁ (.publish t :: later) = some s₂)
    (hnext : ∀ op ∈ later, op ≠ .clear ∧ ∀ v allocated, op ≠ .size v allocated)
    (hsize : refreshStep s₂ (.size u true) = some s₃) :
    ∃ gen' cap', s₃.threads u = .sized gen' cap' ∧
      (min (2 * cap) sysfsIokitMaxnodes ≤ cap' ↔ cap ≤ 86 ∨ 13056 ≤ cap) := by
  obtain ⟨hsingle, hsized⟩ := refresh_reached (reached_of_run hbefore)
  have hpos := hsized t
  rw [hwalk] at hpos
  have hcount : snap.nodeCount = cap :=
    le_antisymm (built_nodeCount_le hpos.1 hpos.2 hbuilt) hfull
  -- the thread keeps the snapshot until it publishes it
  rw [run, Option.bind_eq_some_iff] at hmid
  obtain ⟨w, hw, hrun⟩ := hmid
  have hpublishing : SingleInv s₁ ∧ s₁.threads t = .publishing gen s.generation (some snap) := by
    refine invariant_along (P := fun r => SingleInv r ∧
      r.threads t = .publishing gen s.generation (some snap)) ?_ ?_ (reached_of_run hrun)
    · refine ⟨singleInv_step hsingle hw, ?_⟩
      rw [refreshStep, hwalk] at hw
      cases hw
      rw [RefreshState.buildWalked, hbuilt]
      exact Function.update_self ..
    · intro r op r' htaken hr
      refine ⟨singleInv_step hr.1 htaken.step_eq, ?_⟩
      exact publishing_stays hr.2 (fun hop => hsame (hop ▸ htaken.mem))
        (refreshStep_spec htaken.step_eq)
  -- then the estimate is its number of nodes
  rw [run, Option.bind_eq_some_iff] at hlater
  obtain ⟨v, hv, hrun'⟩ := hlater
  have hestimate : Estimate cap s₂ := by
    refine invariant_along (P := Estimate cap) ?_ ?_ (reached_of_run hrun')
    · rw [refreshStep, hpublishing.2, Option.ite_none_right_eq_some] at hv
      rw [← Option.some_inj.mp hv.2, ← hcount]
      exact estimate_publish hpublishing.1 hpublishing.2
    · intro r op r' htaken hr
      obtain ⟨hclear, hsize⟩ := hnext op htaken.mem
      exact hr.step (refreshStep_spec htaken.step_eq) hsize hclear
  cases refreshStep_spec hsize with
  | @size _ gen' hu _ =>
    refine ⟨gen', buildCap cap, ?_, grows_enough_iff hcap⟩
    rw [RefreshState.buildSize, hestimate.last, if_neg (by decide), if_pos hpos.1.ne']
    exact Function.update_self ..

end Runs

def entriesTo (n : ℕ) : List RegEntry :=
  (List.range n).map fun i => { regid := (i + 1).toUInt64, name := some (CString.cstr "usb") }

/-- A build at mount time for which `counted` entries were counted, up to its walk. -/
def countedBuild (counted : ℕ) : List RefreshOp :=
  [.prime 0, .primeLock 0, .sample 0, .size 0 true, .count 0 (some (entriesTo counted)), .walk 0]

def hundredMet : BuildInput := { yields := some (entriesTo 100), kexts := none, uptime := 0 }

def nextBuild : List RefreshOp :=
  [.free 0, .tick sysfsSnapMinRebuildNs, .mutate (entriesTo 100), .ensure 1, .check 1, .enter 1,
    .start 2, .sample 2]

/-- The capacity of a build that meets 100 entries, the nodes it records, and the capacity of
the next build. -/
def capacities (counted : ℕ) : Option (ℕ × ℕ × ℕ) := do
  let s ← run refreshStep (.init true true []) (countedBuild counted)
  let s₁ ← refreshStep s (.walkEnd 0 hundredMet)
  let s₂ ← run refreshStep s₁ (.publish 0 :: nextBuild)
  let s₃ ← refreshStep s₂ (.size 2 true)
  match s.threads 0, s₁.threads 0, s₃.threads 2 with
  | .walking _ cap _, .publishing _ _ (some snap), .sized _ cap' =>
    some (cap, snap.nodeCount, cap')
  | _, _, _ => none

structure FullRun (counted cap cap' : ℕ) (s s₁ s₂ s₃ : RefreshState) (snap : Snapshot) :
    Prop where
  before : run refreshStep (.init true true []) (countedBuild counted) = some s
  walking : ∃ gen start, s.threads 0 = .walking gen cap start
  built : (snapBuildSized cap s.lastNodeCount { hundredMet with uptime := s.clock }).1 = some snap
  walked : run refreshStep s [.walkEnd 0 hundredMet] = some s₁
  later : run refreshStep s₁ (.publish 0 :: nextBuild) = some s₂
  size : refreshStep s₂ (.size 2 true) = some s₃
  sized : ∃ gen, s₃.threads 2 = .sized gen cap'

theorem fullRun_of_capacities {counted cap count cap' : ℕ}
    (h : capacities counted = some (cap, count, cap')) :
    ∃ s s₁ s₂ s₃ snap, FullRun counted cap cap' s s₁ s₂ s₃ snap ∧ snap.nodeCount = count := by
  simp only [capacities, Option.bind_eq_bind, Option.bind_eq_some_iff] at h
  have ⟨s, hs, s₁, hs₁, s₂, hs₂, s₃, hs₃, h⟩ := h
  split at h
  · next gen cap start gen' walked snap gen'' cap' hwalk hpub hsized =>
    cases h
    refine ⟨s, s₁, s₂, s₃, snap, ⟨hs, ⟨_, _, hwalk⟩, ?_, ?_, hs₂, hs₃, ⟨_, hsized⟩⟩, rfl⟩
    · rw [refreshStep, hwalk] at hs₁
      cases hs₁
      simp only [RefreshState.buildWalked, RefreshState.setPc, Function.update_self] at hpub
      exact (RefreshPc.publishing.inj hpub).2.2
    · rw [run, hs₁]
      rfl
  · cases h

theorem capacities_eq :
    capacities 20 = some (90, 90, 177) ∧ capacities 0 = some (65, 65, 146) := by
  decide +kernel

/-- After a build with room for 90 nodes was full, the next one has room for 177. -/
theorem ninety_not_doubled :
    ∃ s s₁ s₂ s₃ snap, FullRun 20 90 177 s s₁ s₂ s₃ snap ∧ snap.nodeCount = 90 ∧
      177 < min (2 * 90) sysfsIokitMaxnodes := by
  have ⟨s, s₁, s₂, s₃, snap, hrun, hcount⟩ := fullRun_of_capacities capacities_eq.1
  exact ⟨s, s₁, s₂, s₃, snap, hrun, hcount, by decide⟩

theorem sixtyFive_doubled :
    ∃ s s₁ s₂ s₃ snap, FullRun 0 65 146 s s₁ s₂ s₃ snap ∧ snap.nodeCount = 65 ∧
      ∃ gen cap', s₃.threads 2 = .sized gen cap' ∧ min (2 * 65) sysfsIokitMaxnodes ≤ cap' := by
  have ⟨s, s₁, s₂, s₃, snap, hrun, hcount⟩ := fullRun_of_capacities capacities_eq.2
  have ⟨gen, start, hwalk⟩ := hrun.walking
  have hnext : ∀ op ∈ nextBuild, op ≠ .clear ∧ ∀ v allocated, op ≠ .size v allocated := by
    intro op hop
    simp only [nextBuild, List.mem_cons, List.not_mem_nil, or_false] at hop
    rcases hop with rfl | rfl | rfl | rfl | rfl | rfl | rfl | rfl <;> exact ⟨nofun, nofun⟩
  have ⟨gen', cap', hsized, hiff⟩ := doubled_after_full_iff hrun.before hwalk (by decide) hrun.built
    hcount.ge hrun.walked nofun hrun.later hnext hrun.size
  exact ⟨s, s₁, s₂, s₃, snap, hrun, hcount, gen', cap', hsized, hiff.mpr (by decide)⟩

end SysFS
