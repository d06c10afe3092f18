import SysFS.RefreshDrain

namespace SysFS
open Transition

/-- In a walk of the registry, of the counting pass or of the build. -/
def RefreshPc.walks : RefreshPc → Bool
  | counting _ _ | walking _ _ _ => true
  | _ => false

theorem RefreshPc.pends_of_walks {pc : RefreshPc} (h : pc.walks) : pc.pends := by
  cases pc with
  | counting | walking => rfl
  | _ => cases h

def BeginsWalk (s s' : RefreshState) : Prop :=
  ∃ t, (s.threads t).walks = false ∧ (s'.threads t).walks = true

/-- The step publishes a snapshot. -/
def Publishes (s : RefreshState) (op : RefreshOp) : Prop :=
  ∃ t gen walked snap, op = .publish t ∧ s.threads t = .publishing gen walked (some snap)

structure SameBuild (s s' : RefreshState) : Prop where
  snapshot : s'.snapshot = s.snapshot
  snapGen : s'.snapGen = s.snapGen
  snapGenValid : s'.snapGenValid = s.snapGenValid
  lastBuildUptime : s'.lastBuildUptime = s.lastBuildUptime
  lastBuildValid : s'.lastBuildValid = s.lastBuildValid
  lock : s'.lock = s.lock
  clock : s.clock ≤ s'.clock

/-- How a step changes the published snapshot and `g_building`. -/
inductive BuildEffect (s : RefreshState) (op : RefreshOp) (s' : RefreshState) : Prop where
  | same (h : SameBuild s s') (hb : s'.building = s.building) (hno : ¬Publishes s op)
  | scheduled {t gen : ℕ} (hop : op = .check t) (ht : s.threads t = .ensureSampled gen)
      (h : SameBuild s s') (hold : s.building = false) (hb : s'.building = true)
      (hcurrent : s.current gen = false) (hrecent : s.builtRecently = false)
  | primed {t : ℕ} (hop : op = .primeLock t) (h : SameBuild s s') (hnone : s.snapshot = none)
  | failed (h : SameBuild s s') (hb : s'.building = false) (hno : ¬Publishes s op)
  | published {t gen walked : ℕ} {snap : Snapshot} (hop : op = .publish t)
      (ht : s.threads t = .publishing gen walked (some snap)) (hgen : s'.snapGen = gen)
      (hb : s'.building = false) (hsnap : s'.snapshot = some snap)
      (hvalid : s'.snapGenValid = true ∧ s'.lastBuildValid = true)
      (huptime : s'.lastBuildUptime = s.clock) (hclock : s'.clock = s.clock)
      (hlock : s'.lock = s.lock)
      (hold : s.lock = true)
  | cleared (hop : op = .clear) (hsnap : s'.snapshot = none) (hb : s'.building = false)
      (hlock : s'.lock = false) (hclock : s'.clock = s.clock)

theorem sameBuild_setPc (s : RefreshState) (t : ℕ) (pc : RefreshPc) : SameBuild s (s.setPc t pc) :=
  ⟨rfl, rfl, rfl, rfl, rfl, rfl, le_refl _⟩

theorem not_publishes {s : RefreshState} {op : RefreshOp} (h : ∀ t, op ≠ .publish t) :
    ¬Publishes s op := fun ⟨t, _, _, _, hop, _⟩ => h t hop

theorem buildEffect_setPc {s : RefreshState} {op : RefreshOp} (h : ∀ t, op ≠ .publish t) (t : ℕ)
    (pc : RefreshPc) : BuildEffect s op (s.setPc t pc) :=
  .same (sameBuild_setPc s t pc) rfl (not_publishes h)

theorem buildEffect_check {s : RefreshState} {t gen : ℕ} (ht : s.threads t = .ensureSampled gen) :
    BuildEffect s (.check t) (s.ensureCheck t gen) := by
  rw [RefreshState.ensureCheck]
  split
  · exact buildEffect_setPc (by simp) ..
  · next hcurrent =>
    split
    · exact buildEffect_setPc (by simp) ..
    · next hrecent =>
      split
      · next hfree =>
        simp only [Bool.and_eq_true, Bool.not_eq_true'] at hfree
        simp only [Bool.or_eq_true, not_or, Bool.not_eq_true] at hcurrent
        exact .scheduled rfl ht ⟨rfl, rfl, rfl, rfl, rfl, rfl, le_refl _⟩ hfree.1.2 rfl hcurrent.1
          (Bool.not_eq_true _ ▸ hrecent)
      · exact buildEffect_setPc (by simp) ..

theorem buildEffect_prime (s : RefreshState) (t : ℕ) :
    BuildEffect s (.primeLock t) (s.primeCheck t) := by
  rw [RefreshState.primeCheck]
  split
  · exact buildEffect_setPc (by simp) ..
  · next hfree =>
    simp only [Bool.or_eq_true, not_or, Bool.not_eq_true] at hfree
    exact .primed rfl ⟨rfl, rfl, rfl, rfl, rfl, rfl, le_refl _⟩
      (Option.isNone_iff_eq_none.mp (Option.isSome_eq_false_iff.mp hfree.1))

theorem buildEffect_publish {s : RefreshState} {t gen walked : ℕ} {newSnap : Option Snapshot}
    (ht : s.threads t = .publishing gen walked newSnap) (hlock : s.lock) :
    BuildEffect s (.publish t) (s.publish t gen newSnap) := by
  cases newSnap with
  | none =>
    refine .failed ⟨rfl, rfl, rfl, rfl, rfl, rfl, le_refl _⟩ rfl ?_
    intro ⟨u, gen', walked', snap, hop, hu⟩
    cases hop
    cases ht.symm.trans hu
  | some snap => exact .published rfl ht rfl rfl rfl ⟨rfl, rfl⟩ rfl rfl rfl hlock

theorem buildEffect_clear (s : RefreshState) : BuildEffect s .clear s.clear := by
  rw [RefreshState.clear]
  split
  · exact .cleared rfl rfl rfl rfl rfl
  · exact .same ⟨rfl, rfl, rfl, rfl, rfl, rfl, le_refl _⟩ rfl (not_publishes (by simp))

theorem buildEffect_startTeardown (s : RefreshState) : BuildEffect s .teardown s.startTeardown := by
  rw [RefreshState.startTeardown]
  split
  all_goals exact .same ⟨rfl, rfl, rfl, rfl, rfl, rfl, le_refl _⟩ rfl (not_publishes (by simp))

theorem buildEffect_step {s s' : RefreshState} {op : RefreshOp} (hs : RefreshStep s op s') :
    BuildEffect s op s' := by
  cases hs with
  | mutate | enter | start | walkEnd | drain | freeCall =>
    exact .same ⟨rfl, rfl, rfl, rfl, rfl, rfl, le_refl _⟩ rfl (not_publishes (by simp))
  | tick ns =>
    exact .same ⟨rfl, rfl, rfl, rfl, rfl, rfl, Nat.le_add_right ..⟩ rfl (not_publishes (by simp))
  | ensure | prime | sample | count | walk | free => exact buildEffect_setPc (by simp) ..
  | check ht _ => exact buildEffect_check ht
  | primeLock => exact buildEffect_prime ..
  | size ht allocated =>
    rw [RefreshState.buildSize]
    repeat' split
    all_goals exact buildEffect_setPc (by simp) ..
  | publish ht hlock => exact buildEffect_publish ht hlock
  | teardown => exact buildEffect_startTeardown s
  | clear => exact buildEffect_clear s

section History

variable (s₀ : RefreshState) (ops : List RefreshOp)

def At (k : ℕ) (s : RefreshState) : Prop := run refreshStep s₀ (ops.take k) = some s

/-- After `i` steps of the run thread `t`, in `sysfs_snap_ensure` with the sampled generation
`gen`, set `g_building`, and until `j` steps it stayed set and the published snapshot the
same. -/
structure Schedules (i j : ℕ) (p : RefreshState) (t gen : ℕ) : Prop where
  here : At s₀ ops i p
  check : ops[i]? = some (.check t)
  sampled : p.threads t = .ensureSampled gen
  free : p.building = false
  kept : ∀ m s, i < m → m ≤ j → At s₀ ops m s → s.building = true ∧ s.snapshot = p.snapshot ∧
    s.snapGen = p.snapGen

/-- What is known after `k` steps: a published snapshot is not older than any publication, and
a refresh that remains with a snapshot published was scheduled for it. -/
structure ThrottleInv (k : ℕ) (s : RefreshState) : Prop where
  valid : s.snapshot.isSome → s.snapGenValid = true ∧ s.lastBuildValid = true
  unlocked : s.lock = false → s.snapshot = none
  uptime : ∀ i p op, i < k → At s₀ ops i p → ops[i]? = some op → Publishes p op →
    p.clock ≤ s.clock ∧ (s.snapshot.isSome → p.clock ≤ s.lastBuildUptime)
  scheduled : s.building = true → s.snapshot.isSome → ∃ i p t gen, i < k ∧
    Schedules s₀ ops i k p t gen ∧ gen ≠ p.snapGen ∧
      s.lastBuildUptime + sysfsSnapMinRebuildNs ≤ s.clock

variable {s₀ : RefreshState} {ops : List RefreshOp} {k : ℕ} {s s' : RefreshState} {op : RefreshOp}

theorem At.unique {m : ℕ} {p q : RefreshState} (hp : At s₀ ops m p) (hq : At s₀ ops m q) : p = q :=
  Option.some_inj.mp (hp.symm.trans hq)

theorem At.succ (hop : ops[k]? = some op) (h : At s₀ ops (k + 1) s') :
    ∃ s, At s₀ ops k s ∧ refreshStep s op = some s' := by
  rw [At, List.take_add_one, hop, Option.toList_some, run_concat, Option.bind_eq_some_iff] at h
  exact h

/-- A step that keeps the snapshot and `g_building` keeps what scheduled the refresh. -/
theorem Schedules.extend {i t gen : ℕ} {p : RefreshState} (h : Schedules s₀ ops i k p t gen)
    (hik : i < k) (hs : At s₀ ops k s) (hs' : At s₀ ops (k + 1) s') (hsame : SameBuild s s')
    (hb : s'.building = s.building) : Schedules s₀ ops i (k + 1) p t gen := by
  refine ⟨h.here, h.check, h.sampled, h.free, fun m q him hmk hq => ?_⟩
  by_cases hm : m = k + 1
  · rw [hm] at hq
    have ⟨hbuild, hsnap, hgen⟩ := h.kept k s hik (le_refl k) hs
    rw [hq.unique hs', hb, hsame.snapshot, hsame.snapGen]
    exact ⟨hbuild, hsnap, hgen⟩
  · exact h.kept m q him (by omega) hq

theorem published_before (hs : At s₀ ops k s) (hop : ops[k]? = some op) (hno : ¬Publishes s op)
    {i : ℕ} {p : RefreshState} {op' : RefreshOp} (hi : i < k + 1) (hp : At s₀ ops i p)
    (hop' : ops[i]? = some op') (hpub : Publishes p op') : i < k := by
  refine Nat.lt_of_le_of_ne (Nat.le_of_lt_succ hi) fun heq => ?_
  rw [heq] at hp hop'
  rw [hp.unique hs, Option.some_inj.mp (hop'.symm.trans hop)] at hpub
  exact hno hpub

section Steps

variable (h : ThrottleInv s₀ ops k s) (hs : At s₀ ops k s) (hop : ops[k]? = some op)
include h hs hop

theorem ThrottleInv.uptime_same (hsame : SameBuild s s') (hno : ¬Publishes s op) {i : ℕ}
    {p : RefreshState} {op' : RefreshOp} (hi : i < k + 1) (hp : At s₀ ops i p)
    (hop' : ops[i]? = some op') (hpub : Publishes p op') :
    p.clock ≤ s'.clock ∧ (s'.snapshot.isSome → p.clock ≤ s'.lastBuildUptime) := by
  have hik := published_before hs hop hno hi hp hop' hpub
  have ⟨hclock, hlast⟩ := h.uptime i p op' hik hp hop' hpub
  rw [hsame.snapshot, hsame.lastBuildUptime]
  exact ⟨hclock.trans hsame.clock, hlast⟩

theorem ThrottleInv.no_snapshot (hnone : s'.snapshot = none) (hclock : s.clock ≤ s'.clock)
    (hno : ¬Publishes s op) : ThrottleInv s₀ ops (k + 1) s' := by
  have hfalse : ¬s'.snapshot.isSome := by
    rw [hnone]
    nofun
  refine ⟨fun hsome => absurd hsome hfalse, fun _ => hnone, ?_, fun _ hsome => absurd hsome hfalse⟩
  intro i p op' hi hp hop' hpub
  have hik := published_before hs hop hno hi hp hop' hpub
  exact ⟨(h.uptime i p op' hik hp hop' hpub).1.trans hclock, fun hsome => absurd hsome hfalse⟩

variable (hs' : At s₀ ops (k + 1) s')
include hs'

theorem ThrottleInv.same (hsame : SameBuild s s') (hno : ¬Publishes s op)
    (hb : s'.building = s.building ∨ s'.building = false) : ThrottleInv s₀ ops (k + 1) s' := by
  refine ⟨?_, ?_, fun i p op' hi hp hop' => h.uptime_same hs hop hsame hno hi hp hop', ?_⟩
  · rw [hsame.snapshot, hsame.snapGenValid, hsame.lastBuildValid]
    exact h.valid
  · rw [hsame.lock, hsame.snapshot]
    exact h.unlocked
  · intro hbuild hsome
    rcases hb with hb | hb
    · rw [hb] at hbuild
      rw [hsame.snapshot] at hsome
      have ⟨i, p, t, gen, hik, hsched, hgen, hlast⟩ := h.scheduled hbuild hsome
      refine ⟨i, p, t, gen, by omega, hsched.extend hik hs hs' hsame hb, hgen, ?_⟩
      rw [hsame.lastBuildUptime]
      exact hlast.trans hsame.clock
    · rw [hb] at hbuild
      cases hbuild

theorem ThrottleInv.scheduled_now {t gen : ℕ} (hcheck : op = .check t)
    (ht : s.threads t = .ensureSampled gen) (hsame : SameBuild s s') (hold : s.building = false)
    (hb : s'.building = true) (hcurrent : s.current gen = false)
    (hrecent : s.builtRecently = false) : ThrottleInv s₀ ops (k + 1) s' := by
  have hno : ¬Publishes s op := by
    rw [hcheck]
    exact not_publishes (by nofun)
  refine ⟨?_, ?_, fun i p op' hi hp hop' => h.uptime_same hs hop hsame hno hi hp hop', ?_⟩
  · rw [hsame.snapshot, hsame.snapGenValid, hsame.lastBuildValid]
    exact h.valid
  · rw [hsame.lock, hsame.snapshot]
    exact h.unlocked
  · intro _ hsome
    rw [hsame.snapshot] at hsome
    have ⟨hgenValid, hlastValid⟩ := h.valid hsome
    refine ⟨k, s, t, gen, Nat.lt_succ_self k, ⟨hs, hcheck ▸ hop, ht, hold, ?_⟩, ?_, ?_⟩
    · intro m q hkm hmk hq
      rw [show m = k + 1 by omega] at hq
      rw [hq.unique hs']
      exact ⟨hb, hsame.snapshot, hsame.snapGen⟩
    · intro heq
      rw [RefreshState.current, hsome, hgenValid, heq] at hcurrent
      simp at hcurrent
    · rw [RefreshState.builtRecently, hsome, hlastValid, Bool.and_self, Bool.true_and,
        decide_eq_false_iff_not] at hrecent
      have hclock := hsame.clock
      rw [hsame.lastBuildUptime]
      rw [sysfsSnapMinRebuildNs] at hrecent ⊢
      omega

theorem ThrottleInv.step (heffect : BuildEffect s op s') : ThrottleInv s₀ ops (k + 1) s' := by
  cases heffect with
  | same hsame hb hno => exact h.same hs hop hs' hsame hno (.inl hb)
  | failed hsame hb hno => exact h.same hs hop hs' hsame hno (.inr hb)
  | scheduled hcheck ht hsame hold hb hcurrent hrecent =>
    exact h.scheduled_now hs hop hs' hcheck ht hsame hold hb hcurrent hrecent
  | primed hprime hsame hnone =>
    refine h.no_snapshot hs hop (hsame.snapshot.trans hnone) hsame.clock ?_
    rw [hprime]
    exact not_publishes (by nofun)
  | cleared hclear hsnap hb hlock hclock =>
    refine h.no_snapshot hs hop hsnap hclock.ge ?_
    rw [hclear]
    exact not_publishes (by nofun)
  | published _ _ _ hb hsnap hvalid huptime hclock hlock hold =>
    refine ⟨fun _ => hvalid, fun hno => ?_, fun i p op' hi hp hop' hpub => ?_, fun hbuild => ?_⟩
    · rw [hlock, hold] at hno
      cases hno
    · have hle : p.clock ≤ s.clock := by
        by_cases heq : i = k
        · rw [heq] at hp
          rw [hp.unique hs]
        · exact (h.uptime i p op' (by omega) hp hop' hpub).1
      rw [hclock, huptime]
      exact ⟨hle, fun _ => hle⟩
    · rw [hb] at hbuild
      cases hbuild

end Steps

theorem throttleInv_at (lock refreshCall : Bool) (registry : List RegEntry) (hk : k ≤ ops.length)
    (hs : At (.init lock refreshCall registry) ops k s) :
    ThrottleInv (.init lock refreshCall registry) ops k s := by
  induction k generalizing s with
  | zero =>
    cases hs
    exact ⟨nofun, fun _ => rfl, fun i p op hi => absurd hi (Nat.not_lt_zero i), nofun⟩
  | succ k ih =>
    have hop : ops[k]? = some ops[k] := List.getElem?_eq_getElem hk
    have ⟨s₁, hs₁, hstep⟩ := hs.succ hop
    exact (ih (by omega) hs₁).step hs₁ hop hs (buildEffect_step (refreshStep_spec hstep))

end History

theorem RefreshStep.begins {s s' : RefreshState} {op : RefreshOp} (hs : RefreshStep s op s')
    {u : ℕ} (hold : (s.threads u).walks = false) (hnew : (s'.threads u).walks = true) :
    (s.threads u).pends = true := by
  have hupdate : ∀ {t pc}, (Function.update s.threads t pc u).walks = true →
      u = t ∧ pc.walks = true := by
    intro t pc h
    by_cases htu : u = t
    · rw [htu, Function.update_self] at h
      exact ⟨htu, h⟩
    · rw [Function.update_of_ne htu, hold] at h
      cases h
  cases hs with
  | mutate | tick | drain | freeCall => cases hold.symm.trans hnew
  | ensure | enter | start | prime | sample | count | walkEnd | free => cases (hupdate hnew).2
  | check ht =>
    rw [RefreshState.ensureCheck] at hnew
    repeat' split at hnew
    all_goals cases (hupdate hnew).2
  | primeLock =>
    rw [RefreshState.primeCheck] at hnew
    split at hnew
    all_goals cases (hupdate hnew).2
  | size ht allocated =>
    rw [RefreshState.buildSize] at hnew
    repeat' split at hnew
    all_goals
      rw [(hupdate hnew).1, ht]
      rfl
  | walk ht =>
    rw [(hupdate hnew).1, ht]
    rfl
  | @publish t gen walked newSnap ht =>
    obtain ⟨old, hthreads⟩ := s.publish_threads t gen newSnap
    rw [hthreads] at hnew
    cases (hupdate hnew).2
  | teardown =>
    rw [RefreshState.startTeardown] at hnew
    split at hnew
    all_goals cases hold.symm.trans hnew
  | clear =>
    rw [RefreshState.clear] at hnew
    split at hnew
    all_goals cases hold.symm.trans hnew

/-- In every run at most one registry walk is in progress at a time, and a walk that begins
while a snapshot is published begins 30 seconds after the publication or later, scheduled by
a call of `sysfs_snap_ensure` that had sampled another generation than the snapshot's. -/
theorem rebuild_throttled (lock refreshCall : Bool) (registry : List RegEntry)
    (ops : List RefreshOp) :
    (∀ s, Reached refreshStep (.init lock refreshCall registry) ops s →
      ∀ t u, (s.threads t).walks → (s.threads u).walks → t = u) ∧
    ∀ j s op s', At (.init lock refreshCall registry) ops j s → ops[j]? = some op →
      refreshStep s op = some s' → BeginsWalk s s' → s.snapshot.isSome →
      (∀ i p op', i < j → At (.init lock refreshCall registry) ops i p → ops[i]? = some op' →
        Publishes p op' → p.clock + sysfsSnapMinRebuildNs ≤ s.clock) ∧
      ∃ i p t gen, i < j ∧ Schedules (.init lock refreshCall registry) ops i j p t gen ∧
        gen ≠ p.snapGen := by
  constructor
  · intro s hs t u ht hu
    exact (singleInv_reached hs).unique t u (RefreshPc.pends_of_walks ht)
      (RefreshPc.pends_of_walks hu)
  · intro j s op s' hs hop hstep ⟨t, hold, hnew⟩ hsome
    have hj : j ≤ ops.length := (List.getElem?_eq_some_iff.mp hop).1.le
    have hinv := throttleInv_at lock refreshCall registry hj hs
    have hsingle : SingleInv s := singleInv_reached ⟨j, hs⟩
    have hpends := (refreshStep_spec hstep).begins hold hnew
    have hbuild : s.building = true := by
      refine (hsingle.owned (.inr ⟨t, hpends⟩)).resolve_right fun hdone => ?_
      rw [hinv.unlocked (hsingle.done hdone)] at hsome
      cases hsome
    have ⟨i, p, u, gen, hi, hsched, hgen, hlast⟩ := hinv.scheduled hbuild hsome
    refine ⟨fun i p op' hi hp hop' hpub => ?_, i, p, u, gen, hi, hsched, hgen⟩
    have hpub := (hinv.uptime i p op' hi hp hop' hpub).2 hsome
    omega

-- 30 seconds after the first snapshot a changed generation brings a second walk
example : (run refreshStep (.init true true []) [.prime 0, .primeLock 0, .sample 0, .size 0 true,
    .count 0 (some []), .walk 0, .walkEnd 0 { yields := some [], kexts := none, uptime := 0 },
    .publish 0, .free 0, .mutate [], .tick 30000000000, .ensure 1, .check 1, .enter 1, .start 2,
    .sample 2, .size 2 true, .walk 2]).any (fun s => (s.threads 2).walks && s.snapshot.isSome) =
      true := by decide +kernel

end SysFS
