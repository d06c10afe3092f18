import Mathlib
import SysFS.Refresh
import SysFS.SnapChildren

namespace SysFS
open Transition

def registryIds (registry : List RegEntry) : Finset UInt64 :=
  (registry.map RegEntry.regid).toFinset.erase 0

/-- The snapshot has every entry of the registry with a non-zero id. -/
def Covers (snap : Snapshot) (registry : List RegEntry) : Prop :=
  ∀ e ∈ registry, e.regid ≠ 0 → ∃ nd ∈ snap.nodes, nd.regid = e.regid

/-- There is an iterator, and it yields the entries of the registry, in any order and any
number of times each. -/
def Yields (yields : Option (List RegEntry)) (registry : List RegEntry) : Prop :=
  ∃ l, yields = some l ∧ ∀ e, e ∈ l ↔ e ∈ registry

theorem mem_registryIds {registry : List RegEntry} {r : UInt64} :
    r ∈ registryIds registry ↔ r ≠ 0 ∧ ∃ e ∈ registry, e.regid = r := by
  rw [registryIds, Finset.mem_erase, List.mem_toFinset, List.mem_map]

theorem card_registryIds_le (registry : List RegEntry) :
    (registryIds registry).card ≤ registry.length := by
  calc (registryIds registry).card
      ≤ (registry.map RegEntry.regid).toFinset.card := Finset.card_erase_le
    _ ≤ (registry.map RegEntry.regid).length := List.toFinset_card_le _
    _ = registry.length := List.length_map _

theorem registryIds_mono {l registry : List RegEntry} (h : ∀ e ∈ l, e ∈ registry) :
    registryIds l ⊆ registryIds registry := by
  intro r hr
  have ⟨hne, e, he, hid⟩ := mem_registryIds.mp hr
  exact mem_registryIds.mpr ⟨hne, e, h e he, hid⟩

theorem Built.covers_of_ids {es : List RegEntry} {snap : Snapshot} (hb : Built es snap)
    {registry : List RegEntry}
    (h : ∀ e ∈ registry, e.regid ≠ 0 → ∃ e' ∈ es, e'.regid = e.regid) : Covers snap registry := by
  intro e he hne
  have ⟨e', he', hid⟩ := h e he hne
  have hmem : e.regid ∈ snap.nodes.map SnapNode.regid := by
    rw [hb.regids, ← hid]
    exact List.mem_cons_of_mem _ (List.mem_map_of_mem he')
  exact List.mem_map.mp hmem

/-- A walk with room for all ids of the registry records them all. -/
theorem covers_of_room {cap lastNodeCount : ℕ} {inp : BuildInput} {snap : Snapshot}
    {registry : List RegEntry} (hpos : 0 < cap) (hcap : cap ≤ sysfsIokitMaxnodes)
    (hy : Yields inp.yields registry) (hroom : (registryIds registry).card < cap)
    (h : (snapBuildSized cap lastNodeCount inp).1 = some snap) : Covers snap registry := by
  have ⟨l, hl, hmem⟩ := hy
  have ⟨es, hb, hsub, hall⟩ := snapBuildSized_built hpos hcap h
  rw [hl, Option.getD_some] at hsub hall
  apply hb.covers_of_ids
  rcases hall with hfull | hall
  · -- the table is full, so it has as many ids as the registry
    have hnodup := hb.regids_nodup
    rw [hb.regids, List.nodup_cons] at hnodup
    have hids : (es.map RegEntry.regid).toFinset ⊆ registryIds registry := by
      intro r hr
      have ⟨e, he, hid⟩ := List.mem_map.mp (List.mem_toFinset.mp hr)
      refine mem_registryIds.mpr ⟨?_, e, (hmem e).mp (hsub.subset he), hid⟩
      intro hzero
      exact hnodup.1 (hzero ▸ List.mem_toFinset.mp hr)
    have hcount : snap.nodeCount = es.length + 1 := by
      simpa [Snapshot.nodeCount] using congrArg List.length hb.regids
    have hcard : (registryIds registry).card ≤ (es.map RegEntry.regid).toFinset.card := by
      rw [List.toFinset_card_of_nodup hnodup.2, List.length_map]
      omega
    have heq := Finset.eq_of_subset_of_card_le hids hcard
    intro e he hne
    have hr := mem_registryIds.mpr ⟨hne, e, he, rfl⟩
    rw [← heq, List.mem_toFinset] at hr
    exact List.mem_map.mp hr
  · intro e he
    exact hall e ((hmem e).mpr he)

theorem room_of_count {yields : Option (List RegEntry)} {registry : List RegEntry}
    (hy : Yields yields registry) (hreg : registry.length ≤ 16383) :
    (registryIds registry).card < buildCap (sysfsCountEntries yields) := by
  have ⟨l, hl, hmem⟩ := hy
  have hle : (registryIds registry).card ≤ l.length :=
    (Finset.card_le_card (registryIds_mono fun e he => (hmem e).mpr he)).trans
      (card_registryIds_le l)
  have hreg' := card_registryIds_le registry
  rw [hl, sysfsCountEntries, buildCap, sysfsIokitMaxnodes]
  omega

/-- What is assumed of the registry and its iterators: at most 16383 entries, and a walk
under which the generation did not change yields the registry. -/
def RegistryOk (s : RefreshState) : RefreshOp → Prop
  | .mutate registry => registry.length ≤ 16383
  | .count t yields => ∀ gen start, s.threads t = .counting gen start → s.generation = start →
    Yields yields s.registry
  | .walkEnd t inp => ∀ gen cap start, s.threads t = .walking gen cap start →
    s.generation = start → Yields inp.yields s.registry
  | _ => True

/-- A build sized from the last node count has room for the registry of the generation it
sampled, and a snapshot whose walk ended in a later generation is not published while a
`sysfs_snap_ensure` is about to compare the same sampled generation. -/
def SizedOk (s : RefreshState) : RefreshOp → Prop
  | .size t _ => ∀ gen, s.threads t = .sizing gen → s.lastNodeCount ≠ 0 → s.generation = gen →
    (registryIds s.registry).card < buildCap s.lastNodeCount
  | .publish t => ∀ gen walked snap, s.threads t = .publishing gen walked (some snap) →
    walked = gen ∨ ∀ u, s.threads u ≠ .ensureSampled gen
  | _ => True

def FreshPc (s : RefreshState) : RefreshPc → Prop
  | .ensureSampled gen => gen ≤ s.generation
  | .sizing gen => gen ≤ s.generation
  | .counting gen start => gen ≤ start ∧ start ≤ s.generation
  | .sized gen cap => gen ≤ s.generation ∧ 0 < cap ∧ cap ≤ sysfsIokitMaxnodes ∧
    (s.generation = gen → (registryIds (s.registryAt gen)).card < cap)
  | .walking gen cap start => gen ≤ start ∧ start ≤ s.generation ∧ 0 < cap ∧
    cap ≤ sysfsIokitMaxnodes ∧
    (s.generation = gen → (registryIds (s.registryAt gen)).card < cap)
  | .publishing gen walked newSnap => gen ≤ walked ∧ walked ≤ s.generation ∧
    (walked = gen → ∀ snap, newSnap = some snap → Covers snap (s.registryAt gen))
  | _ => True

/-- The published snapshot covers the registry of its generation, or it will not be taken
as current. -/
structure FreshInv (s : RefreshState) : Prop where
  pcs : ∀ t, FreshPc s (s.threads t)
  bounded : ∀ g ≤ s.generation, (s.registryAt g).length ≤ 16383
  published : ∀ snap, s.snapshot = some snap → s.snapGen ≤ s.generation ∧
    (Covers snap (s.registryAt s.snapGen) ∨
      s.snapGen < s.generation ∧ ∀ t, s.threads t ≠ .ensureSampled s.snapGen)

namespace FreshInv

variable {s s' : RefreshState} {t : ℕ} {pc : RefreshPc}

/-- The registry and the published snapshot stay, and thread `t` goes on to `pc`. -/
structure Frame (s s' : RefreshState) (t : ℕ) (pc : RefreshPc) : Prop where
  threads : s'.threads = Function.update s.threads t pc
  generation : s'.generation = s.generation
  registryAt : s'.registryAt = s.registryAt
  snapshot : s'.snapshot = s.snapshot
  snapGen : s'.snapGen = s.snapGen

theorem frame_setPc (s : RefreshState) (t : ℕ) (pc : RefreshPc) : Frame s (s.setPc t pc) t pc :=
  ⟨rfl, rfl, rfl, rfl, rfl⟩

theorem freshPc_congr (hg : s'.generation = s.generation) (hr : s'.registryAt = s.registryAt)
    (h : FreshPc s pc) : FreshPc s' pc := by
  have heq : FreshPc s' pc = FreshPc s pc := by
    cases pc <;> simp only [FreshPc, hg, hr]
  exact heq ▸ h

theorem pcs_update (h : FreshInv s) (hf : Frame s s' t pc) (hpc : FreshPc s pc) (u : ℕ) :
    FreshPc s' (s'.threads u) := by
  apply freshPc_congr hf.generation hf.registryAt
  rw [hf.threads]
  by_cases htu : u = t
  · rw [htu, Function.update_self]
    exact hpc
  · rw [Function.update_of_ne htu]
    exact h.pcs u

theorem move (h : FreshInv s) (hf : Frame s s' t pc) (hpc : FreshPc s pc)
    (hensure : ∀ gen, pc = .ensureSampled gen → gen = s.generation) : FreshInv s' := by
  refine ⟨h.pcs_update hf hpc, ?_, ?_⟩
  · rw [hf.generation, hf.registryAt]
    exact h.bounded
  · rw [hf.snapshot, hf.snapGen, hf.generation, hf.registryAt]
    intro snap hsnap
    have ⟨hle, hor⟩ := h.published snap hsnap
    refine ⟨hle, hor.imp_right fun ⟨hlt, hno⟩ => ⟨hlt, fun u => ?_⟩⟩
    rw [hf.threads]
    by_cases htu : u = t
    · rw [htu, Function.update_self]
      intro heq
      have := hensure _ heq
      omega
    · rw [Function.update_of_ne htu]
      exact hno u

theorem setPc (h : FreshInv s) (hpc : FreshPc s pc)
    (hensure : ∀ gen, pc = .ensureSampled gen → gen = s.generation) : FreshInv (s.setPc t pc) :=
  h.move (frame_setPc s t pc) hpc hensure

theorem freshPc_mutate {registry : List RegEntry} (h : FreshPc s pc) :
    FreshPc { s with
      generation := s.generation + 1
      registryAt := Function.update s.registryAt (s.generation + 1) registry } pc := by
  have hold : ∀ g ≤ s.generation,
      Function.update s.registryAt (s.generation + 1) registry g = s.registryAt g :=
    fun g hg => Function.update_of_ne (by omega) _ _
  cases pc with
  | ensureSampled gen => exact Nat.le_succ_of_le h
  | sizing gen => exact Nat.le_succ_of_le h
  | counting gen start => exact ⟨h.1, Nat.le_succ_of_le h.2⟩
  | sized gen cap =>
    have ⟨hle, hpos, hcap, _⟩ := h
    refine ⟨Nat.le_succ_of_le hle, hpos, hcap, fun heq => ?_⟩
    have : s.generation + 1 = gen := heq
    omega
  | walking gen cap start =>
    have ⟨hle, hle', hpos, hcap, _⟩ := h
    refine ⟨hle, Nat.le_succ_of_le hle', hpos, hcap, fun heq => ?_⟩
    have : s.generation + 1 = gen := heq
    omega
  | publishing gen walked newSnap =>
    have ⟨hle, hle', hcov⟩ := h
    refine ⟨hle, Nat.le_succ_of_le hle', fun heq snap hsnap => ?_⟩
    show Covers snap (Function.update s.registryAt (s.generation + 1) registry gen)
    rw [hold gen (hle.trans hle')]
    exact hcov heq snap hsnap
  | _ => trivial

theorem mutate {registry : List RegEntry} (h : FreshInv s) (hreg : registry.length ≤ 16383) :
    FreshInv { s with
      generation := s.generation + 1
      registryAt := Function.update s.registryAt (s.generation + 1) registry } := by
  refine ⟨fun t => freshPc_mutate (h.pcs t), ?_, ?_⟩
  · intro g hg
    show (Function.update s.registryAt (s.generation + 1) registry g).length ≤ 16383
    by_cases hlast : g = s.generation + 1
    · rw [hlast, Function.update_self]
      exact hreg
    · rw [Function.update_of_ne hlast]
      exact h.bounded g (Nat.le_of_lt_succ (Nat.lt_of_le_of_ne hg hlast))
  · intro snap hsnap
    have ⟨hle, hor⟩ := h.published snap hsnap
    refine ⟨Nat.le_succ_of_le hle, hor.imp (fun hcov => ?_) fun ⟨hlt, hno⟩ =>
      ⟨Nat.lt_succ_of_lt hlt, hno⟩⟩
    show Covers snap (Function.update s.registryAt (s.generation + 1) registry s.snapGen)
    rw [Function.update_of_ne (by omega)]
    exact hcov

theorem ensureCheck {gen : ℕ} (h : FreshInv s) : FreshInv (s.ensureCheck t gen) := by
  have hidle : FreshInv (s.setPc t .idle) := h.setPc trivial (by simp)
  rw [RefreshState.ensureCheck]
  split
  · exact hidle
  · split
    · exact hidle
    · split
      · exact h.move ⟨rfl, rfl, rfl, rfl, rfl⟩ trivial (by simp)
      · exact hidle

theorem primeCheck (h : FreshInv s) : FreshInv (s.primeCheck t) := by
  rw [RefreshState.primeCheck]
  split
  · exact h.setPc trivial (by simp)
  · exact h.move ⟨rfl, rfl, rfl, rfl, rfl⟩ trivial (by simp)

theorem buildSize {gen : ℕ} {allocated : Bool} (h : FreshInv s) (ht : s.threads t = .sizing gen)
    (hok : SizedOk s (.size t allocated)) : FreshInv (s.buildSize t gen allocated) := by
  have hgen : gen ≤ s.generation := by
    have := h.pcs t
    rwa [ht] at this
  rw [RefreshState.buildSize]
  split
  · exact h.setPc ⟨hgen, Nat.le_refl _, by simp⟩ (by simp)
  · split
    · next hlast =>
      refine h.setPc ⟨hgen, buildCap_pos _, buildCap_le _, fun heq => ?_⟩ (by simp)
      have hroom := hok gen ht hlast heq
      rwa [RefreshState.registry, heq] at hroom
    · exact h.setPc ⟨hgen, Nat.le_refl _⟩ (by simp)

theorem count {gen start : ℕ} {yields : Option (List RegEntry)} (h : FreshInv s)
    (ht : s.threads t = .counting gen start) (hok : RegistryOk s (.count t yields)) :
    FreshInv (s.setPc t (.sized gen (buildCap (sysfsCountEntries yields)))) := by
  have hpc := h.pcs t
  rw [ht] at hpc
  have ⟨hle, hle'⟩ := hpc
  refine h.setPc ⟨hle.trans hle', buildCap_pos _, buildCap_le _, fun heq => ?_⟩ nofun
  have hy := hok gen start ht (by omega)
  rw [RefreshState.registry, heq] at hy
  exact room_of_count hy (h.bounded gen (by omega))

theorem walk {gen cap : ℕ} (h : FreshInv s) (ht : s.threads t = .sized gen cap) :
    FreshInv (s.setPc t (.walking gen cap s.generation)) := by
  have hpc := h.pcs t
  rw [ht] at hpc
  have ⟨hle, hpos, hcap, hroom⟩ := hpc
  exact h.setPc ⟨hle, Nat.le_refl _, hpos, hcap, hroom⟩ nofun

theorem buildWalked {gen cap start : ℕ} {inp : BuildInput} (h : FreshInv s)
    (ht : s.threads t = .walking gen cap start) (hok : RegistryOk s (.walkEnd t inp)) :
    FreshInv (s.buildWalked t gen cap inp) := by
  have hpc := h.pcs t
  rw [ht] at hpc
  have ⟨hle, hle', hpos, hcap, hroom⟩ := hpc
  refine h.move ⟨rfl, rfl, rfl, rfl, rfl⟩ ⟨hle.trans hle', Nat.le_refl _, ?_⟩ nofun
  intro heq snap hsnap
  have hy := hok gen cap start ht (by omega)
  rw [RefreshState.registry, heq] at hy
  exact covers_of_room hpos hcap (show Yields (BuildInput.yields { inp with uptime := s.clock }) _
    from hy) (hroom heq) hsnap

theorem publish {gen walked : ℕ} {newSnap : Option Snapshot} (h : FreshInv s)
    (ht : s.threads t = .publishing gen walked newSnap) (hok : SizedOk s (.publish t)) :
    FreshInv (s.publish t gen newSnap) := by
  cases newSnap with
  | none => exact h.move ⟨rfl, rfl, rfl, rfl, rfl⟩ trivial nofun
  | some snap =>
    have hpc := h.pcs t
    rw [ht] at hpc
    have ⟨hle, hle', hcov⟩ := hpc
    have hpcs : ∀ u, FreshPc s (Function.update s.threads t (.freeing s.snapshot) u) := by
      intro u
      by_cases htu : u = t
      · rw [htu, Function.update_self]
        trivial
      · rw [Function.update_of_ne htu]
        exact h.pcs u
    refine ⟨fun u => freshPc_congr rfl rfl (hpcs u), h.bounded, ?_⟩
    intro snap' hsnap'
    cases hsnap'
    refine ⟨hle.trans hle', ?_⟩
    by_cases heq : walked = gen
    · exact Or.inl (hcov heq snap rfl)
    · -- the registry changed under the walk: no later call samples this generation
      have hno := (hok gen walked snap ht).resolve_left heq
      have hlt : gen < s.generation := by omega
      refine Or.inr ⟨hlt, fun u => ?_⟩
      show Function.update s.threads t (.freeing s.snapshot) u ≠ .ensureSampled gen
      by_cases htu : u = t
      · rw [htu, Function.update_self]
        nofun
      · rw [Function.update_of_ne htu]
        exact hno u

theorem of_same (h : FreshInv s) (hthreads : s'.threads = s.threads)
    (hg : s'.generation = s.generation) (hr : s'.registryAt = s.registryAt)
    (hsnap : s'.snapshot = none ∨ s'.snapshot = s.snapshot ∧ s'.snapGen = s.snapGen) :
    FreshInv s' := by
  refine ⟨fun t => freshPc_congr hg hr (hthreads ▸ h.pcs t), ?_, ?_⟩
  · rw [hg, hr]
    exact h.bounded
  · intro snap hs
    rcases hsnap with hnone | ⟨hsnap, hgen⟩
    · rw [hnone] at hs
      cases hs
    · rw [hgen, hg, hr, hthreads]
      exact h.published snap (hsnap ▸ hs)

end FreshInv

theorem freshInv_step {s s' : RefreshState} {op : RefreshOp} (h : FreshInv s)
    (hreg : RegistryOk s op) (hsized : SizedOk s op) (hs : refreshStep s op = some s') :
    FreshInv s' := by
  cases refreshStep_spec hs with
  | mutate registry => exact h.mutate hreg
  | tick => exact h.of_same rfl rfl rfl (Or.inr ⟨rfl, rfl⟩)
  | ensure => exact h.setPc (Nat.le_refl _) fun gen heq => by cases heq; rfl
  | check => exact h.ensureCheck
  | enter | start => exact h.move ⟨rfl, rfl, rfl, rfl, rfl⟩ trivial nofun
  | prime | free => exact h.setPc trivial nofun
  | primeLock => exact h.primeCheck
  | sample => exact h.setPc (Nat.le_refl _) nofun
  | size ht => exact h.buildSize ht hsized
  | count ht => exact h.count ht hreg
  | walk ht => exact h.walk ht
  | walkEnd ht => exact h.buildWalked ht hreg
  | publish ht => exact h.publish ht hsized
  | teardown =>
    rw [RefreshState.startTeardown]
    split <;> exact h.of_same rfl rfl rfl (Or.inr ⟨rfl, rfl⟩)
  | drain | freeCall => exact h.of_same rfl rfl rfl (Or.inr ⟨rfl, rfl⟩)
  | clear =>
    rw [RefreshState.clear]
    split
    · exact h.of_same rfl rfl rfl (Or.inl rfl)
    · exact h.of_same rfl rfl rfl (Or.inr ⟨rfl, rfl⟩)

theorem freshInv_init (lock refreshCall : Bool) {registry : List RegEntry}
    (hreg : registry.length ≤ 16383) : FreshInv (.init lock refreshCall registry) :=
  ⟨fun _ => trivial, fun _ _ => hreg, nofun⟩

theorem FreshInv.current {s : RefreshState} (h : FreshInv s) {t gen : ℕ} {snap : Snapshot}
    (ht : s.threads t = .ensureSampled gen) (hsnap : s.snapshot = some snap)
    (hcur : s.current gen) : Covers snap (s.registryAt gen) := by
  have hgen : s.snapGen = gen := by
    simp only [RefreshState.current, Bool.and_eq_true, beq_iff_eq] at hcur
    exact hcur.2
  rcases (h.published snap hsnap).2 with hcov | ⟨_, hno⟩
  · exact hgen ▸ hcov
  · exact absurd (hgen ▸ ht) (hno t)

/-- In every run in which a size taken from the last snapshot has room for the registry, and
no snapshot of an older walk is published under a call that sampled its generation, the
snapshot taken as current has every entry of the generation sampled. -/
theorem current_snapshot_covers {lock refreshCall : Bool} {registry : List RegEntry}
    {labels : List RefreshOp} (hreg : registry.length ≤ 16383)
    (hregistry : ∀ s op s',
      StepTaken refreshStep (.init lock refreshCall registry) labels s op s' → RegistryOk s op)
    (hsized : ∀ s op s',
      StepTaken refreshStep (.init lock refreshCall registry) labels s op s' → SizedOk s op)
    {s s' : RefreshState} {t gen : ℕ} {snap : Snapshot}
    (hcheck : StepTaken refreshStep (.init lock refreshCall registry) labels s (.check t) s')
    (ht : s.threads t = .ensureSampled gen) (hsnap : s.snapshot = some snap)
    (hcur : s.current gen) : Covers snap (s.registryAt gen) := by
  have hinv : FreshInv s := by
    apply invariant_along (freshInv_init lock refreshCall hreg) _ hcheck.reached
    intro s op s' hstep h
    exact freshInv_step h (hregistry s op s' hstep) (hsized s op s' hstep) hstep.step_eq
  exact hinv.current ht hsnap hcur

def oneDevice : List RegEntry := [{ regid := 1, name := some (CString.cstr "disk") }]

def manyDevices : List RegEntry :=
  (List.range 80).map fun i => { regid := (i + 1).toUInt64, name := some (CString.cstr "usb") }

def primed : List RefreshOp :=
  [.prime 0, .primeLock 0, .sample 0, .size 0 true, .count 0 (some oneDevice), .walk 0,
    .walkEnd 0 { yields := some oneDevice, kexts := none, uptime := 0 }, .publish 0, .free 0]

/-- Eighty devices appear after the first snapshot, and a minute later a refresh runs. -/
def burst : List RefreshOp :=
  primed ++ [.mutate manyDevices, .tick 60000000000, .ensure 1, .check 1, .enter 1, .start 2,
    .sample 2, .size 2 true, .walk 2,
    .walkEnd 2 { yields := some manyDevices, kexts := none, uptime := 0 }, .publish 2, .free 2,
    .ensure 3]

/-- The thread holds the generation `gen` and is about to compare it. -/
def isSampled (s : RefreshState) (t gen : ℕ) : Bool :=
  match s.threads t with
  | .ensureSampled g => g == gen
  | _ => false

theorem threads_of_isSampled {s : RefreshState} {t gen : ℕ} (h : isSampled s t gen) :
    s.threads t = .ensureSampled gen := by
  rw [isSampled] at h
  split at h
  · next g hg => rw [hg, beq_iff_eq.mp h]
  · cases h

instance (snap : Snapshot) (registry : List RegEntry) : Decidable (Covers snap registry) :=
  inferInstanceAs (Decidable (∀ e ∈ registry, e.regid ≠ 0 → ∃ nd ∈ snap.nodes, nd.regid = e.regid))

instance (yields : Option (List RegEntry)) (registry : List RegEntry) :
    Decidable (Yields yields registry) :=
  match yields with
  | none => isFalse nofun
  | some l => decidable_of_iff ((∀ e ∈ l, e ∈ registry) ∧ ∀ e ∈ registry, e ∈ l)
    ⟨fun h => ⟨l, rfl, fun e => ⟨h.1 e, h.2 e⟩⟩, fun ⟨_, hl, h⟩ => by
      cases hl
      exact ⟨fun e => (h e).mp, fun e => (h e).mpr⟩⟩

/-- The registry has at most 16383 entries, and all walks yield it as it is. -/
def registryCheck (s : RefreshState) : RefreshOp → Bool
  | .mutate registry => registry.length ≤ 16383
  | .count _ yields => Yields yields s.registry
  | .walkEnd _ inp => Yields inp.yields s.registry
  | _ => true

theorem registryOk_of_check {s : RefreshState} {op : RefreshOp} (h : registryCheck s op) :
    RegistryOk s op := by
  cases op with
  | mutate | count | walkEnd =>
    have := of_decide_eq_true h
    grind [RegistryOk]
  | _ => trivial

/-- The refresh after the burst has a table for 67 nodes, cuts the registry short and records
the generation; the next call takes the snapshot as current. -/
theorem truncated_snapshot_current :
    (∀ s op s', StepTaken refreshStep (.init true true oneDevice) burst s op s' →
      RegistryOk s op) ∧
    ∃ s snap, run refreshStep (.init true true oneDevice) burst = some s ∧
      s.threads 3 = .ensureSampled 1 ∧ s.snapshot = some snap ∧ s.current 1 ∧
      ¬Covers snap (s.registryAt 1) := by
  have hc : checkRun refreshStep registryCheck (.init true true oneDevice) burst = true := by
    decide +kernel
  refine ⟨fun _ _ _ hstep => registryOk_of_check (ok_of_checkRun hc hstep), ?_⟩
  have h : ((run refreshStep (.init true true oneDevice) burst).any fun s =>
      isSampled s 3 1 && s.current 1 &&
        s.snapshot.any fun snap => decide (¬Covers snap (s.registryAt 1))) = true := by
    decide +kernel
  have ⟨s, hs, hall⟩ := (Option.any_eq_true _ _).mp h
  rw [Bool.and_eq_true, Bool.and_eq_true] at hall
  have ⟨snap, hsnap, hcov⟩ := (Option.any_eq_true _ _).mp hall.2
  exact ⟨s, snap, hs, threads_of_isSampled hall.1.1, hsnap, hall.1.2, of_decide_eq_true hcov⟩

/-- A build sized by a count, and a snapshot published with the generation of its walk. -/
def sizedCheck (s : RefreshState) : RefreshOp → Bool
  | .size _ _ => s.lastNodeCount = 0
  | .publish t =>
    match s.threads t with
    | .publishing gen walked _ => walked = gen
    | _ => true
  | _ => true

theorem sizedOk_of_check {s : RefreshState} {op : RefreshOp} (h : sizedCheck s op) :
    SizedOk s op := by
  cases op with
  | size => exact fun _ _ hlast => absurd (of_decide_eq_true h) hlast
  | publish t =>
    intro gen walked snap ht
    rw [sizedCheck, ht] at h
    exact Or.inl (of_decide_eq_true h)
  | _ => trivial

/-- The first snapshot is current, and it has the one device. -/
theorem primed_snapshot_covers :
    ∃ s snap, Reached refreshStep (.init true true oneDevice) (primed ++ [.ensure 1, .check 1]) s ∧
      s.threads 1 = .ensureSampled 0 ∧ s.snapshot = some snap ∧ s.current 0 ∧
      Covers snap (s.registryAt 0) := by
  have hreg : checkRun refreshStep registryCheck (.init true true oneDevice)
      (primed ++ [.ensure 1, .check 1]) = true := by decide +kernel
  have hsized : checkRun refreshStep sizedCheck (.init true true oneDevice)
      (primed ++ [.ensure 1, .check 1]) = true := by decide +kernel
  have h : ((run refreshStep (.init true true oneDevice) (primed ++ [.ensure 1])).any fun s =>
      isSampled s 1 0 && s.current 0 && s.snapshot.isSome && (refreshStep s (.check 1)).isSome) =
      true := by decide +kernel
  have ⟨s, hs, hall⟩ := (Option.any_eq_true _ _).mp h
  rw [Bool.and_eq_true, Bool.and_eq_true, Bool.and_eq_true] at hall
  have ⟨s', hs'⟩ := Option.isSome_iff_exists.mp hall.2
  have ⟨snap, hsnap⟩ := Option.isSome_iff_exists.mp hall.1.2
  have hstep : StepTaken refreshStep (.init true true oneDevice)
      (primed ++ [.ensure 1, .check 1]) s (.check 1) s' := ⟨10, hs, rfl, hs'⟩
  have ht := threads_of_isSampled hall.1.1.1
  exact ⟨s, snap, hstep.reached, ht, hsnap, hall.1.1.2,
    current_snapshot_covers (by decide)
      (fun _ _ _ hstep => registryOk_of_check (ok_of_checkRun hreg hstep))
      (fun _ _ _ hstep => sizedOk_of_check (ok_of_checkRun hsized hstep))
      hstep ht hsnap hall.1.1.2⟩

end SysFS
