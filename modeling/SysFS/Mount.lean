import SysFS.Lib.Transition
import SysFS.StructureLookup

namespace SysFS
open CString Transition

/-- `struct sfsmount`, with the name that `populate_statfs_info` gives the mount. -/
structure Sfsmount where
  pmntId : Int32
  mntfromname : CStr
  deriving DecidableEq, Repr

/-- A pointer to a structure node: the number of its tree and its place in the tree. -/
structure SnodeRef where
  tree : ℕ
  node : ℕ
  deriving DecidableEq, Repr

/-- A node in the hash, with the mount structure that its vnode belongs to. -/
structure HashedNode where
  nodeMp : ℕ
  nodeMntId : Int32
  nodeId : Sfsid
  nodeStructureNode : Option SnodeRef
  deriving DecidableEq, Repr

/-- The globals of the file system. `mounts` has the mount structures with a private
part, `trees` counts the structure trees built and `freed` the ones released. -/
structure MountState where
  mounts : List (ℕ × Sfsmount)
  sysfsMountId : Int32
  mountedInstanceCount : ℤ
  tree : StructureGlobals
  trees : ℕ
  freed : List ℕ
  hashBuckets : Bool
  hash : List HashedNode

def MountState.load : MountState := ⟨[], 0, 0, .load, 0, [], false, []⟩

/-- `MPTOPMP(mp)`. -/
def mptopmp (s : MountState) (mp : ℕ) : Option Sfsmount := s.mounts.lookup mp

/-- The name `populate_statfs_info` makes from `mounted_instance_count`. -/
def mntfromname (count : ℤ) : CStr :=
  if count = 1 then cstr "sys"
  else cstr "sys" ++ (if count < 0 then cstr "-" else []) ++ decimal count.natAbs

/-- `sysfs_structure_init`, with the new tree counted. -/
def structureInit (ncpu : UInt32) (s : MountState) : MountState :=
  { s with
    tree := sysfsStructureInit ncpu s.tree
    trees := if s.tree.rootNode.isNone then s.trees + 1 else s.trees }

/-- `sysfs_structure_free`, with the released tree recorded. -/
def structureFree (s : MountState) : MountState :=
  { s with
    tree := sysfsStructureFree s.tree
    freed := if s.tree.rootNode.isSome then s.trees :: s.freed else s.freed }

/-- `sysfs_mount`. The allocation of the private part may fail. -/
def sysfsMount (mp : ℕ) (allocated : Bool) (ncpu : UInt32) (s : MountState) : MountState :=
  match mptopmp s mp with
  | some _ => s
  | none =>
    if !allocated then s
    else
      let mountId := s.sysfsMountId + 1
      let count := s.mountedInstanceCount + 1
      { structureInit ncpu s with
        mounts := (mp, ⟨mountId, mntfromname count⟩) :: s.mounts
        sysfsMountId := mountId
        mountedInstanceCount := count
        hashBuckets := true }

/-- The part of `sysfs_unmount` for a mount with a private part. `vflush` reclaims the
vnodes of the mount; the hash goes with the last instance. -/
def unmountPrivate (mp : ℕ) (s : MountState) : MountState :=
  match mptopmp s mp with
  | none => s
  | some _ =>
    { s with
      mounts := s.mounts.filter fun m => m.1 ≠ mp
      mountedInstanceCount := s.mountedInstanceCount - 1
      hashBuckets := if s.mountedInstanceCount = 1 then false else s.hashBuckets
      hash := s.hash.filter fun n => n.nodeMp ≠ mp }

def sysfsUnmount (mp : ℕ) (s : MountState) : MountState := structureFree (unmountPrivate mp s)

/-- `sysfsnode_find`, as one step: a node that is not there yet is added when it can be
allocated and its vnode created. -/
def findNode (n : HashedNode) (created : Bool) (s : MountState) : MountState :=
  if s.hash.any (fun m => m.nodeMntId = n.nodeMntId ∧ m.nodeId = n.nodeId) ∨ !created then s
  else { s with hash := n :: s.hash }

/-- `sysfs_root`. The structure node is `NULL` when there is no tree. -/
def sysfsRootNode (mp : ℕ) (sm : Sfsmount) (created : Bool) (s : MountState) : MountState :=
  let rootRef := s.tree.rootNode.map fun _ => (⟨s.trees, 0⟩ : SnodeRef)
  findNode ⟨mp, sm.pmntId, (sysfsRoot sm.pmntId).nodeId, rootRef⟩ created s

/-- `sysfs_vnop_lookup` in a directory of the live tree `t`. -/
def lookupNode (t : Tree) (dir : HashedNode) (p : ℕ) (sm : Sfsmount) (g : GSnapshot) (cn : CStr)
    (created : Bool) (s : MountState) : MountState :=
  match sysfsVnopLookup t g ⟨dir.nodeMntId, dir.nodeId, p⟩ cn with
  | .error _ => s
  | .ok target =>
    findNode ⟨dir.nodeMp, sm.pmntId, target.nodeId, some ⟨s.trees, target.nodeStructureNode⟩⟩
      created s

inductive MountOp where
  | mount (mp : ℕ) (allocated : Bool) (ncpu : UInt32)
  | unmount (mp : ℕ)
  | root (mp : ℕ) (created : Bool)
  | lookup (dir : HashedNode) (g : GSnapshot) (cn : CStr) (created : Bool)
  | reclaim (n : HashedNode)

/-- One operation. It is not possible where it would use the hash without its buckets,
a node that is not in the hash, or a structure node that was freed. -/
def mountStep (s : MountState) : MountOp → Option MountState
  | .mount mp allocated ncpu => some (sysfsMount mp allocated ncpu s)
  | .unmount mp => some (sysfsUnmount mp s)
  | .root mp created =>
    match mptopmp s mp with
    | some sm => if s.hashBuckets then some (sysfsRootNode mp sm created s) else none
    | none => none
  | .lookup dir g cn created =>
    match mptopmp s dir.nodeMp, dir.nodeStructureNode, s.tree.rootNode with
    | some sm, some ref, some t =>
      if dir ∈ s.hash ∧ s.hashBuckets ∧ ref.tree = s.trees then
        some (lookupNode t dir ref.node sm g cn created s)
      else none
    | _, _, _ => none
  | .reclaim n => if n ∈ s.hash then some { s with hash := s.hash.erase n } else none

/-- The tree and the buckets exist, and every node in the hash points into the tree. -/
structure SharedLive (s : MountState) : Prop where
  root : ∃ t, s.tree.rootNode = some t ∧ s.trees ∉ s.freed
  buckets : s.hashBuckets = true
  nodes : ∀ n ∈ s.hash, ∃ ref t, n.nodeStructureNode = some ref ∧ s.tree.rootNode = some t ∧
    ref.tree = s.trees ∧ ref.node < t.nodes.length

/-- With an instance mounted, what the instances share is there. -/
def MountSafe (s : MountState) : Prop := s.mounts ≠ [] → SharedLive s

def Releases (s s' : MountState) : Prop :=
  (s.tree.rootNode.isSome = true ∧ s'.tree.rootNode = none) ∨
    (s.hashBuckets = true ∧ s'.hashBuckets = false)

/-- An unmount is made with no other instance mounted. -/
def UnmountsLast (s : MountState) (op : MountOp) : Prop :=
  ∀ mp, op = .unmount mp → ∀ m ∈ s.mounts, m.1 = mp

/-- The invariant of the runs in which only the last instance is unmounted. -/
structure MountInv (s : MountState) : Prop where
  count : s.mountedInstanceCount = s.mounts.length
  distinct : (s.mounts.map Prod.fst).Nodup
  owned : ∀ n ∈ s.hash, ∃ m ∈ s.mounts, m.1 = n.nodeMp
  trees : ∀ t, s.tree.rootNode = some t →
    t.ParentsBefore ∧ 0 < t.nodes.length ∧ s.trees ∉ s.freed
  freed : ∀ k ∈ s.freed, k ≤ s.trees
  live : MountSafe s

theorem mountInv_load : MountInv .load := by
  refine ⟨rfl, List.nodup_nil, ?_, ?_, ?_, ?_⟩ <;>
    simp [MountState.load, StructureGlobals.load, MountSafe]

section Steps
variable {s : MountState}

theorem mptopmp_eq_none_iff (mp : ℕ) : mptopmp s mp = none ↔ mp ∉ s.mounts.map Prod.fst := by
  simp only [mptopmp, List.lookup_eq_none_iff, List.mem_map, not_exists, not_and]
  refine forall₂_congr fun m _ => ?_
  rw [bne_iff_ne, ne_comm]

theorem mptopmp_mem {mp : ℕ} {sm : Sfsmount} (h : mptopmp s mp = some sm) :
    ∃ m ∈ s.mounts, m.1 = mp := by
  apply List.mem_map.mp
  by_contra hmem
  rw [(mptopmp_eq_none_iff mp).mpr hmem] at h
  cases h

theorem structureInit_root (ncpu : UInt32) (h : MountInv s) :
    ∃ t, (structureInit ncpu s).tree.rootNode = some t ∧ t.ParentsBefore ∧ 0 < t.nodes.length ∧
      (structureInit ncpu s).trees ∉ s.freed := by
  cases hroot : s.tree.rootNode with
  | some t =>
    have ⟨hbefore, hpos, hfreed⟩ := h.trees t hroot
    refine ⟨t, ?_, hbefore, hpos, ?_⟩
    · simp [structureInit, sysfsStructureInit, hroot]
    · simpa [structureInit, hroot] using hfreed
  | none =>
    refine ⟨builtTree s.tree.nextNodeId ncpu, ?_, builtTree_parentsBefore _ _, ?_, ?_⟩
    · simp [structureInit, sysfsStructureInit, hroot, builtTree]
    · rw [builtTree_length]
      omega
    · intro hmem
      have := h.freed _ hmem
      simp only [structureInit, hroot, Option.isNone_none, if_true] at this
      omega

theorem structureInit_of_root (ncpu : UInt32) {t : Tree} (h : s.tree.rootNode = some t) :
    structureInit ncpu s = s := by
  simp [structureInit, sysfsStructureInit, h]

theorem mountInv_mount (h : MountInv s) (mp : ℕ) (allocated : Bool) (ncpu : UInt32) :
    MountInv (sysfsMount mp allocated ncpu s) := by
  unfold sysfsMount
  split
  · exact h
  next hnew =>
  split
  · exact h
  have ⟨t, hroot, hbefore, hpos, hfreed⟩ := structureInit_root ncpu h
  refine ⟨?_, ?_, ?_, ?_, ?_, ?_⟩
  · simp [h.count]
  · exact List.nodup_cons.mpr ⟨(mptopmp_eq_none_iff mp).mp hnew, h.distinct⟩
  · intro n hn
    have ⟨m, hm, heq⟩ := h.owned n hn
    exact ⟨m, List.mem_cons_of_mem _ hm, heq⟩
  · intro t' ht'
    have heq : t = t' := Option.some.inj (hroot.symm.trans ht')
    exact heq ▸ ⟨hbefore, hpos, hfreed⟩
  · intro k hk
    have hle : k ≤ s.trees := h.freed k hk
    have hmono : s.trees ≤ (structureInit ncpu s).trees := by
      simp only [structureInit]
      split <;> omega
    exact hle.trans hmono
  · intro _
    refine ⟨⟨t, hroot, hfreed⟩, rfl, fun n hn => ?_⟩
    -- a node in the hash belongs to another instance, so its tree is kept
    have ⟨m, hm, _⟩ := h.owned n hn
    have hlive := h.live (List.ne_nil_of_mem hm)
    have ⟨ref, t', href, ht', htree, hlt⟩ := hlive.nodes n hn
    rw [structureInit_of_root ncpu ht'] at hroot ⊢
    exact ⟨ref, t', href, ht', htree, hlt⟩

theorem unmount_mounts (mp : ℕ) : (sysfsUnmount mp s).mounts = s.mounts.filter (·.1 ≠ mp) := by
  unfold sysfsUnmount unmountPrivate
  split
  · next hnone =>
    show s.mounts = _
    refine (List.filter_eq_self.mpr fun m hm => ?_).symm
    have hne : m.1 ≠ mp := fun heq =>
      (mptopmp_eq_none_iff mp).mp hnone (List.mem_map.mpr ⟨m, hm, heq⟩)
    exact decide_eq_true hne
  · rfl

theorem structureFree_root : (structureFree s).tree.rootNode = none := by
  show (sysfsStructureFree s.tree).rootNode = none
  unfold sysfsStructureFree
  split
  · rfl
  · next h => exact h

theorem mountInv_structureFree (h : MountInv s) (hnil : s.mounts = []) :
    MountInv (structureFree s) := by
  refine ⟨h.count, h.distinct, h.owned, ?_, ?_, fun hne => absurd hnil hne⟩
  · intro t ht
    rw [structureFree_root] at ht
    cases ht
  · intro k hk
    simp only [structureFree] at hk
    split at hk
    · exact (List.mem_cons.mp hk).elim (fun heq => heq.le) (h.freed k)
    · exact h.freed k hk

theorem mountInv_unmountPrivate (h : MountInv s) {mp : ℕ} (hlast : ∀ m ∈ s.mounts, m.1 = mp) :
    MountInv (unmountPrivate mp s) ∧ (unmountPrivate mp s).mounts = [] := by
  -- the only instance takes its vnodes, and with them all nodes of the hash, along
  unfold unmountPrivate
  split
  · next hnone =>
    refine ⟨h, List.eq_nil_iff_forall_not_mem.mpr fun m hm => ?_⟩
    exact (mptopmp_eq_none_iff mp).mp hnone (List.mem_map.mpr ⟨m, hm, hlast m hm⟩)
  next hsome =>
  have hnil : s.mounts.filter (fun m => m.1 ≠ mp) = [] :=
    List.filter_eq_nil_iff.mpr fun m hm => by simp [hlast m hm]
  have hone : s.mounts.length = 1 := by
    have hrep := List.eq_replicate_of_mem (a := mp) (l := s.mounts.map Prod.fst)
      (by simpa using hlast)
    have hle : s.mounts.length ≤ 1 := by
      have hnodup := h.distinct
      rw [hrep, List.nodup_replicate, List.length_map] at hnodup
      exact hnodup
    have hpos := List.length_pos_of_mem (mptopmp_mem hsome).choose_spec.1
    omega
  refine ⟨⟨?_, ?_, ?_, h.trees, h.freed, fun hne => absurd hnil hne⟩, hnil⟩
  · simp only [hnil, h.count, hone]
    rfl
  · simp only [hnil]
    exact List.nodup_nil
  · intro n hn
    have ⟨hmem, hne⟩ := List.mem_filter.mp hn
    have ⟨m, hm, heq⟩ := h.owned n hmem
    exact absurd (heq.symm.trans (hlast m hm)) (of_decide_eq_true hne)

theorem mountInv_findNode (h : MountInv s) {n : HashedNode} (hmp : ∃ m ∈ s.mounts, m.1 = n.nodeMp)
    (hnode : ∀ t, s.tree.rootNode = some t → ∃ ref, n.nodeStructureNode = some ref ∧
      ref.tree = s.trees ∧ ref.node < t.nodes.length) (created : Bool) :
    MountInv (findNode n created s) := by
  unfold findNode
  split
  · exact h
  refine ⟨h.count, h.distinct, ?_, h.trees, h.freed, ?_⟩
  · exact List.forall_mem_cons.mpr ⟨hmp, h.owned⟩
  · intro hne
    have hlive := h.live hne
    have ⟨t, hroot, _⟩ := hlive.root
    have ⟨ref, href, htree, hlt⟩ := hnode t hroot
    refine ⟨hlive.root, hlive.buckets, List.forall_mem_cons.mpr ⟨?_, hlive.nodes⟩⟩
    exact ⟨ref, t, href, hroot, htree, hlt⟩

theorem mountInv_reclaim (h : MountInv s) (n : HashedNode) :
    MountInv { s with hash := s.hash.erase n } := by
  refine ⟨h.count, h.distinct, ?_, h.trees, h.freed, ?_⟩
  · exact fun m hm => h.owned m (List.mem_of_mem_erase hm)
  · intro hne
    have hlive := h.live hne
    exact ⟨hlive.root, hlive.buckets, fun m hm => hlive.nodes m (List.mem_of_mem_erase hm)⟩

theorem mountInv_root (h : MountInv s) {mp : ℕ} {sm : Sfsmount} (hm : mptopmp s mp = some sm)
    (created : Bool) : MountInv (sysfsRootNode mp sm created s) := by
  apply mountInv_findNode h (mptopmp_mem hm)
  intro t ht
  have ⟨_, hpos, _⟩ := h.trees t ht
  exact ⟨⟨s.trees, 0⟩, by simp [ht], rfl, hpos⟩

theorem mountInv_lookup (h : MountInv s) {t : Tree} {dir : HashedNode} {ref : SnodeRef}
    {sm : Sfsmount} (hm : mptopmp s dir.nodeMp = some sm) (hroot : s.tree.rootNode = some t)
    (hdir : dir ∈ s.hash) (href : dir.nodeStructureNode = some ref) (g : GSnapshot) (cn : CStr)
    (created : Bool) : MountInv (lookupNode t dir ref.node sm g cn created s) := by
  unfold lookupNode
  split
  · exact h
  next target htarget =>
  have hmem := mptopmp_mem hm
  have hlive := h.live (List.ne_nil_of_mem hmem.choose_spec.1)
  have ⟨ref', t', href', ht', _, hlt⟩ := hlive.nodes dir hdir
  have heq : ref' = ref := Option.some.inj (href'.symm.trans href)
  have hteq : t' = t := Option.some.inj (ht'.symm.trans hroot)
  rw [heq, hteq] at hlt
  refine mountInv_findNode h (by exact hmem) ?_ created
  intro u hu
  have hueq : u = t := Option.some.inj (hu.symm.trans hroot)
  rw [hueq]
  exact ⟨_, rfl, rfl, lookup_lt (h.trees t hroot).1 hlt htarget⟩

theorem mountInv_step (h : MountInv s) {op : MountOp} {s' : MountState}
    (hstep : mountStep s op = some s') (hlast : UnmountsLast s op) : MountInv s' := by
  cases op with
  | mount mp allocated ncpu =>
    cases hstep
    exact mountInv_mount h mp allocated ncpu
  | unmount mp =>
    cases hstep
    have ⟨hinv, hnil⟩ := mountInv_unmountPrivate h (hlast mp rfl)
    exact mountInv_structureFree hinv hnil
  | root mp created =>
    simp only [mountStep] at hstep
    split at hstep
    · next sm hm =>
      split at hstep
      · cases hstep
        exact mountInv_root h hm created
      · cases hstep
    · cases hstep
  | lookup dir g cn created =>
    simp only [mountStep] at hstep
    split at hstep
    · next sm ref t hm href hroot =>
      split at hstep
      · next hguard =>
        cases hstep
        exact mountInv_lookup h hm hroot hguard.1 href g cn created
      · cases hstep
    · cases hstep
  | reclaim n =>
    simp only [mountStep] at hstep
    split at hstep
    · cases hstep
      exact mountInv_reclaim h n
    · cases hstep

@[simp] theorem findNode_tree (n : HashedNode) (created : Bool) :
    (findNode n created s).tree = s.tree := by
  unfold findNode
  split <;> rfl

@[simp] theorem findNode_hashBuckets (n : HashedNode) (created : Bool) :
    (findNode n created s).hashBuckets = s.hashBuckets := by
  unfold findNode
  split <;> rfl

theorem not_releases_of_eq {s' : MountState} (htree : s'.tree = s.tree)
    (hbuckets : s'.hashBuckets = s.hashBuckets) : ¬ Releases s s' := by
  intro h
  cases hroot : s.tree.rootNode <;> simp [Releases, htree, hbuckets, hroot] at h

theorem not_releases_mount (mp : ℕ) (allocated : Bool) (ncpu : UInt32) :
    ¬ Releases s (sysfsMount mp allocated ncpu s) := by
  unfold sysfsMount
  split
  · exact not_releases_of_eq rfl rfl
  split
  · exact not_releases_of_eq rfl rfl
  · intro h
    have ⟨_, hnone⟩ := h.resolve_right (by simp)
    cases hroot : s.tree.rootNode <;>
      simp [structureInit, sysfsStructureInit, hroot] at hnone

theorem not_releases_lookup (t : Tree) (dir : HashedNode) (p : ℕ) (sm : Sfsmount) (g : GSnapshot)
    (cn : CStr) (created : Bool) : ¬ Releases s (lookupNode t dir p sm g cn created s) := by
  unfold lookupNode
  split
  · exact not_releases_of_eq rfl rfl
  · exact not_releases_of_eq (findNode_tree _ _) (findNode_hashBuckets _ _)

/-- Only an unmount releases what the instances share. -/
theorem releases_unmount {op : MountOp} {s' : MountState} (hstep : mountStep s op = some s')
    (hrel : Releases s s') : ∃ mp, op = .unmount mp := by
  cases op with
  | unmount mp => exact ⟨mp, rfl⟩
  | mount mp allocated ncpu =>
    cases hstep
    exact absurd hrel (not_releases_mount mp allocated ncpu)
  | root mp created =>
    simp only [mountStep] at hstep
    split at hstep
    · split at hstep
      · cases hstep
        exact absurd hrel (not_releases_of_eq (findNode_tree _ _) (findNode_hashBuckets _ _))
      · cases hstep
    · cases hstep
  | lookup dir g cn created =>
    simp only [mountStep] at hstep
    split at hstep
    · split at hstep
      · cases hstep
        exact absurd hrel (not_releases_lookup _ _ _ _ _ _ _)
      · cases hstep
    · cases hstep
  | reclaim n =>
    simp only [mountStep] at hstep
    split at hstep
    · cases hstep
      exact absurd hrel (not_releases_of_eq rfl rfl)
    · cases hstep

end Steps

section Runs
variable (ops : List MountOp)

theorem mountInv_reached
    (hlast : ∀ s op s', StepTaken mountStep .load ops s op s' → UnmountsLast s op)
    {s : MountState} (h : Reached mountStep .load ops s) : MountInv s := by
  refine invariant_along mountInv_load ?_ h
  intro s op s' htaken hinv
  exact mountInv_step hinv htaken.step_eq (hlast s op s' htaken)

/-- With another instance mounted, an unmount leaves that instance without a tree. -/
theorem unmount_not_safe {s : MountState} {mp : ℕ} {m : ℕ × Sfsmount} (hm : m ∈ s.mounts)
    (hne : m.1 ≠ mp) : ¬ MountSafe (sysfsUnmount mp s) := by
  intro hsafe
  have hmem : m ∈ (sysfsUnmount mp s).mounts := by
    rw [unmount_mounts]
    exact List.mem_filter.mpr ⟨hm, decide_eq_true hne⟩
  have ⟨t, ht, _⟩ := (hsafe (List.ne_nil_of_mem hmem)).root
  rw [sysfsUnmount, structureFree_root] at ht
  cases ht

/-- In a run, the instances keep what they share until the last of them is unmounted
exactly when no unmount is made with another instance mounted. -/
theorem shared_state_kept_iff :
    ((∀ s, Reached mountStep .load ops s → MountSafe s) ∧
      ∀ s op s', StepTaken mountStep .load ops s op s' → Releases s s' →
        ∃ mp, op = .unmount mp ∧ s'.mounts = []) ↔
    ∀ s op s', StepTaken mountStep .load ops s op s' → UnmountsLast s op := by
  constructor
  · intro h s op s' htaken mp hop m hm
    by_contra hne
    have hstep := htaken.step_eq
    rw [hop] at hstep
    cases hstep
    exact unmount_not_safe hm hne (h.1 _ htaken.reached_next)
  · intro hlast
    refine ⟨fun s h => (mountInv_reached ops hlast h).live, ?_⟩
    intro s op s' htaken hrel
    have ⟨mp, hop⟩ := releases_unmount htaken.step_eq hrel
    refine ⟨mp, hop, ?_⟩
    have hinv := mountInv_reached ops hlast htaken.reached
    have hstep := htaken.step_eq
    rw [hop] at hstep
    cases hstep
    exact (mountInv_unmountPrivate hinv (hlast _ _ _ htaken mp hop)).2

end Runs

/-- Two instances, a lookup of the root of the second, and the unmount of the first. -/
def firstOfTwoUnmounted : List MountOp :=
  [.mount 1 true 1, .mount 2 true 1, .root 2 true, .unmount 1]

/-- The second instance is left without a tree, and its root node points to freed memory. -/
theorem unmount_first_frees_tree :
    ∃ s, run mountStep .load firstOfTwoUnmounted = some s ∧ s.mounts.map Prod.fst = [2] ∧
      s.tree.rootNode = none ∧ s.freed = [1] ∧
      s.hash.map (·.nodeStructureNode) = [some ⟨1, 0⟩] ∧ ¬ MountSafe s := by
  have hrun : (run mountStep .load firstOfTwoUnmounted).any (fun s =>
      s.mounts.map Prod.fst = [2] ∧ s.tree.rootNode.isNone ∧ s.freed = [1] ∧
        s.hash.map (·.nodeStructureNode) = [some ⟨1, 0⟩]) = true := by decide +kernel
  have ⟨s, hs, hfinal⟩ := (Option.any_eq_true _ _).mp hrun
  have ⟨hmounts, hroot, hfreed, hhash⟩ := of_decide_eq_true hfinal
  rw [Option.isNone_iff_eq_none] at hroot
  refine ⟨s, hs, hmounts, hroot, hfreed, hhash, fun hsafe => ?_⟩
  have hne : s.mounts ≠ [] := fun hnil => by simp [hnil] at hmounts
  have ⟨t, ht, _⟩ := (hsafe hne).root
  rw [hroot] at ht
  cases ht

end SysFS
