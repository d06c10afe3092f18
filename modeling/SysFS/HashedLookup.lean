import SysFS.NodeFind
import SysFS.Reach

namespace SysFS
open CString

/-- The nodes that are in the hash at some time. Calls of `sysfsnode_find` have asked for them,
so the id of each one is that of its structure node. -/
structure NodeHash (t : Tree) where
  nodes : List Sfsnode
  ok : ∀ n ∈ nodes, NodeOk t n

/-- What `sysfsnode_find` returns for `n`. A node in the hash with the same mount and the same id
is taken for it, whatever structure node was passed; otherwise `n` is made. -/
def NodeHash.find {t : Tree} (hash : NodeHash t) (n : Sfsnode) : Sfsnode :=
  (hash.nodes.find? fun m => m.key = n.key).getD n

/-- `sysfs_vnop_lookup` with the call of `sysfsnode_find` at its end. For `.` the vnode of the
directory is returned without a call. -/
def lookupIn (t : Tree) (g : GSnapshot) (hash : NodeHash t) (dir : Sfsnode) (cn : CStr) :
    Except Errno Sfsnode :=
  (sysfsVnopLookup t g dir cn).map fun n => if cn = cstr "." then n else hash.find n

/-- The lookups of components, each in its own snapshot and with what is in the hash then. -/
def resolveStepsIn (t : Tree) :
    (ℕ → NodeHash t) → Sfsnode → List (CStr × GSnapshot) → Except Errno Sfsnode
  | _, dir, [] => .ok dir
  | hash, dir, (cn, g) :: steps => do
    resolveStepsIn t (fun k => hash (k + 1)) (← lookupIn t g (hash 0) dir cn) steps

/-- A path from a directory, in one snapshot. -/
def resolveIn (t : Tree) (g : GSnapshot) (hash : ℕ → NodeHash t) (dir : Sfsnode)
    (path : List CStr) : Except Errno Sfsnode :=
  resolveStepsIn t hash dir (path.map (·, g))

/-- Lookups from the root of a mount. `sysfs_root` asks for the root in the hash as well. -/
def walkFromRoot (t : Tree) (hash : ℕ → NodeHash t) (mnt : Int32)
    (steps : List (CStr × GSnapshot)) : Except Errno Sfsnode :=
  resolveStepsIn t (fun k => hash (k + 1)) ((hash 0).find (sysfsRoot mnt)) steps

/-- A path from the root of a mount, in one snapshot. -/
def resolveFromRoot (t : Tree) (g : GSnapshot) (hash : ℕ → NodeHash t) (mnt : Int32)
    (path : List CStr) : Except Errno Sfsnode :=
  walkFromRoot t hash mnt (path.map (·, g))

/-- The node is reached from the root, with some contents of the hash on the way. -/
def ReachableIn (t : Tree) (g : GSnapshot) (mnt : Int32) (n : Sfsnode) : Prop :=
  ∃ hash path, resolveFromRoot t g hash mnt path = .ok n

def NodeHash.followedBy {t : Tree} (hash : NodeHash t) (rest : ℕ → NodeHash t) : ℕ → NodeHash t
  | 0 => hash
  | k + 1 => rest k

theorem resolveStepsIn_concat {t : Tree} {hash : ℕ → NodeHash t} {dir n r : Sfsnode}
    {steps : List (CStr × GSnapshot)} {cn : CStr} {g : GSnapshot} {last : NodeHash t}
    (h : resolveStepsIn t hash dir steps = .ok n) (hl : lookupIn t g last n cn = .ok r) :
    ∃ hash', resolveStepsIn t hash' dir (steps ++ [(cn, g)]) = .ok r := by
  induction steps generalizing hash dir with
  | nil =>
    cases h
    refine ⟨fun _ => last, ?_⟩
    simp only [List.nil_append, resolveStepsIn, hl]
    rfl
  | cons step steps ih =>
    simp only [List.cons_append, resolveStepsIn] at h ⊢
    cases hstep : lookupIn t step.2 (hash 0) dir step.1 with
    | error e =>
      rw [hstep] at h
      cases h
    | ok dir' =>
      rw [hstep] at h
      obtain ⟨rest, hrest⟩ := ih h
      refine ⟨(hash 0).followedBy rest, ?_⟩
      simp only [NodeHash.followedBy, hstep]
      exact hrest

theorem walkFromRoot_concat {t : Tree} {hash : ℕ → NodeHash t} {mnt : Int32} {n r : Sfsnode}
    {steps : List (CStr × GSnapshot)} {cn : CStr} {g : GSnapshot} {last : NodeHash t}
    (h : walkFromRoot t hash mnt steps = .ok n) (hl : lookupIn t g last n cn = .ok r) :
    ∃ hash', walkFromRoot t hash' mnt (steps ++ [(cn, g)]) = .ok r := by
  obtain ⟨rest, hrest⟩ := resolveStepsIn_concat h hl
  exact ⟨(hash 0).followedBy rest, hrest⟩

def resolveSteps (t : Tree) : Sfsnode → List (CStr × GSnapshot) → Except Errno Sfsnode
  | dir, [] => .ok dir
  | dir, (cn, g) :: steps => do resolveSteps t (← sysfsVnopLookup t g dir cn) steps

theorem resolveSteps_fixed (t : Tree) (g : GSnapshot) (dir : Sfsnode) (path : List CStr) :
    resolveSteps t dir (path.map (·, g)) = resolve t g dir path := by
  induction path generalizing dir with
  | nil => rfl
  | cons cn path ih =>
    simp only [List.map_cons, resolveSteps, resolve]
    cases sysfsVnopLookup t g dir cn with
    | error e => rfl
    | ok r => exact ih r

def BaseIdsDistinct (t : Tree) : Prop := (t.nodes.map Sfssnode.ssnBaseNodeId).Nodup

section Distinct
variable {t : Tree} (hids : BaseIdsDistinct t)
include hids

theorem structureNode_inj {i j : ℕ} (hi : i < t.nodes.length) (hj : j < t.nodes.length)
    (hbase : (t.node i).ssnBaseNodeId = (t.node j).ssnBaseNodeId) : i = j := by
  have hget : ∀ i < t.nodes.length, (t.nodes.map Sfssnode.ssnBaseNodeId)[i]? =
      some (t.node i).ssnBaseNodeId := by
    intro i hi
    simp [Tree.node, hi]
  have hlen : i < (t.nodes.map Sfssnode.ssnBaseNodeId).length := by
    simpa using hi
  apply (List.getElem?_inj hlen hids).mp
  rw [hget i hi, hget j hj, hbase]

theorem node_eq_of_key {n n' : Sfsnode} (h : NodeOk t n) (h' : NodeOk t n')
    (hkey : n.key = n'.key) : n = n' := by
  have hmnt : n.nodeMntId = n'.nodeMntId := congrArg NodeKey.mntId hkey
  have hid : n.nodeId = n'.nodeId := congrArg NodeKey.nodeId hkey
  have hsnode : n.nodeStructureNode = n'.nodeStructureNode := by
    apply structureNode_inj hids h.lt h'.lt
    rw [← h.base, ← h'.base, hid]
  cases n
  cases n'
  simp_all

theorem NodeHash.find_eq (hash : NodeHash t) {n : Sfsnode} (h : NodeOk t n) : hash.find n = n := by
  rw [find]
  cases hfind : hash.nodes.find? fun m => m.key = n.key with
  | none => rfl
  | some m =>
    have hkey := List.find?_some hfind
    exact node_eq_of_key hids (hash.ok m (List.mem_of_find?_eq_some hfind)) h
      (of_decide_eq_true hkey)

/-- With distinct ids a lookup does not depend on what is in the hash. -/
theorem lookupIn_eq (ht : TreeOk t) {dir : Sfsnode} (h : NodeOk t dir) (g : GSnapshot)
    (hash : NodeHash t) (cn : CStr) : lookupIn t g hash dir cn = sysfsVnopLookup t g dir cn := by
  unfold lookupIn
  cases hl : sysfsVnopLookup t g dir cn with
  | error e => rfl
  | ok n =>
    have hn := lookup_nodeOk ht h hl
    refine congrArg Except.ok ?_
    dsimp only
    rw [NodeHash.find_eq hids hash hn, ite_self]

theorem resolveStepsIn_eq (ht : TreeOk t) {dir : Sfsnode} (h : NodeOk t dir)
    (hash : ℕ → NodeHash t) (steps : List (CStr × GSnapshot)) :
    resolveStepsIn t hash dir steps = resolveSteps t dir steps := by
  induction steps generalizing dir hash with
  | nil => rfl
  | cons step steps ih =>
    simp only [resolveStepsIn, resolveSteps, lookupIn_eq hids ht h]
    cases hl : sysfsVnopLookup t step.2 dir step.1 with
    | error e => rfl
    | ok r => exact ih (lookup_nodeOk ht h hl) _

theorem resolveIn_eq (ht : TreeOk t) {dir : Sfsnode} (h : NodeOk t dir) (g : GSnapshot)
    (hash : ℕ → NodeHash t) (path : List CStr) :
    resolveIn t g hash dir path = resolve t g dir path := by
  rw [resolveIn, resolveStepsIn_eq hids ht h, resolveSteps_fixed]

end Distinct

section Built
variable {start : UInt16} {ncpu : UInt32}

theorem nodeOk_root (start : UInt16) (ncpu : UInt32) (mnt : Int32) :
    NodeOk (builtTree start ncpu) (sysfsRoot mnt) :=
  ⟨(builtTree_treeOk start ncpu).nonempty, (builtTree_root_id start ncpu).symm,
    fun _ => ⟨rfl, rfl⟩⟩

theorem firstTree_ids (ncpu : UInt32) : BaseIdsDistinct (builtTree 2 ncpu) := by
  have hcount := idCount_le ncpu
  have hfirst : 2 < 2 ^ 16 := by omega
  exact (builtTree_ids_nodup_iff hfirst ncpu).mpr ⟨by omega, by omega⟩

variable (hids : BaseIdsDistinct (builtTree start ncpu))
include hids

theorem walkFromRoot_eq (hash : ℕ → NodeHash (builtTree start ncpu)) (mnt : Int32)
    (steps : List (CStr × GSnapshot)) : walkFromRoot (builtTree start ncpu) hash mnt steps =
      resolveSteps (builtTree start ncpu) (sysfsRoot mnt) steps := by
  have hroot := nodeOk_root start ncpu mnt
  rw [walkFromRoot, NodeHash.find_eq hids _ hroot,
    resolveStepsIn_eq hids (builtTree_treeOk start ncpu) hroot]

theorem resolveFromRoot_eq (g : GSnapshot) (hash : ℕ → NodeHash (builtTree start ncpu))
    (mnt : Int32) (path : List CStr) : resolveFromRoot (builtTree start ncpu) g hash mnt path =
      resolve (builtTree start ncpu) g (sysfsRoot mnt) path := by
  rw [resolveFromRoot, walkFromRoot_eq hids, resolveSteps_fixed]

theorem reachableIn_iff {g : GSnapshot} {mnt : Int32} {n : Sfsnode} :
    ReachableIn (builtTree start ncpu) g mnt n ↔ Reachable (builtTree start ncpu) g mnt n := by
  unfold ReachableIn Reachable
  constructor
  · rintro ⟨hash, path, h⟩
    rw [resolveFromRoot_eq hids] at h
    exact ⟨path, h⟩
  · rintro ⟨path, h⟩
    refine ⟨fun _ => ⟨[], by simp⟩, path, ?_⟩
    rw [resolveFromRoot_eq hids]
    exact h

theorem ReachableIn.nodeOk {g : GSnapshot} {mnt : Int32} {n : Sfsnode}
    (h : ReachableIn (builtTree start ncpu) g mnt n) : NodeOk (builtTree start ncpu) n :=
  ((reachableIn_iff hids).mp h).nodeOk

end Built

end SysFS
