import SysFS.Lib.Worklist
import SysFS.StructureLookup

namespace SysFS
open CString

def sysfsReleaseStackMax : ℕ := 256

/-- The nodes and their links while they are being freed; every access to a freed node is a
fault. The peak is no field of the source: it is the largest number of nodes that were detached
and not yet freed at a time. -/
structure NodeHeap where
  ssnChildren : ℕ → List ℕ
  ssnParent : ℕ → Option ℕ
  freed : List ℕ
  peak : ℕ

namespace NodeHeap

def sawPending (h : NodeHeap) (n : ℕ) : NodeHeap := { h with peak := max h.peak n }

/-- `TAILQ_REMOVE(&owner->ssn_children, elm, ssn_next)`. It reads the element's two links and
writes the back link of the node after it and the forward link of the node before it; the
queue's head in the owner stands in for either at the end. -/
def tailqRemove (owner elm : ℕ) (h : NodeHeap) : Option NodeHeap :=
  let queue := h.ssnChildren owner
  let i := queue.idxOf elm
  let before := if i = 0 then owner else queue.getD (i - 1) owner
  let after := queue.getD (i + 1) owner
  if elm ∈ queue ∧ elm ∉ h.freed ∧ before ∉ h.freed ∧ after ∉ h.freed then
    some { h with ssnChildren := Function.update h.ssnChildren owner (queue.erase elm) }
  else none

def clearParent (node : ℕ) (h : NodeHeap) : Option NodeHeap :=
  if node ∉ h.freed then some { h with ssnParent := Function.update h.ssnParent node none }
  else none

/-- `OSFree`, which must not be given a node twice. -/
def osFree (node : ℕ) (h : NodeHeap) : Option NodeHeap :=
  if node ∉ h.freed then some { h with freed := h.freed ++ [node] } else none

end NodeHeap

/-- `stack[sp++] = node`, with the top of the stack first and `sp` its length. -/
def pushNode (node : ℕ) (stack : List ℕ) : Option (List ℕ) :=
  if stack.length < sysfsReleaseStackMax then some (node :: stack) else none

/-- The inner loop of `release_node`. -/
def detachChildren (node : ℕ) : ℕ → NodeHeap → List ℕ → Option (NodeHeap × List ℕ)
  | 0, _, _ => none
  | fuel + 1, h, stack =>
    if node ∈ h.freed then none
    else
      match h.ssnChildren node with
      | [] => some (h.sawPending stack.length, stack)
      | child :: _ => do
        let h ← (h.sawPending (stack.length + 1)).tailqRemove node child
        let h ← h.clearParent child
        if sysfsReleaseStackMax ≤ stack.length then
          -- the stack is full: the child and what is left of the queue are leaked
          some (h, stack)
        else
          detachChildren node fuel h (← pushNode child stack)

/-- The outer loop of `release_node`. The inner one removes a child each time round. -/
def releaseLoop : ℕ → NodeHeap → List ℕ → Option NodeHeap
  | 0, _, _ => none
  | _ + 1, h, [] => some h
  | fuel + 1, h, node :: stack => do
    let (h, stack) ← detachChildren node ((h.ssnChildren node).length + 1) h stack
    releaseLoop fuel (← h.osFree node) stack

def detachRoot (root : ℕ) (h : NodeHeap) : Option NodeHeap :=
  if root ∈ h.freed then none
  else
    match h.ssnParent root with
    | none => some h
    | some parent => do (← h.tailqRemove parent root).clearParent root

def releaseNode (fuel : ℕ) (root : Option ℕ) (h : NodeHeap) : Option NodeHeap :=
  match root with
  | none => some h
  | some root => do
    let h ← detachRoot root h
    releaseLoop fuel (h.sawPending 1) (← pushNode root [])

def Tree.heap (t : Tree) : NodeHeap := ⟨t.ssnChildren, fun i => (t.node i).ssnParent, [], 0⟩

section Loops

variable {h : NodeHeap} {node : ℕ} {stack queue : List ℕ}

theorem tailqRemove_first {child : ℕ} (hqueue : h.ssnChildren node = child :: queue)
    (hnode : node ∉ h.freed) (hlive : ∀ c ∈ child :: queue, c ∉ h.freed) :
    h.tailqRemove node child =
      some { h with ssnChildren := Function.update h.ssnChildren node queue } := by
  have hafter : queue[0]?.getD node ∉ h.freed := by
    cases queue with
    | nil => exact hnode
    | cons next rest => exact hlive next (by simp)
  have hchild : child ∉ h.freed := hlive child (by simp)
  simp [NodeHeap.tailqRemove, hqueue, hnode, hchild, hafter]

theorem clearParent_eq (hlive : node ∉ h.freed) :
    h.clearParent node = some { h with ssnParent := Function.update h.ssnParent node none } :=
  if_pos hlive

theorem detachChildren_cons (stack : List ℕ) (fuel : ℕ) {child : ℕ}
    (hqueue : h.ssnChildren node = child :: queue)
    (hnode : node ∉ h.freed) (hlive : ∀ c ∈ child :: queue, c ∉ h.freed) :
    ∃ h', detachChildren node (fuel + 1) h stack =
        (if sysfsReleaseStackMax ≤ stack.length then some (h', stack)
        else detachChildren node fuel h' (child :: stack)) ∧
      h'.freed = h.freed ∧ h'.peak = max h.peak (stack.length + 1) ∧
      h'.ssnChildren = Function.update h.ssnChildren node queue := by
  refine ⟨⟨Function.update h.ssnChildren node queue, Function.update h.ssnParent child none,
    h.freed, max h.peak (stack.length + 1)⟩, ?_, rfl, rfl, rfl⟩
  have hremove : (h.sawPending (stack.length + 1)).tailqRemove node child = some _ :=
    tailqRemove_first hqueue hnode hlive
  simp only [detachChildren, if_neg hnode, hqueue, hremove, Option.bind_eq_bind,
    Option.bind_some]
  rw [clearParent_eq, Option.bind_some]
  · split
    · rfl
    · rw [pushNode, if_pos (by omega)]
      rfl
  · exact hlive child (by simp)

/-- What the inner loop does to a live node whose children are live: it queues as many of them
as there is room for, and changes no other node's queue. -/
theorem detachChildren_spec (hqueue : h.ssnChildren node = queue) (hnode : node ∉ h.freed)
    (hlive : ∀ c ∈ queue, c ∉ h.freed) (hstack : stack.length ≤ sysfsReleaseStackMax) :
    ∃ h', detachChildren node (queue.length + 1) h stack =
        some (h', (queue.take (sysfsReleaseStackMax - stack.length)).reverse ++ stack) ∧
      h'.freed = h.freed ∧
      h'.peak = max h.peak (stack.length +
        min queue.length (sysfsReleaseStackMax - stack.length + 1)) ∧
      ∀ a ≠ node, h'.ssnChildren a = h.ssnChildren a := by
  induction queue generalizing h stack with
  | nil =>
    refine ⟨h.sawPending stack.length, ?_, rfl, by simp [NodeHeap.sawPending], fun _ _ => rfl⟩
    simp [detachChildren, hnode, hqueue]
  | cons child queue ih =>
    have ⟨h₁, hround, hfreed, hpeak, hchildren⟩ :=
      detachChildren_cons stack (queue.length + 1) hqueue hnode hlive
    have hother : ∀ a ≠ node, h₁.ssnChildren a = h.ssnChildren a := by
      intro a ha
      rw [hchildren, Function.update_of_ne ha]
    rw [List.length_cons, hround]
    rcases Nat.lt_or_ge stack.length sysfsReleaseStackMax with hroom | hfull
    · rw [if_neg (Nat.not_le.mpr hroom)]
      have ⟨h₂, hrest, hfreed', hpeak', hother'⟩ := @ih h₁ (child :: stack)
        (by rw [hchildren, Function.update_self]) (hfreed ▸ hnode)
        (fun c hc => hfreed ▸ hlive c (List.mem_cons_of_mem _ hc)) hroom
      have hsucc : sysfsReleaseStackMax - stack.length =
          sysfsReleaseStackMax - (child :: stack).length + 1 := by
        rw [List.length_cons]
        omega
      refine ⟨h₂, ?_, hfreed'.trans hfreed, ?_, fun a ha => (hother' a ha).trans (hother a ha)⟩
      · rw [hrest, hsucc, List.take_succ_cons, List.reverse_cons, List.append_assoc]
        rfl
      · rw [hpeak', hpeak, List.length_cons]
        omega
    · have hzero : sysfsReleaseStackMax - stack.length = 0 := by omega
      rw [if_pos hfull]
      refine ⟨h₁, ?_, hfreed, ?_, hother⟩
      · rw [hzero, List.take_zero]
        rfl
      · rw [hpeak, hzero]
        omega

/-- The loops have taken the tree apart as far as the worklist says: a node that is not freed
still has all its children. -/
structure Walks (children : ℕ → List ℕ) (h : NodeHeap) (s : Worklist.State ℕ) : Prop where
  freed : h.freed = s.done
  peak : h.peak = s.peak
  queues : ∀ a ∉ s.done, h.ssnChildren a = children a

variable {children : ℕ → List ℕ} {root : ℕ} {s : Worklist.State ℕ} (fuel : ℕ)

theorem releaseLoop_cons (htree : Forest.IsForest (fun p c => c ∈ children p) root)
    (hinv : Worklist.Inv sysfsReleaseStackMax children root s) (hwalks : Walks children h s)
    (hwaiting : s.waiting = node :: stack) :
    ∃ h', releaseLoop (fuel + 1) h (node :: stack) =
        releaseLoop fuel h' (Worklist.next sysfsReleaseStackMax children s).waiting ∧
      Walks children h' (Worklist.next sysfsReleaseStackMax children s) := by
  have hnode : node ∉ s.done := by
    have := hinv.nodup
    rw [hwaiting, List.cons_append, List.nodup_cons] at this
    exact fun hdone => this.1 (List.mem_append_right _ hdone)
  have hlive : ∀ c ∈ children node, c ∉ h.freed := by
    intro c hc hfreed
    apply hinv.fresh htree (hwaiting ▸ List.mem_cons_self) hc
    exact List.mem_append_right _ (hwalks.freed ▸ hfreed)
  have hstack : stack.length ≤ sysfsReleaseStackMax := by
    have := hinv.bounded
    rw [hwaiting, List.length_cons] at this
    omega
  have hqueue := hwalks.queues node hnode
  have ⟨h₁, hdetach, hfreed, hpeak, hother⟩ :=
    detachChildren_spec hqueue (hwalks.freed ▸ hnode) hlive hstack
  have hfree : h₁.osFree node = some { h₁ with freed := h₁.freed ++ [node] } :=
    if_pos (by rwa [hfreed, hwalks.freed])
  rw [Worklist.next_cons hwaiting]
  refine ⟨{ h₁ with freed := h₁.freed ++ [node] }, ?_, ?_⟩
  · simp only [releaseLoop, hqueue, hdetach, hfree, Option.bind_eq_bind, Option.bind_some]
  · constructor
    case freed => rw [← hwalks.freed, ← hfreed]
    case peak => rw [← hwalks.peak, ← hpeak]
    case queues =>
      intro a ha
      have ⟨hdone, hne⟩ : a ∉ s.done ∧ a ≠ node := by simpa using ha
      exact (hother a hne).trans (hwalks.queues a hdone)

theorem releaseLoop_eq (htree : Forest.IsForest (fun p c => c ∈ children p) root)
    (hnodup : ∀ a, (children a).Nodup)
    (hinv : Worklist.Inv sysfsReleaseStackMax children root s) (hwalks : Walks children h s)
    (hend : (Worklist.run sysfsReleaseStackMax children fuel s).waiting = []) :
    ∃ h', releaseLoop (fuel + 1) h s.waiting = some h' ∧
      Walks children h' (Worklist.run sysfsReleaseStackMax children fuel s) := by
  induction fuel generalizing h s with
  | zero =>
    have hnil : s.waiting = [] := hend
    exact ⟨h, by rw [hnil, releaseLoop], hwalks⟩
  | succ fuel ih =>
    cases hwaiting : s.waiting with
    | nil => exact ⟨h, by rw [releaseLoop], by rwa [Worklist.run_nil hwaiting]⟩
    | cons node stack =>
      have ⟨h₁, hstep, hwalks'⟩ := releaseLoop_cons (fuel + 1) htree hinv hwalks hwaiting
      rw [hstep]
      exact ih (hinv.next htree hnodup) hwalks' hend

end Loops

section Trees

variable {t : Tree} {root : ℕ}

theorem Tree.below_le (ht : t.ParentsBefore) {i : ℕ} (h : Worklist.Below t.ssnChildren root i) :
    root ≤ i := by
  induction h with
  | refl => exact le_refl _
  | tail _ hc ih => exact le_trans ih (ht _ _ (mem_ssnChildren.mp hc).2).le

theorem Tree.below_lt (hroot : root < t.nodes.length) {i : ℕ}
    (h : Worklist.Below t.ssnChildren root i) : i < t.nodes.length := by
  cases h with
  | refl => exact hroot
  | tail _ hc => exact (mem_ssnChildren.mp hc).1

/-- The tree under a node that its own parent no longer has in its queue. -/
structure Detached (t : Tree) (root : ℕ) (children : ℕ → List ℕ) : Prop where
  sublist : ∀ a, (children a).Sublist (t.ssnChildren a)
  unlinked : ∀ a, root ∉ children a
  below : ∀ a, root ≤ a → children a = t.ssnChildren a

theorem detachRoot_heap (ht : t.ParentsBefore) (hroot : root < t.nodes.length) :
    ∃ h, detachRoot root t.heap = some h ∧ h.freed = [] ∧ h.peak = 0 ∧
      Detached t root h.ssnChildren := by
  cases hparent : (t.node root).ssnParent with
  | none =>
    refine ⟨t.heap, by simp [detachRoot, Tree.heap, hparent], rfl, rfl, ?_⟩
    refine ⟨fun _ => .refl _, ?_, fun _ _ => rfl⟩
    intro a ha
    have := (mem_ssnChildren.mp ha).2
    rw [hparent] at this
    cases this
  | some p =>
    have hmem : root ∈ t.ssnChildren p := mem_ssnChildren.mpr ⟨hroot, hparent⟩
    have hlt : p < root := ht _ _ hparent
    refine ⟨⟨Function.update t.ssnChildren p ((t.ssnChildren p).erase root),
      Function.update (fun i => (t.node i).ssnParent) root none, [], 0⟩, ?_, rfl, rfl, ?_⟩
    · simp [detachRoot, Tree.heap, NodeHeap.tailqRemove, NodeHeap.clearParent, hparent, hmem]
    · constructor
      case sublist =>
        intro a
        rcases eq_or_ne a p with rfl | ha
        · simp [List.erase_sublist]
        · simp [Function.update_of_ne ha]
      case unlinked =>
        intro a ha
        rcases eq_or_ne a p with rfl | hne
        · simp [(t.ssnChildren_nodup a).mem_erase_iff] at ha
        · have ha : root ∈ t.ssnChildren a := by simpa [Function.update_of_ne hne] using ha
          rw [mem_ssnChildren, hparent] at ha
          exact hne (Option.some_inj.mp ha.2).symm
      case below =>
        intro a ha
        exact Function.update_of_ne (by omega) _ _

variable {children : ℕ → List ℕ}

theorem Detached.isForest (h : Detached t root children) :
    Forest.IsForest (fun p c => c ∈ children p) root where
  parent_unique := by
    intro p q c hp hq
    have hp := (mem_ssnChildren.mp ((h.sublist p).mem hp)).2
    have hq := (mem_ssnChildren.mp ((h.sublist q).mem hq)).2
    exact Option.some_inj.mp (hp.symm.trans hq)
  root_parent := fun {p} => h.unlinked p

theorem Detached.below_iff (ht : t.ParentsBefore) (h : Detached t root children) {i : ℕ} :
    Worklist.Below children root i ↔ Worklist.Below t.ssnChildren root i := by
  constructor
  · intro hi
    exact Relation.ReflTransGen.mono (fun p c hc => (h.sublist p).mem hc) _ _ hi
  · intro hi
    induction hi with
    | refl => exact .refl
    | tail hp hc ih => exact ih.tail (h.below _ (Tree.below_le ht hp) ▸ hc)

/-- `release_node` on a tree is the walk over it with a bounded stack, run to its end. -/
theorem releaseNode_walks (ht : t.ParentsBefore) (hroot : root < t.nodes.length) {fuel : ℕ}
    (hfuel : t.nodes.length < fuel) :
    ∃ h children s, releaseNode fuel (some root) t.heap = some h ∧ Detached t root children ∧
      s = Worklist.run sysfsReleaseStackMax children (fuel - 1) (Worklist.start root) ∧
      s.waiting = [] ∧ Worklist.Inv sysfsReleaseStackMax children root s ∧
      Walks children h s := by
  obtain ⟨h, hdetach, hfreed, hpeak, hchildren⟩ := detachRoot_heap ht hroot
  have hnodup : ∀ a, (h.ssnChildren a).Nodup :=
    fun a => (t.ssnChildren_nodup a).sublist (hchildren.sublist a)
  have hstart : Worklist.Inv sysfsReleaseStackMax h.ssnChildren root (Worklist.start root) :=
    .start (by decide)
  have hall : ∀ a, Worklist.Below h.ssnChildren root a → a ∈ List.range t.nodes.length := by
    intro a ha
    rw [hchildren.below_iff ht] at ha
    exact List.mem_range.mpr (Tree.below_lt hroot ha)
  have hend : (Worklist.run sysfsReleaseStackMax h.ssnChildren (fuel - 1)
      (Worklist.start root)).waiting = [] := by
    apply hstart.run_waiting hchildren.isForest hnodup hall
    rw [List.length_range]
    omega
  have hwalks : Walks h.ssnChildren (h.sawPending 1) (Worklist.start root) :=
    ⟨hfreed, by simp [NodeHeap.sawPending, hpeak, Worklist.start], fun _ _ => rfl⟩
  obtain ⟨h', hloop, hwalks'⟩ := releaseLoop_eq _ hchildren.isForest hnodup hstart hwalks hend
  refine ⟨h', h.ssnChildren, _, ?_, hchildren, rfl, hend, hstart.run hchildren.isForest hnodup _,
    hwalks'⟩
  have hpush : pushNode root [] = some [root] := rfl
  rw [show fuel - 1 + 1 = fuel by omega] at hloop
  simp only [releaseNode, hdetach, hpush, Option.bind_eq_bind, Option.bind_some]
  exact hloop

/-- What a release of the node `root` may free, and what it must: nothing twice and nothing
that is not under the node, and all that is under it unless more nodes were pending at some
point than the stack has room for. -/
structure Released (t : Tree) (root : ℕ) (h : NodeHeap) : Prop where
  nodup : h.freed.Nodup
  below : ∀ i ∈ h.freed, Worklist.Below t.ssnChildren root i
  complete : h.peak ≤ sysfsReleaseStackMax →
    ∀ i, Worklist.Below t.ssnChildren root i → i ∈ h.freed

theorem Walks.released (ht : t.ParentsBefore) {h : NodeHeap} {s : Worklist.State ℕ}
    (hdetached : Detached t root children) (hend : s.waiting = [])
    (hinv : Worklist.Inv sysfsReleaseStackMax children root s) (hwalks : Walks children h s) :
    Released t root h where
  nodup := by
    rw [hwalks.freed]
    exact (List.nodup_append.mp hinv.nodup).2.1
  below := by
    intro i hi
    rw [hwalks.freed] at hi
    exact (hdetached.below_iff ht).mp (hinv.below i (List.mem_append_right _ hi))
  complete := by
    intro hpeak i hi
    rw [hwalks.freed, hinv.done_iff hend (hwalks.peak ▸ hpeak)]
    exact (hdetached.below_iff ht).mpr hi

end Trees

/-- The names in the directories that hold something of their own, with a bound for what the
release of the directory has pending besides the directory itself. The `cpu` directory holds
those of the CPUs too; the other directories are those of the classes, of the CPUs and empty
ones. -/
def dirTable : List (CStr × List CStr × ℕ) :=
  [(cstr "/", [cstr "block", cstr "bus", cstr "class", cstr "dev", cstr "devices",
      cstr "firmware", cstr "fs", cstr "hypervisor", cstr "kernel", cstr "module",
      cstr "power"], 96),
    (cstr "class", sysfsClasses.map Prod.fst, 14),
    (cstr "dev", [cstr "char", cstr "block"], 12),
    (cstr "devices", [cstr "system"], 84),
    (cstr "system", [cstr "node", cstr "cpu"], 82),
    (cstr "cpu", [cstr "online", cstr "possible", cstr "present", cstr "offline",
      cstr "kernel_max"], 79),
    (cstr "topology", [cstr "core_id", cstr "physical_package_id",
      cstr "thread_siblings_list", cstr "core_siblings_list"], 5),
    (cstr "node", [cstr "node0", cstr "online", cstr "possible", cstr "has_cpu",
      cstr "has_memory"], 21),
    (cstr "node0", [cstr "hugepages", cstr "cpulist", cstr "cpumap", cstr "meminfo",
      cstr "distance", cstr "numastat"], 15),
    (cstr "hugepages", [cstr "hugepages-2048kB"], 8),
    (cstr "hugepages-2048kB", [cstr "nr_hugepages", cstr "free_hugepages",
      cstr "surplus_hugepages", cstr "resv_hugepages", cstr "nr_overcommit_hugepages"], 6),
    (cstr "kernel", [cstr "mm"], 12),
    (cstr "mm", [cstr "hugepages"], 10)]

def dirRow (name : CStr) : List CStr × ℕ :=
  (dirTable.lookup name).getD ([cstr "__member__", cstr "online", cstr "topology"], 9)

def fixedNames (name : CStr) : List CStr := cstr "." :: cstr ".." :: (dirRow name).1

def cpuNames (name : CStr) : List CStr :=
  if name = cstr "cpu" then (List.range sysfsMaxCpuNodes).map cpuName else []

def releaseRank (s : Sfssnode) : ℕ :=
  (if s.ssnNodeType ∈ [.SFSroot, .SFSdir, .SFSdevice] then (dirRow s.ssnName).2 else 0) + 1

/-- What is checked of a node and its parent: the name is one that the parent may hold, and
the rank leaves room for all the parent's children. A CPU's own number says which name it has. -/
def ranksUnder (s parent : Sfssnode) : Bool :=
  decide ((s.ssnName ∈ fixedNames parent.ssnName ∨ parent.ssnName = cstr "cpu" ∧
      s.ssnInstance.toNat < sysfsMaxCpuNodes ∧ s.ssnName = cpuName s.ssnInstance.toNat) ∧
    releaseRank s + (fixedNames parent.ssnName ++ cpuNames parent.ssnName).length ≤
      releaseRank parent + 1)

theorem mem_names_of_ranksUnder {s parent : Sfssnode} (h : ranksUnder s parent = true) :
    s.ssnName ∈ fixedNames parent.ssnName ++ cpuNames parent.ssnName := by
  rw [List.mem_append]
  rcases (of_decide_eq_true h).1 with hfixed | ⟨hcpu, hlt, hname⟩
  · exact .inl hfixed
  · right
    rw [cpuNames, if_pos hcpu, hname]
    exact List.mem_map_of_mem (List.mem_range.mpr hlt)

theorem blocks_ranked : Local ranksUnder headNodes ∧ Local ranksUnder afterArena ∧
    ∀ c < sysfsMaxCpuNodes, Local ranksUnder (cpuArena c) := by
  decide +kernel

section Built

variable (start : UInt16) (ncpu : UInt32)

theorem ranked_parent {i : ℕ} (hi : i < (builtTree start ncpu).nodes.length) (hpos : 0 < i) :
    ∃ p < i, ((builtTree start ncpu).node i).ssnParent = some p ∧
      ranksUnder (bare ((builtTree start ncpu).node i))
        (bare ((builtTree start ncpu).node p)) = true := by
  have hle := cpuNodes_le ncpu
  apply builtTree_local start _ hi hpos
  exact treeShape_local hle blocks_ranked.1 (fun c hc => blocks_ranked.2.2 c (by omega))
    blocks_ranked.2.1

theorem ranked_child {p c : ℕ} (hc : c ∈ (builtTree start ncpu).ssnChildren p) :
    ranksUnder (bare ((builtTree start ncpu).node c))
      (bare ((builtTree start ncpu).node p)) = true := by
  have ⟨hlt, hparent⟩ := mem_ssnChildren.mp hc
  have hbefore := builtTree_parentsBefore start ncpu c p hparent
  have ⟨q, _, hq, hranks⟩ := ranked_parent start ncpu hlt (by omega)
  rw [hparent, Option.some_inj] at hq
  exact hq ▸ hranks

/-- The children of a node have distinct names, all of them from the names of its row. -/
theorem ssnChildren_length_le (p : ℕ) : ((builtTree start ncpu).ssnChildren p).length ≤
    (fixedNames ((builtTree start ncpu).node p).ssnName ++
      cpuNames ((builtTree start ncpu).node p).ssnName).length := by
  have hnodup : (childNames (builtTree start ncpu).nodes p).Nodup := builtTree_siblings p
  rw [← ssnChildren_names] at hnodup
  rw [← List.length_map (fun c => ((builtTree start ncpu).node c).ssnName)]
  apply (List.subperm_of_subset hnodup _).length_le
  intro name hname
  have ⟨c, hc, heq⟩ := List.mem_map.mp hname
  have hmem := mem_names_of_ranksUnder (ranked_child start ncpu hc)
  rw [← heq]
  exact hmem

theorem builtTree_isRank : Worklist.IsRank (builtTree start ncpu).ssnChildren
    fun i => releaseRank (bare ((builtTree start ncpu).node i)) where
  pos := fun _ => Nat.succ_pos _
  child := by
    intro p k c hc
    have hk := (List.getElem?_eq_some_iff.mp hc).1
    have hrank := (of_decide_eq_true (ranked_child start ncpu (List.mem_of_getElem? hc))).2
    have hlen := ssnChildren_length_le start ncpu p
    have hname : (bare ((builtTree start ncpu).node p)).ssnName =
      ((builtTree start ncpu).node p).ssnName := rfl
    rw [hname] at hrank
    omega

theorem builtTree_rank_root :
    releaseRank (bare ((builtTree start ncpu).node 0)) ≤ sysfsReleaseStackMax := by
  have hroot : releaseRank (headNodes.getD 0 default) ≤ sysfsReleaseStackMax := by
    decide +kernel
  rwa [← builtTree_head_node start ncpu (by omega)] at hroot

theorem builtTree_below {i : ℕ} (hi : i < (builtTree start ncpu).nodes.length) :
    Worklist.Below (builtTree start ncpu).ssnChildren 0 i := by
  induction i using Nat.strongRecOn with
  | _ i ih =>
    rcases Nat.eq_zero_or_pos i with rfl | hpos
    · exact .refl
    · have ⟨p, hlt, hp, _⟩ := ranked_parent start ncpu hi hpos
      exact (ih p hlt (by omega)).tail (mem_ssnChildren.mpr ⟨hi, hp⟩)

end Built

/-- On every finite tree and from every node of it, `release_node` returns without a fault: it
stores within the stack, touches no freed node and frees none twice, and what it frees is what
is under the node. The tree that is built never has more than 256 nodes pending, so that each
of its nodes is freed once. -/
theorem release_node_safe :
    (∀ (t : Tree) (root fuel : ℕ), t.ParentsBefore → root < t.nodes.length →
      t.nodes.length < fuel →
      ∃ h, releaseNode fuel (some root) t.heap = some h ∧ Released t root h) ∧
    ∀ (start : UInt16) (ncpu : UInt32) (fuel : ℕ),
      (builtTree start ncpu).nodes.length < fuel →
      ∃ h, releaseNode fuel (some 0) (builtTree start ncpu).heap = some h ∧
        h.peak ≤ sysfsReleaseStackMax ∧
        h.freed.Perm (List.range (builtTree start ncpu).nodes.length) := by
  constructor
  · intro t root fuel ht hroot hfuel
    have ⟨h, children, s, heq, hdetached, _, hend, hinv, hwalks⟩ :=
      releaseNode_walks ht hroot hfuel
    exact ⟨h, heq, hwalks.released ht hdetached hend hinv⟩
  · intro start ncpu fuel hfuel
    have ht := builtTree_parentsBefore start ncpu
    have hroot : 0 < (builtTree start ncpu).nodes.length := by
      rw [builtTree_length]
      omega
    have ⟨h, children, s, heq, hdetached, hs, hend, hinv, hwalks⟩ :=
      releaseNode_walks ht hroot hfuel
    have hreleased := hwalks.released ht hdetached hend hinv
    have hpeak : h.peak ≤ sysfsReleaseStackMax := by
      -- the root has no parent, so nothing was detached before the walk
      have hchildren : children = (builtTree start ncpu).ssnChildren := by
        funext a
        exact hdetached.below a (Nat.zero_le a)
      have hrank := builtTree_isRank start ncpu
      rw [hwalks.peak, hs, hchildren]
      apply le_trans ((Worklist.Ranked.start hrank 0).run hrank (fuel - 1)).1
      exact builtTree_rank_root start ncpu
    refine ⟨h, heq, hpeak, ?_⟩
    rw [List.perm_ext_iff_of_nodup hreleased.nodup List.nodup_range]
    intro i
    rw [List.mem_range]
    constructor
    · intro hi
      exact Tree.below_lt hroot (hreleased.below i hi)
    · intro hi
      exact hreleased.complete hpeak i (builtTree_below start ncpu hi)

def dottedDir : Tree :=
  ⟨[⟨.SFSroot, cstr "/", 1, 0, 0, none, 0, none⟩, ⟨.SFSdir, cstr "bus", 2, 0, 0, some 0, 0, none⟩,
    ⟨.SFSdirthis, cstr ".", 3, 0, 0, some 1, 0, none⟩,
    ⟨.SFSdirparent, cstr "..", 4, 0, 0, some 1, 0, none⟩]⟩

theorem dottedDir_parentsBefore : dottedDir.ParentsBefore := by
  have hall : ∀ i < 4, ((dottedDir.node i).ssnParent.all fun p => decide (p < i)) = true := by
    decide
  intro i p hp
  rcases Nat.lt_or_ge i 4 with hi | hi
  · have hbefore := hall i hi
    rw [hp] at hbefore
    exact of_decide_eq_true hbefore
  · rw [Tree.node, List.getD_eq_default _ _ hi] at hp
    cases hp

theorem dottedDir_released :
    (∃ h, releaseNode 5 (some 1) dottedDir.heap = some h ∧ Released dottedDir 1 h) ∧
      ((releaseNode 5 (some 1) dottedDir.heap).map NodeHeap.freed = some [1, 3, 2]) ∧
      ∃ h, releaseNode 812 (some 0) (builtTree 2 64).heap = some h ∧
        h.peak ≤ sysfsReleaseStackMax ∧ h.freed.Perm (List.range 811) := by
  refine ⟨release_node_safe.1 dottedDir 1 5 dottedDir_parentsBefore (by decide) (by decide),
    by decide +kernel, ?_⟩
  have hlen : (builtTree 2 64).nodes.length = 811 := builtTree_length 2 64
  rw [← hlen]
  exact release_node_safe.2 2 64 812 (by rw [hlen]; decide)

end SysFS
