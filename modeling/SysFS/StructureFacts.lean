import Mathlib
import SysFS.Lookup
import SysFS.StructureShape

namespace SysFS
open CString

def bare (s : Sfssnode) : Sfssnode := { s with ssnBaseNodeId := 0, ssnParent := none }

def localAt (P : Sfssnode → Sfssnode → Bool) (nodes : List Sfssnode) (i : ℕ) : Bool :=
  match nodes[i]? with
  | none => false
  | some s =>
    match s.ssnParent with
    | none => false
    | some p => p < i && (nodes[p]?).any fun q => P (bare s) (bare q)

/-- `P` holds of every node after the first one and its parent. -/
def Local (P : Sfssnode → Sfssnode → Bool) (nodes : List Sfssnode) : Prop :=
  ∀ i < nodes.length, 0 < i → localAt P nodes i = true

instance (P : Sfssnode → Sfssnode → Bool) (nodes : List Sfssnode) : Decidable (Local P nodes) :=
  inferInstanceAs (Decidable (∀ i < nodes.length, 0 < i → localAt P nodes i = true))

theorem localAt_iff {P : Sfssnode → Sfssnode → Bool} {nodes : List Sfssnode} {i : ℕ} :
    localAt P nodes i = true ↔ ∃ s p q, nodes[i]? = some s ∧ s.ssnParent = some p ∧ p < i ∧
      nodes[p]? = some q ∧ P (bare s) (bare q) = true := by
  unfold localAt
  cases nodes[i]? with
  | none => simp
  | some s =>
    cases hp : s.ssnParent with
    | none => simp [hp]
    | some p =>
      cases hq : nodes[p]? with
      | none => simp [hp, hq]
      | some q => simp [hp, hq]

section Place
variable {ns new : List Sfssnode} {seed a : Sfssnode} {π : Placement}

/-- A block whose only seed stands for a node of the arena it is appended to. -/
structure Attached (ns : List Sfssnode) (seed : Sfssnode) (π : Placement) : Prop where
  base : π.base = ns.length
  seeds : π.seeds = 1
  anchor : ∃ a, ns[π.anchor]? = some a ∧ bare a = bare seed

theorem Attached.anchor_lt (h : Attached ns seed π) : π.anchor < ns.length := by
  obtain ⟨a, ha, -⟩ := h.anchor
  exact (List.getElem?_eq_some_iff.mp ha).1

theorem Attached.ptr_zero (h : Attached ns seed π) : π.ptr 0 = π.anchor := by
  rw [Placement.ptr, if_pos (by rw [h.seeds]; exact Nat.one_pos)]

theorem Attached.ptr_succ (h : Attached ns seed π) (k : ℕ) : π.ptr (k + 1) = ns.length + k := by
  rw [← h.base, ← π.ptr_seeds_add, h.seeds, Nat.add_comm]

theorem getElem?_placed (h : Attached ns seed π) (k : ℕ) :
    (ns ++ new.map π.node)[π.ptr (k + 1)]? = new[k]?.map π.node := by
  rw [h.ptr_succ, List.getElem?_append_right (Nat.le_add_right ..), Nat.add_sub_cancel_left,
    List.getElem?_map]

theorem Local.place {P : Sfssnode → Sfssnode → Bool} (h : Attached ns seed π) (hns : Local P ns)
    (hnew : Local P (seed :: new)) : Local P (ns ++ new.map π.node) := by
  intro i hi hpos
  by_cases hold : i < ns.length
  · obtain ⟨s, p, q, hs, hp, hlt, hq, hP⟩ := localAt_iff.mp (hns i hold hpos)
    refine localAt_iff.mpr ⟨s, p, q, ?_, hp, hlt, ?_, hP⟩
    · rwa [List.getElem?_append_left hold]
    · rwa [List.getElem?_append_left (hlt.trans hold)]
  obtain ⟨k, rfl⟩ := Nat.exists_eq_add_of_le (Nat.le_of_not_lt hold)
  have hk : k < new.length := by simpa using hi
  obtain ⟨s, p, q, hs, hp, hlt, hq, hP⟩ :=
    localAt_iff.mp (hnew (k + 1) (by simpa using hk) (by omega))
  rw [List.getElem?_cons_succ] at hs
  rw [← h.ptr_succ]
  cases p with
  | zero =>
    obtain rfl : seed = q := by simpa using hq
    obtain ⟨a, ha, hbare⟩ := h.anchor
    refine localAt_iff.mpr ⟨π.node s, π.anchor, a, ?_, ?_, ?_, ?_, ?_⟩
    · rw [getElem?_placed h, hs, Option.map_some]
    · rw [Placement.node, hp, Option.map_some, h.ptr_zero]
    · rw [h.ptr_succ]
      exact Nat.lt_add_right _ h.anchor_lt
    · rwa [List.getElem?_append_left h.anchor_lt]
    · rw [hbare]
      exact hP
  | succ p =>
    rw [List.getElem?_cons_succ] at hq
    refine localAt_iff.mpr ⟨π.node s, π.ptr (p + 1), π.node q, ?_, ?_, ?_, ?_, hP⟩
    · rw [getElem?_placed h, hs, Option.map_some]
    · rw [Placement.node, hp, Option.map_some]
    · rw [h.ptr_succ, h.ptr_succ]
      exact Nat.add_lt_add_left (Nat.lt_of_succ_lt_succ hlt) _
    · rw [getElem?_placed h, hq, Option.map_some]

/-- The names of the children of `p`, in the order of the child queue. -/
def childNames (nodes : List Sfssnode) (p : ℕ) : List CStr :=
  (nodes.filter fun s => s.ssnParent = some p).map Sfssnode.ssnName

def SiblingsDistinct (nodes : List Sfssnode) : Prop := ∀ p, (childNames nodes p).Nodup

theorem childNames_append (l₁ l₂ : List Sfssnode) (p : ℕ) :
    childNames (l₁ ++ l₂) p = childNames l₁ p ++ childNames l₂ p := by
  simp [childNames]

theorem childNames_placed {p q : ℕ} (hq : ∀ p', π.ptr p' = q ↔ p' = p) :
    childNames (new.map π.node) q = childNames new p := by
  induction new with
  | nil => rfl
  | cons s new ih =>
    have hparent : (s.ssnParent.map π.ptr = some q) ↔ s.ssnParent = some p := by
      cases s.ssnParent <;> simp [hq]
    simp only [childNames, List.map_cons, List.filter_cons, Placement.node, hparent] at ih ⊢
    split <;> simp [ih]

theorem childNames_eq_nil {nodes : List Sfssnode} {p : ℕ}
    (h : ∀ s ∈ nodes, s.ssnParent ≠ some p) : childNames nodes p = [] := by
  simp only [childNames, List.map_eq_nil_iff, List.filter_eq_nil_iff, decide_eq_true_eq]
  exact h

def ParentsIn (nodes : List Sfssnode) : Prop :=
  ∀ s ∈ nodes, ∀ p, s.ssnParent = some p → p < nodes.length

theorem Attached.ptr_eq_anchor (h : Attached ns seed π) (p : ℕ) : π.ptr p = π.anchor ↔ p = 0 := by
  cases p with
  | zero => simp [h.ptr_zero]
  | succ k =>
    have := h.anchor_lt
    rw [h.ptr_succ]
    omega

theorem Attached.ptr_eq_new (h : Attached ns seed π) (k p : ℕ) :
    π.ptr p = ns.length + k ↔ p = k + 1 := by
  cases p with
  | zero =>
    have := h.anchor_lt
    rw [h.ptr_zero]
    omega
  | succ j =>
    rw [h.ptr_succ]
    omega

theorem Attached.childNames_other (h : Attached ns seed π) {p : ℕ} (hanchor : p ≠ π.anchor)
    (hp : p < ns.length) : childNames (new.map π.node) p = [] := by
  apply childNames_eq_nil
  rintro s hs
  obtain ⟨s, -, rfl⟩ := List.mem_map.mp hs
  rw [Placement.node, Ne, Option.map_eq_some_iff]
  rintro ⟨p', -, hp'⟩
  cases p' with
  | zero => exact hanchor (by rw [← hp', h.ptr_zero])
  | succ k =>
    rw [h.ptr_succ] at hp'
    omega

theorem SiblingsDistinct.place (h : Attached ns seed π) (hin : ParentsIn ns)
    (hns : SiblingsDistinct ns) (hnew : SiblingsDistinct new)
    (hdisj : (childNames ns π.anchor).Disjoint (childNames new 0)) :
    SiblingsDistinct (ns ++ new.map π.node) := by
  intro p
  rw [childNames_append]
  by_cases hanchor : p = π.anchor
  · -- the new children of the anchor come after its old ones
    rw [hanchor, childNames_placed h.ptr_eq_anchor]
    exact List.nodup_append'.mpr ⟨hns _, hnew 0, hdisj⟩
  by_cases hp : p < ns.length
  · rw [h.childNames_other hanchor hp, List.append_nil]
    exact hns p
  · obtain ⟨k, rfl⟩ := Nat.exists_eq_add_of_le (Nat.le_of_not_lt hp)
    have hold : childNames ns (ns.length + k) = [] :=
      childNames_eq_nil fun s hs hparent => hp (hin s hs _ hparent)
    rw [hold, childNames_placed (h.ptr_eq_new k)]
    exact hnew (k + 1)

theorem ParentsIn.of_local {P : Sfssnode → Sfssnode → Bool} {nodes : List Sfssnode}
    (h : Local P nodes) (hroot : (nodes[0]?.bind Sfssnode.ssnParent) = none) :
    ParentsIn nodes := by
  intro s hs p hp
  obtain ⟨i, hi, rfl⟩ := List.mem_iff_getElem.mp hs
  cases i with
  | zero =>
    rw [List.getElem?_eq_getElem hi, Option.bind_some] at hroot
    rw [hroot] at hp
    cases hp
  | succ i =>
    obtain ⟨s, p', -, hs', hp', hlt, -⟩ := localAt_iff.mp (h (i + 1) hi (by omega))
    rw [List.getElem?_eq_getElem hi, Option.some_inj] at hs'
    rw [← hs', hp, Option.some_inj] at hp'
    rw [hp']
    exact hlt.trans hi

end Place

def cpuName (c : ℕ) : CStr :=
  strlcpy (strlcpy (cstr "cpu" ++ decimal c) maxStructNodeNameLen) maxStructNodeNameLen

/-- The block of CPU `c` hangs under the `cpu` directory, and adds one name to it. -/
@[mk_iff]
structure CpuBlock (c : ℕ) : Prop where
  head : (cpuArena c).head? = some (headNodes.getD cpuDirNode default)
  names : childNames (cpuArena c).tail 0 = [cpuName c]
  siblings : ∀ p < 12, (childNames (cpuArena c).tail p).Nodup
  fresh : cpuName c ∉ childNames headNodes cpuDirNode
  parents : Local (fun _ _ => true) (cpuArena c)

@[mk_iff]
structure HeadBlock : Prop where
  siblings : ∀ p < 74, (childNames headNodes p).Nodup
  parents : Local (fun _ _ => true) headNodes
  root : (headNodes[0]?.bind Sfssnode.ssnParent) = none

/-- The last block hangs under the root, and adds other names to it. -/
@[mk_iff]
structure AfterBlock : Prop where
  head : afterArena.head? = some (headNodes.getD rootNode default)
  siblings : ∀ p < 34, (childNames afterArena.tail p).Nodup
  fresh : ∀ nm ∈ childNames headNodes rootNode, nm ∉ childNames afterArena.tail 0
  parents : Local (fun _ _ => true) afterArena

instance (c : ℕ) : Decidable (CpuBlock c) := decidable_of_iff' _ (cpuBlock_iff c)
instance : Decidable (HeadBlock ∧ AfterBlock) :=
  decidable_of_iff' _ (and_congr headBlock_iff afterBlock_iff)

theorem blocks_checked : (∀ c < sysfsMaxCpuNodes, CpuBlock c) ∧ HeadBlock ∧ AfterBlock := by
  decide +kernel

theorem cpuArena_block : ∀ c < sysfsMaxCpuNodes, CpuBlock c := blocks_checked.1

theorem head_after_blocks : HeadBlock ∧ AfterBlock := blocks_checked.2

theorem cons_tail_of_head? {α : Type} {l : List α} {a : α} (h : l.head? = some a) :
    a :: l.tail = l := by
  cases l with
  | nil => cases h
  | cons b l => simpa using h.symm

theorem attached_head {n q : ℕ} (hn : n ≤ sysfsMaxCpuNodes) (hq : q < 74) :
    Attached (loopShape n) (headNodes.getD q default) ⟨cpuBase n, 1, q⟩ := by
  refine ⟨(loopShape_length hn).symm, rfl, headNodes.getD q default, ?_, rfl⟩
  rw [← headNodes_length] at hq
  rw [loopShape_getElem? n (by rwa [headNodes_length] at hq), List.getElem?_eq_getElem hq,
    List.getD_eq_getElem _ _ hq]

/-- A fact about nodes and their parents holds of the tree when it holds of its parts. -/
theorem loopShape_local {P : Sfssnode → Sfssnode → Bool} {n : ℕ} (hn : n ≤ sysfsMaxCpuNodes)
    (hhead : Local P headNodes) (hcpu : ∀ c < n, Local P (cpuArena c)) : Local P (loopShape n) := by
  induction n with
  | zero => exact hhead
  | succ n ih =>
    have hblock := hcpu n (by omega)
    rw [← cons_tail_of_head? (cpuArena_block n (by omega)).head] at hblock
    have hloop := ih (by omega) fun c hc => hcpu c (by omega)
    exact hloop.place (attached_head (by omega) (by decide)) hblock

theorem treeShape_local {P : Sfssnode → Sfssnode → Bool} {n : ℕ} (hn : n ≤ sysfsMaxCpuNodes)
    (hhead : Local P headNodes) (hcpu : ∀ c < n, Local P (cpuArena c))
    (hafter : Local P afterArena) : Local P (treeShape n) := by
  rw [← cons_tail_of_head? head_after_blocks.2.head] at hafter
  exact (loopShape_local hn hhead hcpu).place (attached_head hn (by decide)) hafter

theorem cpuName_eq {c : ℕ} (hc : c < sysfsMaxCpuNodes) : cpuName c = cstr "cpu" ++ decimal c := by
  have hlen : (decimal c).length ≤ 2 :=
    decimal_length_le (by omega) (by unfold sysfsMaxCpuNodes at hc; omega)
  have hfits : (cstr "cpu" ++ decimal c).length < maxStructNodeNameLen := by
    rw [List.length_append, show (cstr "cpu").length = 3 from rfl, maxStructNodeNameLen]
    omega
  rw [cpuName, strlcpy_of_fits hfits, strlcpy_of_fits hfits]

theorem cpuName_inj {c d : ℕ} (hc : c < sysfsMaxCpuNodes) (hd : d < sysfsMaxCpuNodes)
    (h : cpuName c = cpuName d) : c = d := by
  rw [cpuName_eq hc, cpuName_eq hd] at h
  exact decimal_injective (List.append_cancel_left h)

theorem siblings_of_bounded {nodes : List Sfssnode} (hin : ParentsIn nodes)
    (h : ∀ p < nodes.length, (childNames nodes p).Nodup) : SiblingsDistinct nodes := by
  intro p
  by_cases hp : p < nodes.length
  · exact h p hp
  · rw [childNames_eq_nil fun s hs hparent => hp (hin s hs p hparent)]
    exact List.nodup_nil

theorem siblings_of_block {seed : Sfssnode} {new : List Sfssnode}
    (hlocal : Local (fun _ _ => true) (seed :: new))
    (h : ∀ p < new.length + 1, (childNames new p).Nodup) : SiblingsDistinct new := by
  intro p
  by_cases hp : p < new.length + 1
  · exact h p hp
  · rw [childNames_eq_nil]
    · exact List.nodup_nil
    intro s hs hparent
    obtain ⟨i, hi, rfl⟩ := List.mem_iff_getElem.mp hs
    obtain ⟨s, p', -, hs', hp', hlt, -⟩ :=
      localAt_iff.mp (hlocal (i + 1) (by simpa using hi) (by omega))
    rw [List.getElem?_cons_succ, List.getElem?_eq_getElem hi, Option.some_inj] at hs'
    rw [← hs', hparent, Option.some_inj] at hp'
    omega

theorem cpuArena_siblingsDistinct {c : ℕ} (hc : c < sysfsMaxCpuNodes) :
    SiblingsDistinct (cpuArena c).tail := by
  have hlocal := (cpuArena_block c hc).parents
  rw [← cons_tail_of_head? (cpuArena_block c hc).head] at hlocal
  apply siblings_of_block hlocal
  rw [List.length_tail, cpuArena_length c hc]
  exact (cpuArena_block c hc).siblings

theorem afterArena_siblingsDistinct : SiblingsDistinct afterArena.tail := by
  have hlocal := head_after_blocks.2.parents
  rw [← cons_tail_of_head? head_after_blocks.2.head] at hlocal
  apply siblings_of_block hlocal
  rw [List.length_tail, afterArena_length]
  exact head_after_blocks.2.siblings

section Siblings
variable {n : ℕ} (hn : n ≤ sysfsMaxCpuNodes)
include hn

theorem loopShape_parentsIn : ParentsIn (loopShape n) := by
  apply ParentsIn.of_local
    (loopShape_local hn head_after_blocks.1.parents fun c hc =>
      (cpuArena_block c (by omega)).parents)
  rw [loopShape_getElem? n (by omega)]
  exact head_after_blocks.1.root

theorem loopShape_cpu_names :
    childNames (loopShape n) cpuDirNode =
      childNames headNodes cpuDirNode ++ (List.range n).map cpuName := by
  induction n with
  | zero => simp [loopShape]
  | succ n ih =>
    have hat := attached_head (n := n) (q := cpuDirNode) (by omega) (by decide)
    have hptr : ∀ p', (cpuPlacement n).ptr p' = cpuDirNode ↔ p' = 0 := hat.ptr_eq_anchor
    rw [loopShape, childNames_append, ih (by omega), childNames_placed hptr,
      (cpuArena_block n (by omega)).names, List.range_succ, List.map_append, List.append_assoc]
    rfl

theorem loopShape_root_names : childNames (loopShape n) rootNode =
    childNames headNodes rootNode := by
  induction n with
  | zero => rfl
  | succ n ih =>
    have hat := attached_head (n := n) (q := cpuDirNode) (by omega) (by decide)
    have hroot : rootNode < (loopShape n).length := by
      rw [loopShape_length (by omega), cpuBase, rootNode]
      omega
    have hnone : childNames ((cpuArena n).tail.map (cpuPlacement n).node) rootNode = [] :=
      hat.childNames_other (show rootNode ≠ cpuDirNode by decide) hroot
    rw [loopShape, childNames_append, ih (by omega), hnone, List.append_nil]

theorem loopShape_siblings : SiblingsDistinct (loopShape n) := by
  induction n with
  | zero =>
    apply siblings_of_bounded (loopShape_parentsIn hn)
    rw [loopShape, headNodes_length]
    exact head_after_blocks.1.siblings
  | succ n ih =>
    apply (ih (by omega)).place (attached_head (by omega) (by decide))
      (loopShape_parentsIn (by omega)) (cpuArena_siblingsDistinct (by omega))
    -- the name of a CPU directory is neither that of a static child nor of an earlier CPU
    rw [(cpuArena_block n (by omega)).names, List.disjoint_singleton]
    change cpuName n ∉ childNames (loopShape n) cpuDirNode
    rw [loopShape_cpu_names (by omega), List.mem_append, List.mem_map, not_or]
    refine ⟨(cpuArena_block n (by omega)).fresh, ?_⟩
    rintro ⟨c, hc, heq⟩
    rw [List.mem_range] at hc
    have := cpuName_inj (by omega) (by omega) heq
    omega

/-- In every directory of the tree the names of the static children differ. -/
theorem treeShape_siblings : SiblingsDistinct (treeShape n) := by
  apply (loopShape_siblings hn).place (attached_head hn (by decide)) (loopShape_parentsIn hn)
    afterArena_siblingsDistinct
  change (childNames (loopShape n) rootNode).Disjoint _
  rw [loopShape_root_names hn]
  exact fun nm h₁ h₂ => head_after_blocks.2.fresh nm h₁ h₂

end Siblings

section Built
variable {start : UInt16} {ncpu : UInt32}

theorem cpuNodes_le (ncpu : UInt32) : cpuNodes ncpu ≤ sysfsMaxCpuNodes := Nat.min_le_right ..

theorem builtTree_length (start : UInt16) (ncpu : UInt32) :
    (builtTree start ncpu).nodes.length = 107 + 11 * cpuNodes ncpu := by
  rw [← treeShape_length (cpuNodes_le ncpu), ← builtTree_shape start, List.length_map]

theorem builtTree_getElem? (start : UInt16) (ncpu : UInt32) (i : ℕ) :
    (builtTree start ncpu).nodes[i]?.map unnumbered = (treeShape (cpuNodes ncpu))[i]? := by
  rw [← builtTree_shape start, List.getElem?_map]

theorem node_eq_of_getElem? {t : Tree} {i : ℕ} {s : Sfssnode} (h : t.nodes[i]? = some s) :
    t.node i = s := by
  rw [Tree.node, List.getD_eq_getElem?_getD, h, Option.getD_some]

theorem builtTree_local (start : UInt16) {P : Sfssnode → Sfssnode → Bool}
    (h : Local P (treeShape (cpuNodes ncpu))) {i : ℕ}
    (hi : i < (builtTree start ncpu).nodes.length) (hpos : 0 < i) :
    ∃ p < i, ((builtTree start ncpu).node i).ssnParent = some p ∧
      P (bare ((builtTree start ncpu).node i)) (bare ((builtTree start ncpu).node p)) = true := by
  rw [builtTree_length, ← treeShape_length (cpuNodes_le ncpu)] at hi
  obtain ⟨s, p, q, hs, hp, hlt, hq, hP⟩ := localAt_iff.mp (h i hi hpos)
  rw [← builtTree_getElem? start, Option.map_eq_some_iff] at hs hq
  obtain ⟨s, hs, rfl⟩ := hs
  obtain ⟨q, hq, rfl⟩ := hq
  refine ⟨p, hlt, ?_, ?_⟩
  · rw [node_eq_of_getElem? hs]
    exact hp
  · rw [node_eq_of_getElem? hs, node_eq_of_getElem? hq]
    exact hP

theorem childNames_unnumbered (nodes : List Sfssnode) (p : ℕ) :
    childNames (nodes.map unnumbered) p = childNames nodes p := by
  simp only [childNames, List.filter_map, List.map_map]
  rfl

theorem ssnChildren_names (t : Tree) (p : ℕ) :
    (t.ssnChildren p).map (fun c => (t.node c).ssnName) = childNames t.nodes p := by
  have hnodes : (List.range t.nodes.length).map t.node = t.nodes := by
    apply List.ext_getElem
    · simp
    · intro i _ hi
      rw [List.getElem_map, List.getElem_range, Tree.node, List.getD_eq_getElem _ _ hi]
  conv_rhs => rw [childNames, ← hnodes, List.filter_map, List.map_map]
  rfl

theorem mem_ssnChildren {t : Tree} {i p : ℕ} :
    i ∈ t.ssnChildren p ↔ i < t.nodes.length ∧ (t.node i).ssnParent = some p := by
  simp [Tree.ssnChildren]

theorem Tree.ssnChildren_nodup (t : Tree) (p : ℕ) : (t.ssnChildren p).Nodup :=
  List.nodup_range.filter _

theorem Tree.childNamed_eq_some {t : Tree} {i p : ℕ} (hnames : (childNames t.nodes p).Nodup)
    (hi : i < t.nodes.length) (hp : (t.node i).ssnParent = some p) :
    t.childNamed p (t.node i).ssnName = some i := by
  have hmem : i ∈ t.ssnChildren p := mem_ssnChildren.mpr ⟨hi, hp⟩
  rw [← ssnChildren_names] at hnames
  cases hfind : t.childNamed p (t.node i).ssnName with
  | none =>
    have := List.find?_eq_none.mp hfind i hmem
    simp at this
  | some j =>
    have hj := List.mem_of_find?_eq_some hfind
    have hname := List.find?_some hfind
    rw [decide_eq_true_eq] at hname
    rw [List.inj_on_of_nodup_map hnames hj hmem hname.symm]

theorem builtTree_siblings : SiblingsDistinct (builtTree start ncpu).nodes := by
  intro p
  rw [← childNames_unnumbered, builtTree_shape]
  exact treeShape_siblings (cpuNodes_le ncpu) p

theorem treeShape_getElem?_head (n : ℕ) {i : ℕ} (hi : i < 74) (hn : n ≤ sysfsMaxCpuNodes) :
    (treeShape n)[i]? = headNodes[i]? := by
  have hlen : i < (loopShape n).length := by
    rw [loopShape_length hn, cpuBase]
    omega
  rw [treeShape, List.getElem?_append_left hlen, loopShape_getElem? n hi]

theorem loopShape_getElem?_cpu {n c j : ℕ} (hn : n ≤ sysfsMaxCpuNodes) (hc : c < n) (hj : j < 11) :
    (loopShape n)[cpuBase c + j]? = (cpuArena c)[j + 1]?.map (cpuPlacement c).node := by
  induction n with
  | zero => omega
  | succ n ih =>
    have hlen := loopShape_length (n := n) (by omega)
    rw [loopShape]
    rcases Nat.lt_succ_iff_lt_or_eq.mp hc with hlt | rfl
    · rw [List.getElem?_append_left (by rw [hlen]; unfold cpuBase; omega), ih (by omega) hlt]
    · rw [← hlen, List.getElem?_append_right (Nat.le_add_right ..), Nat.add_sub_cancel_left,
        List.getElem?_map, List.getElem?_tail]

theorem builtTree_head_node (start : UInt16) (ncpu : UInt32) {i : ℕ} (hi : i < 74) :
    unnumbered ((builtTree start ncpu).node i) = headNodes.getD i default := by
  have hshape := treeShape_getElem?_head (cpuNodes ncpu) hi (cpuNodes_le ncpu)
  have hhead : i < headNodes.length := by rwa [headNodes_length]
  rw [← builtTree_getElem? start, List.getElem?_eq_getElem hhead, Option.map_eq_some_iff] at hshape
  obtain ⟨s, hs, heq⟩ := hshape
  rw [node_eq_of_getElem? hs, heq, List.getD_eq_getElem _ _ hhead]

theorem builtTree_cpu_node (start : UInt16) {ncpu : UInt32} {c j : ℕ} (hc : c < cpuNodes ncpu)
    (hj : j < 11) :
    unnumbered ((builtTree start ncpu).node (cpuBase c + j)) =
      (cpuPlacement c).node ((cpuArena c).getD (j + 1) default) := by
  have hn := cpuNodes_le ncpu
  have harena : j + 1 < (cpuArena c).length := by
    rw [cpuArena_length c (by omega)]
    omega
  have hlen : cpuBase c + j < (loopShape (cpuNodes ncpu)).length := by
    rw [loopShape_length hn]
    unfold cpuBase
    omega
  have hshape : (treeShape (cpuNodes ncpu))[cpuBase c + j]? = _ :=
    (List.getElem?_append_left hlen).trans (loopShape_getElem?_cpu hn hc hj)
  rw [← builtTree_getElem? start, List.getElem?_eq_getElem harena, Option.map_some,
    Option.map_eq_some_iff] at hshape
  obtain ⟨s, hs, heq⟩ := hshape
  rw [node_eq_of_getElem? hs, heq, List.getD_eq_getElem _ _ harena]

theorem builtTree_after_node (start : UInt16) (ncpu : UInt32) {j : ℕ} (hj : j < 33) :
    unnumbered ((builtTree start ncpu).node (cpuBase (cpuNodes ncpu) + j)) =
      (afterPlacement (cpuNodes ncpu)).node (afterArena.getD (j + 1) default) := by
  have harena : j + 1 < afterArena.length := by
    rw [afterArena_length]
    omega
  have hshape : (treeShape (cpuNodes ncpu))[cpuBase (cpuNodes ncpu) + j]? =
      afterArena[j + 1]?.map (afterPlacement (cpuNodes ncpu)).node := by
    rw [treeShape, ← loopShape_length (cpuNodes_le ncpu),
      List.getElem?_append_right (Nat.le_add_right ..), Nat.add_sub_cancel_left,
      List.getElem?_map, List.getElem?_tail]
  rw [← builtTree_getElem? start, List.getElem?_eq_getElem harena, Option.map_some,
    Option.map_eq_some_iff] at hshape
  obtain ⟨s, hs, heq⟩ := hshape
  rw [node_eq_of_getElem? hs, heq, List.getD_eq_getElem _ _ harena]

theorem builtTree_block {i : ℕ} (hi : i < (builtTree start ncpu).nodes.length) :
    i < 74 ∨ (∃ c j, c < cpuNodes ncpu ∧ j < 11 ∧ i = cpuBase c + j) ∨
      ∃ j < 33, i = cpuBase (cpuNodes ncpu) + j := by
  rw [builtTree_length] at hi
  by_cases hhead : i < 74
  · exact Or.inl hhead
  · by_cases hloop : i < 74 + 11 * cpuNodes ncpu
    · refine Or.inr (Or.inl ⟨(i - 74) / 11, (i - 74) % 11, ?_⟩)
      rw [cpuBase]
      omega
    · refine Or.inr (Or.inr ⟨i - 74 - 11 * cpuNodes ncpu, ?_⟩)
      rw [cpuBase]
      omega

/-- The later blocks hang under the root and the `cpu` directory: what any other node of the
first block has, was created in the first block. -/
theorem builtTree_head_child {i p : ℕ} (hi : i < (builtTree start ncpu).nodes.length)
    (hparent : ((builtTree start ncpu).node i).ssnParent = some p) (hp : p < 74)
    (hroot : p ≠ rootNode) (hcpu : p ≠ cpuDirNode) : i < 74 := by
  have hplaced : ∀ {π : Placement} {s : Sfssnode}, 74 ≤ π.base → π.anchor ≠ p →
      unnumbered ((builtTree start ncpu).node i) ≠ π.node s := by
    intro π s hbase hanchor heq
    have hptr : s.ssnParent.map π.ptr = some p :=
      (congrArg Sfssnode.ssnParent heq).symm.trans hparent
    have ⟨q, _, hq⟩ := Option.map_eq_some_iff.mp hptr
    unfold Placement.ptr at hq
    split at hq
    · exact hanchor hq
    · omega
  have hbase : ∀ c, 74 ≤ cpuBase c := fun c => Nat.le_add_right 74 _
  rcases builtTree_block hi with hhead | ⟨c, j, hc, hj, rfl⟩ | ⟨j, hj, rfl⟩
  · exact hhead
  · exact absurd (builtTree_cpu_node start hc hj) (hplaced (hbase c) hcpu.symm)
  · exact absurd (builtTree_after_node start ncpu hj) (hplaced (hbase _) hroot.symm)

theorem special_nodes :
    (∀ i < 74, (headNodes.getD i default).ssnNodeType ≠ .SFSmodule ∧
      ((headNodes.getD i default).ssnNodeType = .SFSlink →
        3 < i ∧ (headNodes.getD i default).ssnParent = some (i - 3)) ∧
      ((headNodes.getD i default).ssnNodeType = .SFSdevice → i = 38)) ∧
    (∀ c < sysfsMaxCpuNodes, ∀ j < 11, ((cpuArena c).getD (j + 1) default).ssnNodeType ∉
      [Sfstype.SFSlink, .SFSmodule, .SFSdevice]) ∧
    ∀ j < 33, (afterArena.getD (j + 1) default).ssnNodeType ∉ [Sfstype.SFSlink, .SFSdevice] ∧
      ((afterArena.getD (j + 1) default).ssnNodeType = .SFSmodule →
        3 ≤ j ∧ (afterArena.getD (j + 1) default).ssnParent = some (1 + (j - 3))) := by
  decide +kernel

theorem builtTree_special {i : ℕ} (hi : i < (builtTree start ncpu).nodes.length)
    (hspecial : ((builtTree start ncpu).node i).ssnNodeType ∈
      [Sfstype.SFSlink, .SFSmodule, .SFSdevice]) :
    (i < 74 ∧ (headNodes.getD i default).ssnNodeType ∈ [Sfstype.SFSlink, .SFSdevice] ∧
      unnumbered ((builtTree start ncpu).node i) = headNodes.getD i default) ∨
    ∃ j < 33, i = cpuBase (cpuNodes ncpu) + j ∧
      (afterArena.getD (j + 1) default).ssnNodeType = .SFSmodule ∧
      unnumbered ((builtTree start ncpu).node i) =
        (afterPlacement (cpuNodes ncpu)).node (afterArena.getD (j + 1) default) := by
  rcases builtTree_block hi with hhead | ⟨c, j, hc, hj, heq⟩ | ⟨j, hj, heq⟩
  · have hnode := builtTree_head_node start ncpu hhead
    have htype := congrArg Sfssnode.ssnNodeType hnode
    refine Or.inl ⟨hhead, ?_, hnode⟩
    rw [← htype]
    have hne := htype ▸ (special_nodes.1 i hhead).1
    simp only [List.mem_cons, List.not_mem_nil, or_false] at hspecial ⊢
    rcases hspecial with h | h | h
    · exact Or.inl h
    · exact absurd h hne
    · exact Or.inr h
  · have htype := congrArg Sfssnode.ssnNodeType (builtTree_cpu_node start hc hj)
    rw [← heq] at htype
    have hno := special_nodes.2.1 c (hc.trans_le (cpuNodes_le ncpu)) j hj
    exact absurd hspecial (htype ▸ hno)
  · have hnode := builtTree_after_node start ncpu hj
    rw [← heq] at hnode
    have htype := congrArg Sfssnode.ssnNodeType hnode
    have hno := (special_nodes.2.2 j hj).1
    refine Or.inr ⟨j, hj, heq, htype.symm.trans ?_, hnode⟩
    rw [show (afterArena.getD (j + 1) default).ssnNodeType = _ from htype.symm] at hno
    simp only [List.mem_cons, List.not_mem_nil, or_false, not_or] at hspecial hno
    rcases hspecial with h | h | h
    · exact absurd h hno.1
    · exact h
    · exact absurd h hno.2

theorem builtTree_module_parent {i : ℕ} (hi : i < (builtTree start ncpu).nodes.length)
    (hmod : ((builtTree start ncpu).node i).ssnNodeType = .SFSmodule) :
    ∃ p, i = p + 3 ∧ 0 < p ∧ ((builtTree start ncpu).node i).ssnParent = some p := by
  rcases builtTree_special hi (by simp [hmod]) with ⟨_, htype, hnode⟩ | ⟨j, hj, heq, htype, hnode⟩
  · rw [← hnode] at htype
    change ((builtTree start ncpu).node i).ssnNodeType ∈ _ at htype
    rw [hmod] at htype
    simp at htype
  · have ⟨hle, hp⟩ := (special_nodes.2.2 j hj).2 htype
    have hparent := congrArg Sfssnode.ssnParent hnode
    have hptr : (afterPlacement (cpuNodes ncpu)).ptr (1 + (j - 3)) =
        cpuBase (cpuNodes ncpu) + (j - 3) := Placement.ptr_seeds_add ..
    rw [Placement.node, hp, Option.map_some, hptr] at hparent
    have hpos : 0 < cpuBase (cpuNodes ncpu) := Nat.lt_of_lt_of_le (by omega) (Nat.le_add_right 74 _)
    exact ⟨cpuBase (cpuNodes ncpu) + (j - 3), by omega, by omega, hparent⟩

theorem builtTree_device_eq {i : ℕ} (hi : i < (builtTree start ncpu).nodes.length)
    (hdev : ((builtTree start ncpu).node i).ssnNodeType = .SFSdevice) : i = 38 := by
  rcases builtTree_special hi (by simp [hdev]) with ⟨hhead, _, hnode⟩ | ⟨j, _, _, htype, hnode⟩
  · exact (special_nodes.1 i hhead).2.2 (hnode ▸ hdev)
  · have hother := congrArg Sfssnode.ssnNodeType hnode
    cases htype.symm.trans (hother.symm.trans hdev)

end Built

end SysFS
