import SysFS.Lib.StateProg
import SysFS.Structure

namespace SysFS
open CString StateProg

theorem map_modify_of_comm {α β : Type} (f : α → α) (f' : β → β) (g : α → β)
    (h : ∀ x, g (f x) = f' (g x)) (l : List α) (i : ℕ) :
    (l.modify i f).map g = (l.map g).modify i f' := by
  apply List.ext_getElem?
  intro j
  simp only [List.getElem?_map, List.getElem?_modify]
  split <;> simp [Function.comp_def, h]

theorem modify_append_length_add {α : Type} (l₁ l₂ : List α) (i : ℕ) (f : α → α) :
    (l₁ ++ l₂).modify (l₁.length + i) f = l₁ ++ l₂.modify i f := by
  induction l₁ with
  | nil => simp
  | cons a l₁ ih =>
    rw [List.length_cons, Nat.succ_add, List.cons_append, List.modify_succ_cons, ih,
      List.cons_append]

/-- The root has its fixed number and `m` further nodes are numbered from `start` on. -/
def NumberedTo (start : UInt16) (m : ℕ) (nodes : List Sfssnode) : Prop :=
  nodes.map Sfssnode.ssnBaseNodeId =
    sysfsRootNodeBaseId :: (List.range m).map fun i => start + UInt16.ofNat i

/-- Every node of the arena is numbered and `next_node_id` is the next number. -/
def Numbered (start : UInt16) (b : Build) : Prop :=
  ∃ m, NumberedTo start m b.nodes ∧ b.nextNodeId = start + UInt16.ofNat m

def Taken (start id : UInt16) (b : Build) : Prop :=
  ∃ m, NumberedTo start m b.nodes ∧ id = start + UInt16.ofNat m ∧
    b.nextNodeId = start + UInt16.ofNat (m + 1)

section Numbers
variable {start : UInt16}

theorem takeNodeId_numbered : Triple (Numbered start) takeNodeId (Taken start) := by
  constructor
  rintro b ⟨m, hm, hn⟩
  refine ⟨m, hm, hn, ?_⟩
  change b.nextNodeId + 1 = _
  rw [hn, UInt16.ofNat_add, UInt16.add_assoc]
  rfl

theorem NumberedTo.succ {m : ℕ} {nodes : List Sfssnode} (h : NumberedTo start m nodes)
    {s : Sfssnode} (hs : s.ssnBaseNodeId = start + UInt16.ofNat m) :
    NumberedTo start (m + 1) (nodes ++ [s]) := by
  unfold NumberedTo at h ⊢
  rw [List.map_append, h, List.range_succ, List.map_append, List.cons_append]
  simp [hs]

theorem addNode_numbered (parent : Option ℕ) (name : CStr) (type : Sfstype)
    (id flags : UInt16) (size : ℕ) (fn : Option ReadDataFn) :
    Triple (Taken start id) (addNode parent name type id flags size fn)
      fun _ => Numbered start := by
  constructor
  rintro b ⟨m, hm, hid, hn⟩
  exact ⟨m + 1, hm.succ hid, hn⟩

theorem setInstance_numbered (p : ℕ) (n : UInt32) :
    Triple (Numbered start) (setInstance p n) fun _ => Numbered start := by
  constructor
  rintro b ⟨m, hm, hn⟩
  refine ⟨m, ?_, hn⟩
  have hids := map_modify_of_comm (Sfssnode.withInstance n) id Sfssnode.ssnBaseNodeId
    (fun _ => rfl) b.nodes p
  rw [List.modify_id] at hids
  exact hids.trans hm

theorem addDots_numbered (snode : ℕ) (flags : UInt16) :
    Triple (Numbered start) (do
      let _ ← addRawDirectory (some snode) (cstr ".") .SFSdirthis (← takeNodeId)
        (flags &&& ssnFlagDynamic)
      let _ ← addRawDirectory (some snode) (cstr "..") .SFSdirparent (← takeNodeId)
        (flags &&& ssnFlagDynamic)
      return snode) fun _ => Numbered start :=
  takeNodeId_numbered.bind fun _ => (addNode_numbered ..).bind fun _ =>
    takeNodeId_numbered.bind fun _ => (addNode_numbered ..).bind fun _ => .pure _

theorem addDirectory_numbered (parent : Option ℕ) (name : CStr) (type : Sfstype)
    (id flags : UInt16) :
    Triple (Taken start id) (addDirectory parent name type id flags) fun _ => Numbered start :=
  (addNode_numbered ..).bind fun snode => addDots_numbered snode flags

theorem addRoot_numbered (name : CStr) (type : Sfstype) (flags : UInt16) :
    Triple (fun b => b = ⟨[], start⟩)
      (addDirectory none name type sysfsRootNodeBaseId flags) fun _ => Numbered start := by
  refine Triple.bind (Q := fun _ => Numbered start) ⟨?_⟩ fun snode => addDots_numbered snode flags
  rintro b rfl
  exact ⟨0, rfl, (UInt16.add_zero start).symm⟩

theorem addFile_numbered (parent : Option ℕ) (name : CStr) (id flags : UInt16) (size : ℕ)
    (fn : ReadDataFn) :
    Triple (Taken start id) (addFile parent name id flags size fn) fun _ => Numbered start :=
  addNode_numbered ..

theorem addClass_numbered (classDir : ℕ) (c : CStr × UInt32) :
    Triple (Numbered start) (addClass classDir c) fun _ => Numbered start :=
  takeNodeId_numbered.bind fun _ => (addDirectory_numbered ..).bind fun _ =>
    (setInstance_numbered ..).bind fun _ => takeNodeId_numbered.bind fun _ =>
      (addNode_numbered ..).bind fun _ => .pure _

theorem addBeforeCpus_numbered :
    Triple (fun b => b = ⟨[], start⟩) addBeforeCpus fun _ => Numbered start := by
  unfold addBeforeCpus
  refine (addRoot_numbered ..).bind fun _ => ?_
  repeat first
    | with_reducible refine takeNodeId_numbered.bind fun _ => ?_
    | with_reducible refine (addDirectory_numbered ..).bind fun _ => ?_
    | with_reducible refine (addFile_numbered ..).bind fun _ => ?_
    | with_reducible refine (addNode_numbered ..).bind fun _ => ?_
    | with_reducible refine (setInstance_numbered ..).bind fun _ => ?_
    | with_reducible refine (Triple.forM _ fun c _ => addClass_numbered _ c).bind fun _ => ?_
  exact .pure _

theorem addTopologyFile_numbered (topo : ℕ) (c : ℕ) (name : CStr) (fn : ReadDataFn) :
    Triple (Numbered start) (addTopologyFile topo c name fn) fun _ => Numbered start :=
  takeNodeId_numbered.bind fun _ => (addFile_numbered ..).bind fun _ => setInstance_numbered ..

theorem addCpu_numbered (cpuDir : ℕ) (c : ℕ) :
    Triple (Numbered start) (addCpu cpuDir c) fun _ => Numbered start := by
  unfold addCpu
  repeat first
    | with_reducible refine takeNodeId_numbered.bind fun _ => ?_
    | with_reducible refine (addDirectory_numbered ..).bind fun _ => ?_
    | with_reducible refine (addFile_numbered ..).bind fun _ => ?_
    | with_reducible refine (setInstance_numbered ..).bind fun _ => ?_
    | with_reducible refine (addTopologyFile_numbered ..).bind fun _ => ?_
  exact addTopologyFile_numbered ..

theorem addAfterCpus_numbered (rootNode : ℕ) :
    Triple (Numbered start) (addAfterCpus rootNode) fun _ => Numbered start := by
  unfold addAfterCpus
  repeat first
    | with_reducible refine takeNodeId_numbered.bind fun _ => ?_
    | with_reducible refine (addDirectory_numbered ..).bind fun _ => ?_
    | with_reducible refine (addFile_numbered ..).bind fun _ => ?_
    | with_reducible refine (addNode_numbered ..).bind fun _ => ?_
  exact .pure _

theorem buildStructure_numbered (ncpu : UInt32) :
    Triple (fun b => b = ⟨[], start⟩) (buildStructure ncpu) fun _ => Numbered start :=
  addBeforeCpus_numbered.bind fun _ =>
    (Triple.forM _ fun c _ => addCpu_numbered _ c).bind fun _ => addAfterCpus_numbered _

end Numbers

def unnumbered (s : Sfssnode) : Sfssnode := { s with ssnBaseNodeId := 0 }

/-- Where the pointers of a block go: those to its seed to `anchor`, the others to the
end of an arena of `base` nodes. -/
structure Placement where
  base : ℕ
  seeds : ℕ
  anchor : ℕ

namespace Placement

def ptr (π : Placement) (p : ℕ) : ℕ :=
  if p < π.seeds then π.anchor else π.base + (p - π.seeds)

def node (π : Placement) (s : Sfssnode) : Sfssnode :=
  { s with ssnBaseNodeId := 0, ssnParent := s.ssnParent.map π.ptr }

@[simp] theorem ptr_seeds_add (π : Placement) (i : ℕ) : π.ptr (π.seeds + i) = π.base + i := by
  rw [ptr, if_neg (Nat.not_lt.mpr (Nat.le_add_right ..)), Nat.add_sub_cancel_left]

end Placement

def Placed (ns seed : List Sfssnode) (π : Placement) (b b' : Build) : Prop :=
  ∃ new, b'.nodes = seed ++ new ∧ b.nodes.map unnumbered = ns.map unnumbered ++ new.map π.node

/-- The placement fits the arenas, and the anchor passes on the same flags as the seed. -/
structure Fits (ns seed : List Sfssnode) (π : Placement) : Prop where
  base : π.base = ns.length
  seeds : π.seeds = seed.length
  anchor : ∀ p < seed.length, π.anchor < ns.length ∧
    inheritedFlags ns (some π.anchor) = inheritedFlags seed (some p)

section Placements
variable {ns seed : List Sfssnode} {π : Placement} {b b' : Build}

theorem inheritedFlags_some (nodes : List Sfssnode) (p : ℕ) :
    inheritedFlags nodes (some p) =
      ((nodes.map Sfssnode.ssnFlags)[p]?).getD 0 &&& ssnFlagDynamic := by
  simp only [inheritedFlags, List.getD_eq_getElem?_getD, List.getElem?_map]
  cases nodes[p]? <;> rfl

theorem inheritedFlags_unnumbered (nodes : List Sfssnode) (p : ℕ) :
    inheritedFlags (nodes.map unnumbered) (some p) = inheritedFlags nodes (some p) := by
  rw [inheritedFlags_some, inheritedFlags_some, List.map_map]
  rfl

theorem Placed.inheritedFlags_eq (h : Placed ns seed π b b') (hπ : Fits ns seed π)
    (parent : Option ℕ) :
    inheritedFlags b.nodes (parent.map π.ptr) = inheritedFlags b'.nodes parent := by
  cases parent with
  | none => rfl
  | some p =>
    obtain ⟨new, hb', hb⟩ := h
    rw [Option.map_some, ← inheritedFlags_unnumbered b.nodes, hb, hb']
    by_cases hp : p < seed.length
    · obtain ⟨hq, hflags⟩ := hπ.anchor p hp
      rw [inheritedFlags_some, inheritedFlags_some] at hflags ⊢
      simpa [Placement.ptr, hπ.seeds, hp, List.getElem?_append_left, hq, Function.comp_def,
        unnumbered] using hflags
    · obtain ⟨i, rfl⟩ := Nat.exists_eq_add_of_le (not_lt.mp hp)
      rw [← hπ.seeds, Placement.ptr_seeds_add, hπ.seeds, hπ.base, inheritedFlags_some,
        inheritedFlags_some]
      simp [List.getElem?_append_right, Function.comp_def, Placement.node]

theorem Placed.length_eq (h : Placed ns seed π b b') (hπ : Fits ns seed π) :
    b.nodes.length = π.ptr b'.nodes.length ∧ π.seeds ≤ b'.nodes.length := by
  obtain ⟨new, hb', hb⟩ := h
  have hlen := congrArg List.length hb
  simp only [List.length_map, List.length_append] at hlen
  rw [hlen, hb', List.length_append, ← hπ.seeds, ← hπ.base]
  simp

def Created (π : Placement) (p p' : ℕ) : Prop := p = π.ptr p' ∧ π.seeds ≤ p'

theorem takeNodeId_placed :
    Sim (Placed ns seed π) takeNodeId takeNodeId fun _ _ => True :=
  ⟨fun _ _ h => ⟨h, trivial⟩⟩

theorem addNode_placed (hπ : Fits ns seed π) {parent parent' : Option ℕ}
    (hp : parent = parent'.map π.ptr) (name : CStr) (type : Sfstype) (id id' flags : UInt16)
    (size : ℕ) (fn : Option ReadDataFn) :
    Sim (Placed ns seed π) (addNode parent name type id flags size fn)
      (addNode parent' name type id' flags size fn) (Created π) := by
  constructor
  intro b b' h
  refine ⟨?_, h.length_eq hπ⟩
  have hflags := h.inheritedFlags_eq hπ parent'
  obtain ⟨new, hb', hb⟩ := h
  refine ⟨new ++ [_], by rw [← List.append_assoc, ← hb']; rfl, ?_⟩
  simp only [addNode, hp, List.map_append, hb, hflags, List.append_assoc]
  rfl

theorem setInstance_placed (hπ : Fits ns seed π) {p : ℕ} (hp : π.seeds ≤ p) (n : UInt32) :
    Sim (Placed ns seed π) (setInstance (π.ptr p) n) (setInstance p n) fun _ _ => True := by
  constructor
  rintro b b' ⟨new, hb', hb⟩
  obtain ⟨i, rfl⟩ := Nat.exists_eq_add_of_le hp
  refine ⟨⟨new.modify i (Sfssnode.withInstance n), ?_, ?_⟩, trivial⟩
  · rw [← modify_append_length_add, ← hb', ← hπ.seeds]
    rfl
  · have hbig := map_modify_of_comm (Sfssnode.withInstance n) (Sfssnode.withInstance n) unnumbered
      (fun _ => rfl) b.nodes (π.base + i)
    have hsmall := map_modify_of_comm (Sfssnode.withInstance n) (Sfssnode.withInstance n) π.node
      (fun _ => rfl) new i
    rw [hsmall, ← modify_append_length_add, ← hb, List.length_map, ← hπ.base, ← hbig,
      Placement.ptr_seeds_add]
    rfl

theorem addFile_placed (hπ : Fits ns seed π) (p : ℕ) (name : CStr) (id id' flags : UInt16)
    (size : ℕ) (fn : ReadDataFn) :
    Sim (Placed ns seed π) (addFile (some (π.ptr p)) name id flags size fn)
      (addFile (some p) name id' flags size fn) (Created π) :=
  addNode_placed hπ (Option.map_some ..).symm ..

theorem addDirectory_placed (hπ : Fits ns seed π) {parent parent' : Option ℕ}
    (hp : parent = parent'.map π.ptr) (name : CStr) (type : Sfstype) (id id' flags : UInt16) :
    Sim (Placed ns seed π) (addDirectory parent name type id flags)
      (addDirectory parent' name type id' flags) (Created π) := by
  refine (addNode_placed hπ hp ..).bind ?_
  rintro _ snode ⟨rfl, hs⟩
  exact takeNodeId_placed.bind fun _ _ _ =>
    (addNode_placed hπ (Option.map_some ..).symm ..).bind fun _ _ _ =>
    takeNodeId_placed.bind fun _ _ _ =>
    (addNode_placed hπ (Option.map_some ..).symm ..).bind fun _ _ _ =>
      .pure ⟨rfl, hs⟩

theorem addClass_placed (hπ : Fits ns seed π) (classDir : ℕ) (c : CStr × UInt32) :
    Sim (Placed ns seed π) (addClass (π.ptr classDir) c) (addClass classDir c)
      fun _ _ => True := by
  refine takeNodeId_placed.bind fun _ _ _ => ?_
  refine (addDirectory_placed hπ (Option.map_some ..).symm ..).bind ?_
  rintro _ cd ⟨rfl, hcd⟩
  refine (setInstance_placed hπ hcd _).bind fun _ _ _ => ?_
  exact takeNodeId_placed.bind fun _ _ _ =>
    (addNode_placed hπ (Option.map_some ..).symm ..).bind fun _ _ _ => .pure trivial

theorem addBeforeCpus_placed (hπ : Fits ns seed π) :
    Sim (Placed ns seed π) addBeforeCpus addBeforeCpus
      fun r r' => r = (π.ptr r'.1, π.ptr r'.2) := by
  unfold addBeforeCpus
  refine (addDirectory_placed hπ (Option.map_none ..).symm ..).bind ?_
  rintro _ rootNode ⟨rfl, _⟩
  repeat first
    | with_reducible refine takeNodeId_placed.bind fun _ _ _ => ?_
    | with_reducible refine (addDirectory_placed hπ (Option.map_some ..).symm ..).bind ?_
      rintro _ _ ⟨rfl, _⟩
    | with_reducible refine (addFile_placed hπ ..).bind ?_
      rintro _ _ ⟨rfl, _⟩
    | with_reducible refine (addNode_placed hπ (Option.map_some ..).symm ..).bind ?_
      rintro _ _ ⟨rfl, _⟩
    | with_reducible refine (setInstance_placed hπ (by assumption) ..).bind fun _ _ _ => ?_
    | with_reducible refine (Sim.forM _ fun c _ => addClass_placed hπ _ c).bind fun _ _ _ => ?_
  exact .pure rfl

theorem addTopologyFile_placed (hπ : Fits ns seed π) (topo : ℕ) (c : ℕ) (name : CStr)
    (fn : ReadDataFn) :
    Sim (Placed ns seed π) (addTopologyFile (π.ptr topo) c name fn)
      (addTopologyFile topo c name fn) fun _ _ => True := by
  refine takeNodeId_placed.bind fun _ _ _ => ?_
  refine (addFile_placed hπ ..).bind ?_
  rintro _ f ⟨rfl, hf⟩
  exact setInstance_placed hπ hf _

theorem addCpu_placed (hπ : Fits ns seed π) (cpuDir : ℕ) (c : ℕ) :
    Sim (Placed ns seed π) (addCpu (π.ptr cpuDir) c) (addCpu cpuDir c) fun _ _ => True := by
  unfold addCpu
  repeat first
    | with_reducible refine takeNodeId_placed.bind fun _ _ _ => ?_
    | with_reducible refine (addDirectory_placed hπ (Option.map_some ..).symm ..).bind ?_
      rintro _ _ ⟨rfl, _⟩
    | with_reducible refine (addFile_placed hπ ..).bind ?_
      rintro _ _ ⟨rfl, _⟩
    | with_reducible refine (setInstance_placed hπ (by assumption) ..).bind fun _ _ _ => ?_
    | with_reducible refine (addTopologyFile_placed hπ ..).bind fun _ _ _ => ?_
  exact addTopologyFile_placed hπ ..

theorem addAfterCpus_placed (hπ : Fits ns seed π) (rootNode : ℕ) :
    Sim (Placed ns seed π) (addAfterCpus (π.ptr rootNode)) (addAfterCpus rootNode)
      fun _ _ => True := by
  unfold addAfterCpus
  repeat first
    | with_reducible refine takeNodeId_placed.bind fun _ _ _ => ?_
    | with_reducible refine (addDirectory_placed hπ (Option.map_some ..).symm ..).bind ?_
      rintro _ _ ⟨rfl, _⟩
    | with_reducible refine (addFile_placed hπ ..).bind ?_
      rintro _ _ ⟨rfl, _⟩
    | with_reducible refine (addNode_placed hπ (Option.map_some ..).symm ..).bind ?_
      rintro _ _ ⟨rfl, _⟩
  exact .pure trivial

end Placements

@[irreducible] def headNodes : List Sfssnode := (addBeforeCpus ⟨[], 0⟩).2.nodes.map unnumbered

/-- The `cpu` directory and the root, where the later blocks are attached. -/
def cpuDirNode : ℕ := 66
def rootNode : ℕ := 0

/-- The nodes of CPU `c`, in an arena that starts with the `cpu` directory. -/
@[irreducible] def cpuArena (c : ℕ) : List Sfssnode :=
  (addCpu 0 c ⟨[headNodes.getD cpuDirNode default], 0⟩).2.nodes

/-- The nodes created after the CPU loop, in an arena that starts with the root. -/
@[irreducible] def afterArena : List Sfssnode :=
  (addAfterCpus 0 ⟨[headNodes.getD rootNode default], 0⟩).2.nodes

def cpuBase (c : ℕ) : ℕ := 74 + 11 * c

def cpuPlacement (c : ℕ) : Placement := ⟨cpuBase c, 1, cpuDirNode⟩
def afterPlacement (n : ℕ) : Placement := ⟨cpuBase n, 1, rootNode⟩

def loopShape : ℕ → List Sfssnode
  | 0 => headNodes
  | n + 1 => loopShape n ++ (cpuArena n).tail.map (cpuPlacement n).node

/-- The nodes before the CPU loop, a copy of one block for each CPU, and the nodes after it. -/
def treeShape (n : ℕ) : List Sfssnode := loopShape n ++ afterArena.tail.map (afterPlacement n).node

theorem blocks_shape : headNodes.length = 74 ∧
    (addBeforeCpus ⟨[], 0⟩).1 = (rootNode, cpuDirNode) ∧
    (∀ c < sysfsMaxCpuNodes, (cpuArena c).length = 12) ∧ afterArena.length = 34 := by
  decide +kernel

theorem headNodes_length : headNodes.length = 74 := blocks_shape.1

theorem cpuArena_length : ∀ c < sysfsMaxCpuNodes, (cpuArena c).length = 12 := blocks_shape.2.2.1

theorem afterArena_length : afterArena.length = 34 := blocks_shape.2.2.2

theorem loopShape_length {n : ℕ} (hn : n ≤ sysfsMaxCpuNodes) :
    (loopShape n).length = cpuBase n := by
  induction n with
  | zero => exact headNodes_length
  | succ n ih =>
    rw [loopShape, List.length_append, ih (by omega), List.length_map, List.length_tail,
      cpuArena_length n (by omega), cpuBase, cpuBase]
    omega

theorem treeShape_length {n : ℕ} (hn : n ≤ sysfsMaxCpuNodes) :
    (treeShape n).length = 107 + 11 * n := by
  rw [treeShape, List.length_append, loopShape_length hn, List.length_map, List.length_tail,
    afterArena_length, cpuBase]
  omega

theorem loopShape_getElem? (n : ℕ) {i : ℕ} (hi : i < 74) : (loopShape n)[i]? = headNodes[i]? := by
  induction n with
  | zero => rfl
  | succ n ih =>
    have hlen : i < (loopShape n).length := by
      rw [← headNodes_length] at hi
      rw [List.getElem?_eq_getElem hi, List.getElem?_eq_some_iff] at ih
      exact ih.1
    rw [loopShape, List.getElem?_append_left hlen, ih]

theorem fits_of_head {ns : List Sfssnode} {n : ℕ} (hn : n ≤ sysfsMaxCpuNodes)
    (hns : ns.map unnumbered = loopShape n) {q : ℕ} (hq : q < 74) :
    Fits ns [headNodes.getD q default] ⟨cpuBase n, 1, q⟩ := by
  have hlen : ns.length = cpuBase n := by
    rw [← loopShape_length hn, ← hns, List.length_map]
  refine ⟨hlen.symm, rfl, fun p hp => ⟨?_, ?_⟩⟩
  · rw [hlen, cpuBase]
    exact Nat.lt_add_right _ hq
  · obtain rfl : p = 0 := by simpa using hp
    rw [← inheritedFlags_unnumbered ns, hns]
    simp only [inheritedFlags, List.getD_eq_getElem?_getD, loopShape_getElem? n hq]
    rfl

/-- A run from an arena without new nodes appends the block that the small run appends. -/
theorem shape_of_sim {α : Type} {ns : List Sfssnode} {seed : Sfssnode} {π : Placement}
    {m m' : BuildM α} {Q : α → α → Prop} (h : Sim (Placed ns [seed] π) m m' Q) (k : UInt16) :
    (m ⟨ns, k⟩).2.nodes.map unnumbered =
      ns.map unnumbered ++ (m' ⟨[seed], 0⟩).2.nodes.tail.map π.node := by
  have h₀ : Placed ns [seed] π ⟨ns, k⟩ ⟨[seed], 0⟩ := ⟨[], by simp⟩
  obtain ⟨new, hsmall, hbig⟩ := (h.run _ _ h₀).1
  rw [hbig, hsmall]
  rfl

theorem shape_of_sim_nil {α : Type} {m : BuildM α} {Q : α → α → Prop}
    (h : Sim (Placed [] [] ⟨0, 0, 0⟩) m m Q) (k k' : UInt16) :
    Q (m ⟨[], k⟩).1 (m ⟨[], k'⟩).1 ∧
      (m ⟨[], k⟩).2.nodes.map unnumbered = (m ⟨[], k'⟩).2.nodes.map unnumbered := by
  have h₀ : Placed [] [] ⟨0, 0, 0⟩ ⟨[], k⟩ ⟨[], k'⟩ := ⟨[], by simp⟩
  obtain ⟨⟨new, hsmall, hbig⟩, hvalue⟩ := h.run _ _ h₀
  have hnode : Placement.node ⟨0, 0, 0⟩ = unnumbered := by
    funext s
    have hptr : Placement.ptr ⟨0, 0, 0⟩ = id := by
      funext p
      simp [Placement.ptr]
    simp [Placement.node, unnumbered, hptr]
  refine ⟨hvalue, ?_⟩
  rw [hbig, hsmall, hnode]
  rfl

theorem addBeforeCpus_shape (start : UInt16) :
    (addBeforeCpus ⟨[], start⟩).1 = (rootNode, cpuDirNode) ∧
      (addBeforeCpus ⟨[], start⟩).2.nodes.map unnumbered = headNodes := by
  have hfits : Fits [] [] ⟨0, 0, 0⟩ := ⟨rfl, rfl, fun _ hp => absurd hp (Nat.not_lt_zero _)⟩
  obtain ⟨hvalue, hnodes⟩ := shape_of_sim_nil (addBeforeCpus_placed hfits) start 0
  rw [blocks_shape.2.1] at hvalue
  refine ⟨hvalue, ?_⟩
  rw [hnodes, headNodes]

theorem cpuLoop_shape {b : Build} (hb : b.nodes.map unnumbered = headNodes) {n : ℕ}
    (hn : n ≤ sysfsMaxCpuNodes) :
    ((List.range n).forM (addCpu cpuDirNode) b).2.nodes.map unnumbered = loopShape n := by
  induction n with
  | zero => exact hb
  | succ n ih =>
    have hns := ih (by omega)
    have hfits := fits_of_head (by omega) hns (q := cpuDirNode) (by decide)
    have hptr : Placement.ptr ⟨cpuBase n, 1, cpuDirNode⟩ 0 = cpuDirNode := rfl
    have hstep := shape_of_sim (addCpu_placed hfits 0 n)
      ((List.range n).forM (addCpu cpuDirNode) b).2.nextNodeId
    rw [hptr, hns] at hstep
    rw [List.range_succ, forM_concat, loopShape, cpuArena, cpuPlacement]
    exact hstep

theorem run_twice {α β : Type} (m : BuildM (α × β)) (f : β → BuildM Unit) (g : α → BuildM Unit)
    (b : Build) : ((do let (x, y) ← m; f y; g x : BuildM Unit) b).2 =
      (g (m b).1.1 (f (m b).1.2 (m b).2).2).2 := rfl

/-- Up to the numbers the tree depends on the count of CPUs alone. -/
theorem builtTree_shape (start : UInt16) (ncpu : UInt32) :
    (builtTree start ncpu).nodes.map unnumbered = treeShape (cpuNodes ncpu) := by
  obtain ⟨hvalue, hnodes⟩ := addBeforeCpus_shape start
  have hcpus : cpuNodes ncpu ≤ sysfsMaxCpuNodes := Nat.min_le_right ..
  have hloop := cpuLoop_shape hnodes hcpus
  have hfits := fits_of_head hcpus hloop (q := rootNode) (by decide)
  have hptr : Placement.ptr ⟨cpuBase (cpuNodes ncpu), 1, rootNode⟩ 0 = rootNode := rfl
  have hafter := shape_of_sim (addAfterCpus_placed hfits 0)
    ((List.range (cpuNodes ncpu)).forM (addCpu cpuDirNode)
      (addBeforeCpus ⟨[], start⟩).2).2.nextNodeId
  rw [hptr, hloop] at hafter
  have hrun : (buildStructure ncpu ⟨[], start⟩).2 =
      (addAfterCpus (addBeforeCpus ⟨[], start⟩).1.1
        ((List.range (cpuNodes ncpu)).forM (addCpu (addBeforeCpus ⟨[], start⟩).1.2)
          (addBeforeCpus ⟨[], start⟩).2).2).2 :=
    run_twice addBeforeCpus (fun cpuDir => (List.range (cpuNodes ncpu)).forM (addCpu cpuDir))
      addAfterCpus ⟨[], start⟩
  rw [hvalue] at hrun
  rw [builtTree, hrun, treeShape, afterArena, afterPlacement]
  exact hafter

end SysFS
