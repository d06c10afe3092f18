import SysFS.CpuSets
import SysFS.HashedLookup

namespace SysFS
open ByteMemory CString SetText

/-- A directory that is taken for a class directory is one, with only dot entries and a marker,
or has the instance number of a CPU. -/
def classOrCpu (child parent : Sfssnode) : Bool :=
  sysfsIsClassDir parent → isDotOrMarker child ∨ TakenForClass parent

/-- What the blocks of the tree have. The directory of a CPU and its `topology` directory are
taken for class directories unless the number is 0. -/
@[mk_iff]
structure ClassBlocks : Prop where
  head : Local classOrCpu headNodes ∧ ∀ i < 74, ¬TakenForClass (headNodes.getD i default)
  cpus : ∀ c < sysfsMaxCpuNodes, Local classOrCpu (cpuArena c) ∧
    ∀ j < 11, TakenForClass ((cpuArena c).getD (j + 1) default) ↔ (j = 0 ∨ j = 4) ∧ 0 < c
  after : Local classOrCpu afterArena ∧ ∀ j < 33, ¬TakenForClass (afterArena.getD (j + 1) default)

instance : Decidable ClassBlocks := decidable_of_iff' _ classBlocks_iff

theorem classBlocks : ClassBlocks := by decide +kernel

theorem cpuArena_dirs : ∀ c < sysfsMaxCpuNodes,
    ((cpuArena c).getD 1 default).ssnParent = some 0 ∧
      ((cpuArena c).getD 1 default).ssnName = cpuName c ∧
      isDotOrMarker ((cpuArena c).getD 1 default) = false ∧
      ((cpuArena c).getD 5 default).ssnParent = some 1 := by decide +kernel

theorem headNodes_cpuDir_names :
    (headNodes.getD 38 default).ssnName = cstr "devices" ∧
      (headNodes.getD 39 default).ssnName = cstr "system" ∧
      (headNodes.getD cpuDirNode default).ssnName = cstr "cpu" := by decide +kernel

theorem takenForClass_of_unnumbered {s s' : Sfssnode} {π : Placement}
    (h : unnumbered s = π.node s') : TakenForClass s ↔ TakenForClass s' := by
  constructor
  · intro hs
    have hplaced : TakenForClass (unnumbered s) := ⟨hs.isClass, hs.notModule, hs.name⟩
    rw [h] at hplaced
    exact ⟨hplaced.isClass, hplaced.notModule, hplaced.name⟩
  · intro hs'
    have hplaced : TakenForClass (π.node s') := ⟨hs'.isClass, hs'.notModule, hs'.name⟩
    rw [← h] at hplaced
    exact ⟨hplaced.isClass, hplaced.notModule, hplaced.name⟩

section Built
variable {start : UInt16} {ncpu : UInt32}

theorem classOrCpu_treeShape : Local classOrCpu (treeShape (cpuNodes ncpu)) :=
  treeShape_local (cpuNodes_le ncpu) classBlocks.head.1
    (fun c hc => (classBlocks.cpus c (hc.trans_le (cpuNodes_le ncpu))).1) classBlocks.after.1

/-- The directories of the CPUs but the first one, with what is in them, and no others. -/
theorem takenForClass_built {i : ℕ} (hi : i < (builtTree start ncpu).nodes.length)
    (h : TakenForClass ((builtTree start ncpu).node i)) :
    ∃ c j, 0 < c ∧ c < cpuNodes ncpu ∧ (j = 0 ∨ j = 4) ∧ i = cpuBase c + j := by
  rcases builtTree_block hi with hhead | ⟨c, j, hc, hj, rfl⟩ | ⟨j, hj, rfl⟩
  · have hnode := builtTree_head_node start ncpu hhead
    have htaken : TakenForClass (headNodes.getD i default) := by
      rw [← hnode]
      exact ⟨h.isClass, h.notModule, h.name⟩
    exact absurd htaken (classBlocks.head.2 i hhead)
  · have hnode := builtTree_cpu_node start hc hj
    have hmax := hc.trans_le (cpuNodes_le ncpu)
    have htaken := (takenForClass_of_unnumbered hnode).mp h
    obtain ⟨hj, hpos⟩ := ((classBlocks.cpus c hmax).2 j hj).mp htaken
    exact ⟨c, j, hpos, hc, hj, rfl⟩
  · have hnode := builtTree_after_node start ncpu hj
    exact absurd ((takenForClass_of_unnumbered hnode).mp h) (classBlocks.after.2 j hj)

theorem cpuBase_lt {c j : ℕ} (hc : c < cpuNodes ncpu) (hj : j < 11) :
    cpuBase c + j < (builtTree start ncpu).nodes.length := by
  rw [builtTree_length, cpuBase]
  omega

theorem cpuDir_facts (start : UInt16) {c : ℕ} (hc : c < cpuNodes ncpu) :
    ((builtTree start ncpu).node (cpuBase c)).ssnParent = some cpuDirNode ∧
      ((builtTree start ncpu).node (cpuBase c)).ssnName = cpuName c ∧
      isDotOrMarker ((builtTree start ncpu).node (cpuBase c)) = false ∧
      ((builtTree start ncpu).node (cpuBase c + 4)).ssnParent = some (cpuBase c) := by
  obtain ⟨hparent, hname, hdot, htop⟩ := cpuArena_dirs c (hc.trans_le (cpuNodes_le ncpu))
  have hnode : unnumbered ((builtTree start ncpu).node (cpuBase c)) = _ :=
    builtTree_cpu_node start (j := 0) hc (by omega)
  have hnode4 := builtTree_cpu_node start (j := 4) hc (by omega)
  refine ⟨?_, ?_, ?_, ?_⟩
  · have hp := congrArg (fun n : Sfssnode => n.ssnParent) hnode
    refine hp.trans ?_
    show Option.map _ ((cpuArena c).getD 1 default).ssnParent = _
    rw [hparent]
    rfl
  · exact (congrArg (fun n : Sfssnode => n.ssnName) hnode).trans hname
  · exact (congrArg (fun n : Sfssnode => isDotOrMarker n) hnode).trans hdot
  · have hp := congrArg (fun n : Sfssnode => n.ssnParent) hnode4
    refine hp.trans ?_
    show Option.map _ ((cpuArena c).getD 5 default).ssnParent = _
    rw [htop]
    rfl

def cpuDirPath : List CStr := [cstr "devices", cstr "system", cstr "cpu"]

theorem ssnPath_cpuDir : (builtTree start ncpu).ssnPath cpuDirNode = cpuDirPath := by
  have hbefore := builtTree_parentsBefore start ncpu
  obtain ⟨h38, h39, hcpu⟩ := headNodes_cpuDir_names
  have hstep : ∀ i p nm, (i, p) ∈ [(38, 0), (39, 38), (cpuDirNode, 39)] → i < 74 →
      (headNodes.getD i default).ssnName = nm →
      (builtTree start ncpu).ssnPath i = (builtTree start ncpu).ssnPath p ++ [nm] := by
    intro i p nm hmem hi hname
    have hparent := (headNodes_cpuDir.2.1 (i, p) hmem).1
    rw [← builtTree_head_node start ncpu hi] at hparent hname
    rw [Tree.ssnPath_child hbefore (by rw [builtTree_length]; omega) hparent]
    exact congrArg _ (congrArg (fun x => [x]) hname)
  rw [hstep cpuDirNode 39 _ (by simp) (by decide) hcpu, hstep 39 38 _ (by simp) (by omega) h39,
    hstep 38 0 _ (by simp) (by omega) h38, Tree.ssnPath_root (builtTree_root_parent start ncpu)]
  rfl

theorem ssnPath_cpu {c : ℕ} (hc : c < cpuNodes ncpu) :
    (builtTree start ncpu).ssnPath (cpuBase c) = cpuDirPath ++ [cpuName c] := by
  obtain ⟨hparent, hname, -⟩ := cpuDir_facts start hc
  have hlt : cpuBase c < (builtTree start ncpu).nodes.length := cpuBase_lt (j := 0) hc (by omega)
  rw [Tree.ssnPath_child (builtTree_parentsBefore start ncpu) hlt hparent, hname, ssnPath_cpuDir]

/-- The path goes on below the directory of a CPU that is not the first one. -/
def BelowOtherCpu (ncpu : UInt32) (path : List CStr) : Prop :=
  ∃ c rest, 0 < c ∧ c < cpuNodes ncpu ∧ rest ≠ [] ∧ path = cpuDirPath ++ [cpuName c] ++ rest

theorem resolves_cpu {c : ℕ} (hc : c < cpuNodes ncpu) (g : GSnapshot) (mnt : Int32) :
    Resolves (builtTree start ncpu) g mnt (cpuBase c) := by
  obtain ⟨hparent, -, hdot, -⟩ := cpuDir_facts start hc
  have hlt : cpuBase c < (builtTree start ncpu).nodes.length := cpuBase_lt (j := 0) hc (by omega)
  have hclass := headNodes_cpuDir.2.2
  rw [← builtTree_head_node start ncpu (i := cpuDirNode) (by decide)] at hclass
  exact resolves_child hlt hparent hdot hclass (resolves_cpuDir g mnt)

theorem belowOtherCpu_child {i p : ℕ} (hi : i < (builtTree start ncpu).nodes.length)
    (hp : ((builtTree start ncpu).node i).ssnParent = some p)
    (h : TakenForClass ((builtTree start ncpu).node p)) :
    BelowOtherCpu ncpu ((builtTree start ncpu).ssnPath i) := by
  have hbefore := builtTree_parentsBefore start ncpu
  have hlt := (hbefore i p hp).trans hi
  obtain ⟨c, j, hpos, hc, hj, rfl⟩ := takenForClass_built hlt h
  rw [Tree.ssnPath_child hbefore hi hp]
  rcases hj with rfl | rfl
  · refine ⟨c, [((builtTree start ncpu).node i).ssnName], hpos, hc, by simp, ?_⟩
    exact congrArg (· ++ _) (ssnPath_cpu hc)
  · have htop := (cpuDir_facts start hc).2.2.2
    rw [Tree.ssnPath_child hbefore hlt htop, ssnPath_cpu hc, List.append_assoc]
    exact ⟨c, _, hpos, hc, by simp, rfl⟩

/-- Nothing is found in the directory of a CPU that is not the first one. -/
theorem lookup_in_otherCpu {c : ℕ} (hpos : 0 < c) (hc : c < cpuNodes ncpu) {nm : CStr}
    (hne : nm ≠ []) (hlen : nm.length ≤ nameMax) (hdot : nm ≠ cstr ".") (hdotdot : nm ≠ cstr "..")
    (g : GSnapshot) (mnt : Int32) :
    sysfsVnopLookup (builtTree start ncpu) g
      (staticNode (builtTree start ncpu) mnt (cpuBase c)) nm = .error .ENOENT := by
  have hnode : unnumbered ((builtTree start ncpu).node (cpuBase c)) = _ :=
    builtTree_cpu_node start (j := 0) hc (by omega)
  have hmax := hc.trans_le (cpuNodes_le ncpu)
  have htaken := (takenForClass_of_unnumbered hnode).mpr
    (((classBlocks.cpus c hmax).2 0 (by omega)).mpr ⟨Or.inl rfl, hpos⟩)
  exact lookup_class_without_marker nm htaken hne hlen hdot hdotdot g mnt

theorem builtTree_component {i : ℕ} (hi : i < (builtTree start ncpu).nodes.length) (hpos : 0 < i)
    (hdot : isDotOrMarker ((builtTree start ncpu).node i) = false) :
    ∃ p < i, ((builtTree start ncpu).node i).ssnParent = some p ∧
      isDotOrMarker ((builtTree start ncpu).node p) = false ∧
      ((builtTree start ncpu).node i).ssnName ≠ [] ∧
      ((builtTree start ncpu).node i).ssnName.length ≤ nameMax ∧
      ((builtTree start ncpu).node i).ssnName ≠ cstr "." ∧
      ((builtTree start ncpu).node i).ssnName ≠ cstr ".." := by
  obtain ⟨p, hlt, hp, hok⟩ := builtTree_local start (childOk_treeShape (cpuNodes_le ncpu)) hi hpos
  obtain ⟨-, hparent, hne, hlen, -⟩ := childOk_iff.mp hok
  simp only [isDotOrMarker, List.mem_cons, List.not_mem_nil, or_false, decide_eq_false_iff_not,
    not_or] at hdot
  refine ⟨p, hlt, hp, hparent, hne, ?_, hdot.1, hdot.2.1⟩
  unfold maxStructNodeNameLen at hlen
  unfold nameMax
  omega

/-- With distinct ids, whatever is in the hash: every static node resolves along its path to its
own identity, every CPU's `core_id` resolves to the file of that CPU, and only the directories
created for classes are taken for class directories, exactly with at most one CPU. -/
theorem structure_paths_resolve_iff {start : UInt16} {ncpu : UInt32}
    (hids : BaseIdsDistinct (builtTree start ncpu)) (g : GSnapshot) (mnt : Int32)
    (hash : ℕ → NodeHash (builtTree start ncpu)) :
    ((∀ i < (builtTree start ncpu).nodes.length,
        isDotOrMarker ((builtTree start ncpu).node i) = false →
          resolveFromRoot (builtTree start ncpu) g hash mnt ((builtTree start ncpu).ssnPath i) =
            .ok (staticNode (builtTree start ncpu) mnt i)) ∧
      (∀ c < cpuNodes ncpu, ∃ i < (builtTree start ncpu).nodes.length,
        ((builtTree start ncpu).node i).ssnNodeType = .SFSfile ∧
          ((builtTree start ncpu).node i).ssnInstance = c.toUInt32 ∧
          resolveFromRoot (builtTree start ncpu) g hash mnt (coreIdPath c) =
            .ok (staticNode (builtTree start ncpu) mnt i)) ∧
      ∀ i < (builtTree start ncpu).nodes.length,
        sysfsIsClassDir ((builtTree start ncpu).node i) = true →
          (builtTree start ncpu).ssnPath i ∈ classDirPaths) ↔ ncpu ≤ 1 := by
  have hone : ncpu ≤ 1 ↔ cpuNodes ncpu ≤ 1 := by
    rw [UInt32.le_iff_toNat_le, cpuNodes, sysfsMaxCpuNodes]
    simp only [UInt32.toNat_one]
    omega
  simp only [resolveFromRoot_eq hids]
  rw [hone]
  constructor
  · rintro ⟨hall, -, -⟩
    by_contra hcpu
    obtain ⟨hlen, hdot, hnot⟩ := not_resolves_topology start (Nat.lt_of_not_le hcpu) g mnt
    exact hnot (hall 89 hlen hdot)
  · intro hcpu
    refine ⟨resolves_of_one_cpu hcpu g mnt, ?_, ?_⟩
    · intro c hc
      obtain ⟨rfl, hn⟩ : c = 0 ∧ cpuNodes ncpu = 1 := by omega
      have hlen : 81 < (builtTree start ncpu).nodes.length := by
        rw [builtTree_length]
        omega
      obtain ⟨hpath, hdot, htype, hinst⟩ := coreId_of_shape
      obtain ⟨hpath', hnode⟩ := builtTree_eq_shape start ncpu 81
      rw [hn] at hpath' hnode
      rw [← hnode] at hdot htype hinst
      refine ⟨81, hlen, htype, hinst, ?_⟩
      rw [← hpath, ← hpath']
      exact resolves_of_one_cpu hcpu g mnt 81 hlen hdot
    · intro i hi hclass
      rw [builtTree_length] at hi
      obtain ⟨hpath, hnode⟩ := builtTree_eq_shape start ncpu i
      rw [hpath]
      apply classDirs_of_shape hcpu i (by omega)
      rw [← hnode]
      exact hclass

/-- On the first mount with one CPU the path of its `core_id` leads to a file. -/
theorem one_cpu_core_id_resolves :
    BaseIdsDistinct (builtTree 2 1) ∧ ∀ hash, ∃ i,
      ((builtTree 2 1).node i).ssnNodeType = .SFSfile ∧
        resolveFromRoot (builtTree 2 1) none hash 1 (coreIdPath 0) =
          .ok (staticNode (builtTree 2 1) 1 i) := by
  refine ⟨firstTree_ids 1, fun hash => ?_⟩
  obtain ⟨-, hcore, -⟩ :=
    (structure_paths_resolve_iff (firstTree_ids 1) none 1 hash).mpr (by decide)
  obtain ⟨i, -, htype, -, hfound⟩ := hcore 0 (by decide)
  exact ⟨i, htype, hfound⟩

/-- With two CPUs the path of the second one's `topology` directory is not found. -/
theorem cpu1_topology_not_found :
    let t := builtTree 2 2
    let path := cpuDirPath ++ [cstr "cpu1", cstr "topology"]
    t.ssnPath 89 = path ∧ isDotOrMarker (t.node 89) = false ∧
      ∀ hash, resolveFromRoot t none hash 1 path = .error .ENOENT := by
  have hplain : (builtTree 2 2).ssnPath 89 = cpuDirPath ++ [cstr "cpu1", cstr "topology"] ∧
      isDotOrMarker ((builtTree 2 2).node 89) = false ∧
      resolve (builtTree 2 2) none (sysfsRoot 1) (cpuDirPath ++ [cstr "cpu1", cstr "topology"]) =
        .error .ENOENT := by decide +kernel
  obtain ⟨hpath, hdot, hresolve⟩ := hplain
  refine ⟨hpath, hdot, fun hash => ?_⟩
  rw [resolveFromRoot_eq (firstTree_ids 2), hresolve]

/-- For every number of CPUs, with distinct ids and whatever is in the hash, the path of a
structure node leads to the node, unless it goes on below the directory of a CPU that is not the
first one, where nothing is found. -/
theorem structure_path_found (hids : BaseIdsDistinct (builtTree start ncpu)) (g : GSnapshot)
    (mnt : Int32) (hash : ℕ → NodeHash (builtTree start ncpu)) (i : ℕ)
    (hi : i < (builtTree start ncpu).nodes.length)
    (hdot : isDotOrMarker ((builtTree start ncpu).node i) = false) :
    (¬BelowOtherCpu ncpu ((builtTree start ncpu).ssnPath i) →
      resolveFromRoot (builtTree start ncpu) g hash mnt ((builtTree start ncpu).ssnPath i) =
        .ok (staticNode (builtTree start ncpu) mnt i)) ∧
    (BelowOtherCpu ncpu ((builtTree start ncpu).ssnPath i) →
      resolveFromRoot (builtTree start ncpu) g hash mnt ((builtTree start ncpu).ssnPath i) =
        .error .ENOENT) := by
  rw [resolveFromRoot_eq hids]
  induction i using Nat.strong_induction_on with
  | _ i ih =>
    rcases Nat.eq_zero_or_pos i with rfl | hpos
    · refine ⟨fun _ => resolves_root g mnt, ?_⟩
      rintro ⟨c, rest, -, -, -, hpath⟩
      rw [Tree.ssnPath_root (builtTree_root_parent start ncpu)] at hpath
      simp [cpuDirPath] at hpath
    obtain ⟨p, hlt, hp, hparent, hne, hlen, hone, htwo⟩ := builtTree_component hi hpos hdot
    have hpath := Tree.ssnPath_child (builtTree_parentsBefore start ncpu) hi hp
    obtain ⟨hfound, hlost⟩ := ih p hlt (hlt.trans hi) hparent
    constructor
    · intro hnot
      have hclass : sysfsIsClassDir ((builtTree start ncpu).node p) = false := by
        by_contra hc
        obtain ⟨p', -, hp', hok⟩ := builtTree_local start classOrCpu_treeShape hi hpos
        cases hp.symm.trans hp'
        have hor := of_decide_eq_true hok (Bool.not_eq_false _ ▸ hc)
        rcases hor with hmark | htaken
        · exact absurd (hmark.symm.trans hdot) (by simp)
        · exact hnot (belowOtherCpu_child hi hp ⟨htaken.isClass, htaken.notModule, htaken.name⟩)
      refine resolves_child hi hp hdot hclass (hfound ?_)
      rintro ⟨c, rest, hc, hlt', hrest, heq⟩
      refine hnot ⟨c, rest ++ [((builtTree start ncpu).node i).ssnName], hc, hlt', by simp, ?_⟩
      rw [hpath, heq, List.append_assoc]
    · rintro ⟨c, rest, hc, hlt', hrest, heq⟩
      rw [hpath] at heq ⊢
      rw [resolve_append]
      obtain ⟨rest', last, rfl⟩ := (List.eq_nil_or_concat rest).resolve_left hrest
      rw [List.concat_eq_append, ← List.append_assoc] at heq
      have hfront := (List.append_inj' heq rfl).1
      cases rest' with
      | nil =>
        -- the parent is the directory of the CPU itself
        rw [List.append_nil, ← ssnPath_cpu hlt'] at hfront
        rw [hfront, resolves_cpu hlt' g mnt]
        exact lookup_in_otherCpu hc hlt' hne hlen hone htwo g mnt
      | cons nm rest' =>
        rw [hlost ⟨c, nm :: rest', hc, hlt', by simp, hfront⟩]
        rfl

/-- With two CPUs the `topology` directory of the first one is found, that of the second one is
not. -/
theorem first_topology_found :
    let t := builtTree 2 2
    let dir := fun nm => cpuDirPath ++ [nm, cstr "topology"]
    t.ssnPath 78 = dir (cstr "cpu0") ∧ t.ssnPath 89 = dir (cstr "cpu1") ∧
      ∀ hash, resolveFromRoot t none hash 1 (t.ssnPath 78) = .ok (staticNode t 1 78) ∧
        resolveFromRoot t none hash 1 (t.ssnPath 89) = .error .ENOENT := by
  have hpaths : (builtTree 2 2).ssnPath 78 = cpuDirPath ++ [cstr "cpu0", cstr "topology"] ∧
      (builtTree 2 2).ssnPath 89 = cpuDirPath ++ [cstr "cpu1", cstr "topology"] ∧
      (∀ i ∈ [78, 89], i < (builtTree 2 2).nodes.length ∧
        isDotOrMarker ((builtTree 2 2).node i) = false) ∧ cpuName 1 = cstr "cpu1" := by
    decide +kernel
  obtain ⟨h78, h89, hnodes, hname⟩ := hpaths
  refine ⟨h78, h89, fun hash => ⟨?_, ?_⟩⟩
  · obtain ⟨hlt, hdot⟩ := hnodes 78 (by simp)
    apply (structure_path_found (firstTree_ids 2) none 1 hash 78 hlt hdot).1
    rintro ⟨c, rest, hpos, hc, -, hpath⟩
    have hone : c = 1 := by
      have htwo : cpuNodes 2 = 2 := by decide
      omega
    rw [h78, hone, hname, List.append_assoc] at hpath
    have hsame := List.append_cancel_left hpath
    simp [cstr] at hsame
  · obtain ⟨hlt, hdot⟩ := hnodes 89 (by simp)
    apply (structure_path_found (firstTree_ids 2) none 1 hash 89 hlt hdot).2
    refine ⟨1, [cstr "topology"], by decide, by decide, by simp, ?_⟩
    rw [h89, hname, List.append_assoc]
    rfl

theorem cpuDir_names : childNames (builtTree start ncpu).nodes cpuDirNode =
    childNames headNodes cpuDirNode ++ (List.range (cpuNodes ncpu)).map cpuName := by
  have hn := cpuNodes_le ncpu
  have hat := attached_head (n := cpuNodes ncpu) (q := rootNode) hn (by decide)
  have hlt : cpuDirNode < (loopShape (cpuNodes ncpu)).length := by
    rw [loopShape_length hn, cpuDirNode, cpuBase]
    omega
  have hafter : childNames (afterArena.tail.map (afterPlacement (cpuNodes ncpu)).node) cpuDirNode =
      [] := hat.childNames_other (show cpuDirNode ≠ rootNode by decide) hlt
  rw [← childNames_unnumbered, builtTree_shape, treeShape, childNames_append,
    loopShape_cpu_names hn, hafter, List.append_nil]

/-- The lists in the `cpu` directory: where they are, their names and what they read. -/
def cpuLists : List (ℕ × CStr × ReadDataFn) :=
  [(69, cstr "online", .sysfsDoCpulist), (70, cstr "possible", .sysfsDoCpulist),
    (71, cstr "present", .sysfsDoCpulist), (72, cstr "offline", .sysfsDoZeroCount)]

theorem headNodes_cpuFiles :
    (∀ nm ∈ childNames headNodes cpuDirNode, nm.take 3 ≠ cstr "cpu") ∧
      (headNodes.getD cpuDirNode default).ssnNodeType = .SFSdir ∧
      sysfsIsModuleDir (headNodes.getD cpuDirNode default) = false ∧
      ∀ x ∈ cpuLists, x.1 < 74 ∧
          (headNodes.getD x.1 default).ssnParent = some cpuDirNode ∧
          (headNodes.getD x.1 default).ssnName = x.2.1 ∧
          isDotOrMarker (headNodes.getD x.1 default) = false ∧
          (headNodes.getD x.1 default).ssnNodeType = .SFSfile ∧
          (headNodes.getD x.1 default).ssnReadDataFn = some x.2.2 := by decide +kernel

theorem resolve_in_cpuDir (g : GSnapshot) (mnt : Int32) (nm : CStr) :
    resolve (builtTree start ncpu) g (sysfsRoot mnt) (cpuDirPath ++ [nm]) =
      sysfsVnopLookup (builtTree start ncpu) g
        (staticNode (builtTree start ncpu) mnt cpuDirNode) nm := by
  have hdir : Resolves (builtTree start ncpu) g mnt cpuDirNode := resolves_cpuDir g mnt
  rw [Resolves, ssnPath_cpuDir] at hdir
  rw [resolve_append, hdir]
  rfl

theorem childNamed_eq_none {t : Tree} {p : ℕ} {nm : CStr} (h : nm ∉ childNames t.nodes p) :
    t.childNamed p nm = none := by
  apply List.find?_eq_none.mpr
  intro c hc hname
  apply h
  rw [← ssnChildren_names]
  exact List.mem_map.mpr ⟨c, hc, (of_decide_eq_true hname).symm⟩

theorem lookup_cpuDir_none (start : UInt16) {nm : CStr} (hne : nm ≠ []) (hlen : nm.length ≤ nameMax)
    (hdot : nm ≠ cstr ".") (hdotdot : nm ≠ cstr "..")
    (h : nm ∉ childNames (builtTree start ncpu).nodes cpuDirNode) (g : GSnapshot) (mnt : Int32) :
    sysfsVnopLookup (builtTree start ncpu) g
      (staticNode (builtTree start ncpu) mnt cpuDirNode) nm = .error .ENOENT := by
  obtain ⟨-, htype, hmodule, -⟩ := headNodes_cpuFiles
  have hclass := headNodes_cpuDir.2.2
  rw [← builtTree_head_node start ncpu (i := cpuDirNode) (by decide)] at htype hmodule hclass
  replace htype : ((builtTree start ncpu).node cpuDirNode).ssnNodeType = .SFSdir := htype
  replace hmodule : sysfsIsModuleDir ((builtTree start ncpu).node cpuDirNode) = false := hmodule
  replace hclass : sysfsIsClassDir ((builtTree start ncpu).node cpuDirNode) = false := hclass
  have hmatch : lookupMatch (builtTree start ncpu) g
      (staticNode (builtTree start ncpu) mnt cpuDirNode) nm nm.length = none := by
    simp [lookupMatch, staticNode, hmodule, hclass, htype, matchStatic, childNamed_eq_none h]
  rw [lookup_eq_match (vnodeVtype_staticNode (by simp [htype]) mnt) hne hlen hdot hdotdot, hmatch]

/-- The directory of CPU `c` is found if it is one of the first 64 CPUs. -/
theorem cpu_found_iff (g : GSnapshot) (mnt : Int32) (c : UInt32) :
    (∃ n, resolve (builtTree start ncpu) g (sysfsRoot mnt)
        (cpuDirPath ++ [cstr "cpu" ++ decimal c.toNat]) = .ok n) ↔ c.toNat < cpuNodes ncpu := by
  have hcpu : (cstr "cpu").length = 3 := rfl
  constructor
  · rintro ⟨n, hn⟩
    by_contra hc
    have hnot : cstr "cpu" ++ decimal c.toNat ∉
        childNames (builtTree start ncpu).nodes cpuDirNode := by
      rw [cpuDir_names, List.mem_append, List.mem_map]
      rintro (hhead | ⟨d, hd, heq⟩)
      · exact headNodes_cpuFiles.1 _ hhead (List.take_left' hcpu)
      · rw [List.mem_range] at hd
        rw [cpuName_eq (hd.trans_le (cpuNodes_le ncpu))] at heq
        have hcd : d = c.toNat := decimal_injective (List.append_cancel_left heq)
        omega
    have hlen := decimal_toNat_length c
    have hproper : ∀ nm ∈ [cstr ".", cstr ".."], cstr "cpu" ++ decimal c.toNat ≠ nm := by
      intro nm hnm heq
      have hshort : ∀ nm ∈ [cstr ".", cstr ".."], nm.length < 3 := by decide
      have hlt := hshort nm hnm
      rw [← heq, List.length_append] at hlt
      omega
    have hnone := lookup_cpuDir_none start (by simp [cstr])
      (by rw [List.length_append, nameMax]; omega) (hproper _ (by simp)) (hproper _ (by simp))
      hnot g mnt
    rw [resolve_in_cpuDir, hnone] at hn
    cases hn
  · intro hc
    have hfound : Resolves (builtTree start ncpu) g mnt (cpuBase c.toNat) := resolves_cpu hc g mnt
    rw [Resolves, ssnPath_cpu hc, cpuName_eq (hc.trans_le (cpuNodes_le ncpu))] at hfound
    exact ⟨_, hfound⟩

theorem cpuList_reads (start : UInt16) (ncpu : UInt32) {x : ℕ × CStr × ReadDataFn}
    (hx : x ∈ cpuLists) {ctl : Sysctls} {text : List UInt8} (g : GSnapshot) (mnt : Int32)
    (htext : ∀ snp, Renders (systemReadData ctl (builtTree start ncpu) x.2.2 snp) text) :
    ∃ file, resolve (builtTree start ncpu) g (sysfsRoot mnt) (cpuDirPath ++ [x.2.1]) = .ok file ∧
      Renders (sysfsVnopRead (systemReadData ctl (builtTree start ncpu)) (builtTree start ncpu) g
        file) text := by
  obtain ⟨hi, hparent, hname, hdot, htype, hfn⟩ := headNodes_cpuFiles.2.2.2 x hx
  have hdir : Resolves (builtTree start ncpu) g mnt cpuDirNode := resolves_cpuDir g mnt
  have hfile := resolves_head hi (by decide) hparent hdot headNodes_cpuDir.2.2 hdir
  rw [← builtTree_head_node start ncpu hi] at hparent hname htype hfn
  have hlt : x.1 < (builtTree start ncpu).nodes.length := by
    rw [builtTree_length]
    omega
  rw [Resolves, Tree.ssnPath_child (builtTree_parentsBefore start ncpu) hlt hparent,
    ssnPath_cpuDir, show ((builtTree start ncpu).node x.1).ssnName = x.2.1 from hname] at hfile
  refine ⟨_, hfile, ?_⟩
  exact FileContent.renders (.file htype hfn (htext _))

end Built

/-- With the number of CPUs that the tree was built for, distinct ids and whatever is in the
hash: the lists `online`, `possible` and `present` name all CPUs, `offline` names CPU 0, and
directories are there for the first 64. -/
theorem cpu_lists_and_dirs {start : UInt16} {ncpu : UInt32}
    (hids : BaseIdsDistinct (builtTree start ncpu)) {ctl : Sysctls} (hctl : sysfsNcpu ctl = ncpu)
    (g : GSnapshot) (mnt : Int32) (hash : ℕ → NodeHash (builtTree start ncpu)) :
    (∀ nm ∈ [cstr "online", cstr "possible", cstr "present"], ∃ file text,
      resolveFromRoot (builtTree start ncpu) g hash mnt (cpuDirPath ++ [nm]) = .ok file ∧
        Renders (sysfsVnopRead (systemReadData ctl (builtTree start ncpu)) (builtTree start ncpu)
          g file) text ∧ listSet text = some (Set.Iio ncpu.toNat)) ∧
    (∃ file text,
      resolveFromRoot (builtTree start ncpu) g hash mnt (cpuDirPath ++ [cstr "offline"]) =
          .ok file ∧
        Renders (sysfsVnopRead (systemReadData ctl (builtTree start ncpu)) (builtTree start ncpu)
          g file) text ∧ listSet text = some {0}) ∧
    ∀ c : UInt32, (∃ n, resolveFromRoot (builtTree start ncpu) g hash mnt
      (cpuDirPath ++ [cstr "cpu" ++ decimal c.toNat]) = .ok n) ↔
        c.toNat < ncpu.toNat ∧ c.toNat < sysfsMaxCpuNodes := by
  simp only [resolveFromRoot_eq hids]
  refine ⟨fun nm hnm => ?_, ?_, fun c => ?_⟩
  · have hmem : ∃ i, (i, nm, ReadDataFn.sysfsDoCpulist) ∈ cpuLists := by
      simp only [List.mem_cons, List.not_mem_nil, or_false] at hnm
      rcases hnm with rfl | rfl | rfl
      · exact ⟨69, by simp [cpuLists]⟩
      · exact ⟨70, by simp [cpuLists]⟩
      · exact ⟨71, by simp [cpuLists]⟩
    obtain ⟨i, hi⟩ := hmem
    obtain ⟨file, hfile, hrenders⟩ :=
      cpuList_reads start ncpu hi g mnt fun _ => cpulist_renders ctl
    refine ⟨file, _, hfile, hrenders, ?_⟩
    rw [cpulist_listSet, hctl]
  · have hmem : (72, cstr "offline", ReadDataFn.sysfsDoZeroCount) ∈ cpuLists := by simp [cpuLists]
    have hzero : ∀ snp, Renders (systemReadData ctl (builtTree start ncpu) .sysfsDoZeroCount snp)
        (cstr "0\n") := fun _ => copyConstant_renders (by decide)
    obtain ⟨file, hfile, hrenders⟩ := cpuList_reads start ncpu hmem g mnt hzero
    exact ⟨file, _, hfile, hrenders, listSet_decimal 0⟩
  · rw [cpu_found_iff, cpuNodes, lt_min_iff]

/-- With 80 CPUs the directory of CPU 70 is not there, though `online` names it. -/
theorem eighty_cpus_listed :
    ∃ ctl : Sysctls, sysfsNcpu ctl = 80 ∧ ∀ hash,
      (∃ file text, resolveFromRoot (builtTree 2 80) none hash 1 (cpuDirPath ++ [cstr "online"]) =
          .ok file ∧
        Renders (sysfsVnopRead (systemReadData ctl (builtTree 2 80)) (builtTree 2 80) none file)
          text ∧ listSet text = some (Set.Iio 80)) ∧
      ¬∃ n, resolveFromRoot (builtTree 2 80) none hash 1
        (cpuDirPath ++ [cstr "cpu" ++ decimal 70]) = .ok n := by
  have hctl : sysfsNcpu ⟨some 80, none, none⟩ = 80 := by decide
  refine ⟨_, hctl, fun hash => ?_⟩
  obtain ⟨hlists, -, hdirs⟩ := cpu_lists_and_dirs (firstTree_ids 80) hctl none 1 hash
  refine ⟨hlists _ (by simp), fun hfound => ?_⟩
  exact absurd ((hdirs 70).mp hfound).2 (by decide)

end SysFS
