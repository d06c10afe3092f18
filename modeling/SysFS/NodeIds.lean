import SysFS.StructureFacts

namespace SysFS

def mountCycle (g : StructureGlobals) (ncpu : UInt32) : StructureGlobals :=
  sysfsStructureFree (sysfsStructureInit ncpu g)

/-- The globals after cycles with the given CPU counts, from the load of the kext on. -/
def afterCycles (history : List UInt32) : StructureGlobals :=
  history.foldl mountCycle StructureGlobals.load

/-- The count of numbers that one `sysfs_structure_init` takes. -/
def idCount (ncpu : UInt32) : ℕ := 106 + 11 * cpuNodes ncpu

/-- The first number of the tree that is built after the given cycles. -/
def firstId (history : List UInt32) : ℕ := (2 + (history.map idCount).sum) % 2 ^ 16

theorem firstId_lt (history : List UInt32) : firstId history < 2 ^ 16 := Nat.mod_lt _ (by omega)

theorem idCount_le (ncpu : UInt32) : idCount ncpu ≤ 810 := by
  have := cpuNodes_le ncpu
  rw [sysfsMaxCpuNodes] at this
  rw [idCount]
  omega

theorem buildStructure_ids (start : UInt16) (ncpu : UInt32) :
    NumberedTo start (idCount ncpu) (builtTree start ncpu).nodes ∧
      (buildStructure ncpu ⟨[], start⟩).2.nextNodeId = start + UInt16.ofNat (idCount ncpu) := by
  obtain ⟨m, hm, hnext⟩ := (buildStructure_numbered ncpu).run ⟨[], start⟩ rfl
  have hlen : 107 + 11 * cpuNodes ncpu = m + 1 := by
    rw [← builtTree_length start, builtTree]
    simpa using congrArg List.length hm
  obtain rfl : m = idCount ncpu := by
    rw [idCount]
    omega
  exact ⟨hm, hnext⟩

theorem builtTree_root_id (start : UInt16) (ncpu : UInt32) :
    ((builtTree start ncpu).node 0).ssnBaseNodeId = sysfsRootNodeBaseId := by
  have hroot := congrArg List.head? (buildStructure_ids start ncpu).1
  rw [List.head?_map, List.head?_cons, Option.map_eq_some_iff] at hroot
  obtain ⟨root, hhead, hid⟩ := hroot
  rw [node_eq_of_getElem? (List.head?_eq_getElem? ▸ hhead)]
  exact hid

theorem builtTree_base (start : UInt16) {ncpu : UInt32} {i : ℕ}
    (hi : i + 1 < (builtTree start ncpu).nodes.length) :
    ((builtTree start ncpu).node (i + 1)).ssnBaseNodeId = start + UInt16.ofNat i := by
  have hids : (builtTree start ncpu).nodes.map Sfssnode.ssnBaseNodeId = _ :=
    (buildStructure_ids start ncpu).1
  have hlen := congrArg List.length hids
  rw [List.length_map, List.length_cons, List.length_map, List.length_range] at hlen
  have hget := congrArg (fun ids => ids[i + 1]?) hids
  rw [List.getElem?_map, List.getElem?_eq_getElem hi, List.getElem?_cons_succ, List.getElem?_map,
    List.getElem?_range (by omega), Option.map_some, Option.map_some, Option.some_inj] at hget
  rw [Tree.node, List.getD_eq_getElem _ _ hi]
  exact hget

theorem foldl_mountCycle (history : List UInt32) (start : UInt16) :
    history.foldl mountCycle ⟨none, start⟩ =
      ⟨none, start + UInt16.ofNat (history.map idCount).sum⟩ := by
  induction history generalizing start with
  | nil => simp
  | cons ncpu history ih =>
    have hcycle : mountCycle ⟨none, start⟩ ncpu = ⟨none, start + UInt16.ofNat (idCount ncpu)⟩ := by
      rw [← (buildStructure_ids start ncpu).2]
      rfl
    rw [List.foldl_cons, hcycle, ih, List.map_cons, List.sum_cons, UInt16.ofNat_add,
      UInt16.add_assoc]

/-- After any number of cycles there is no tree and the counter has kept running. -/
theorem afterCycles_eq (history : List UInt32) :
    afterCycles history = ⟨none, UInt16.ofNat (firstId history)⟩ := by
  have hnext : UInt16.ofNat (firstId history) = 2 + UInt16.ofNat (history.map idCount).sum := by
    apply UInt16.toNat_inj.mp
    simp [firstId]
  rw [hnext]
  exact foldl_mountCycle history 2

theorem latestTree_eq (history : List UInt32) (ncpu : UInt32) :
    (sysfsStructureInit ncpu (afterCycles history)).rootNode =
      some (builtTree (UInt16.ofNat (firstId history)) ncpu) := by
  rw [afterCycles_eq]
  rfl

theorem numbers_nodup (start : UInt16) {m : ℕ} (hm : m ≤ 2 ^ 16) :
    ((List.range m).map fun i => start + UInt16.ofNat i).Nodup := by
  apply List.Nodup.map_on _ List.nodup_range
  intro i hi j hj hij
  rw [List.mem_range] at hi hj
  have heq := congrArg UInt16.toNat ((UInt16.add_right_inj start).mp hij)
  simp only [UInt16.toNat_ofNat'] at heq
  omega

/-- The ids are distinct exactly when the counter does not pass the root's id. -/
theorem builtTree_ids_nodup_iff {first : ℕ} (hfirst : first < 2 ^ 16) (ncpu : UInt32) :
    ((builtTree (UInt16.ofNat first) ncpu).nodes.map Sfssnode.ssnBaseNodeId).Nodup ↔
      2 ≤ first ∧ first + idCount ncpu ≤ 2 ^ 16 + 1 := by
  have hle := idCount_le ncpu
  have hpos : 106 ≤ idCount ncpu := Nat.le_add_right ..
  have hvalue : ∀ i, UInt16.ofNat first + UInt16.ofNat i = sysfsRootNodeBaseId ↔
      (first + i) % 2 ^ 16 = 1 := by
    intro i
    rw [← UInt16.ofNat_add, ← UInt16.toNat_inj]
    simp [sysfsRootNodeBaseId]
  rw [(buildStructure_ids _ ncpu).1, List.nodup_cons,
    and_iff_left (numbers_nodup _ (by omega)), List.mem_map]
  simp only [List.mem_range, hvalue, not_exists, not_and]
  constructor
  · intro h
    by_contra hcon
    -- one of the numbers 0 and 1, or the number after the wrap, is taken
    have h0 := h (1 - first)
    have h1 := h (2 ^ 16 + 1 - first)
    omega
  · rintro ⟨h2, hlast⟩ i hi heq
    omega

/-- The ids of the latest tree are pairwise distinct exactly when its numbers start
above the root's id and end before the counter comes back to it. -/
theorem latest_ids_distinct_iff (history : List UInt32) (ncpu : UInt32) :
    ∃ t, (sysfsStructureInit ncpu (afterCycles history)).rootNode = some t ∧
      (t.node 0).ssnBaseNodeId = sysfsRootNodeBaseId ∧
      ((t.nodes.map Sfssnode.ssnBaseNodeId).Nodup ↔
        2 ≤ firstId history ∧ firstId history + idCount ncpu ≤ 2 ^ 16 + 1) :=
  ⟨_, latestTree_eq history ncpu, builtTree_root_id ..,
    builtTree_ids_nodup_iff (firstId_lt history) ncpu⟩

/-- With one CPU the tree after 560 cycles gives the root's id to a second node. -/
theorem latest_ids_collide :
    ∃ t, (sysfsStructureInit 1 (afterCycles (List.replicate 560 1))).rootNode = some t ∧
      ¬(t.nodes.map Sfssnode.ssnBaseNodeId).Nodup := by
  refine ⟨_, latestTree_eq _ 1, ?_⟩
  rw [builtTree_ids_nodup_iff (firstId_lt _)]
  decide +kernel

theorem first_mount (ncpu : UInt32) :
    (sysfsStructureInit ncpu (afterCycles [])).rootNode = some (builtTree 2 ncpu) ∧
      2 ≤ firstId [] ∧ firstId [] + idCount ncpu ≤ 2 ^ 16 + 1 := by
  have hfirst : firstId [] = 2 := by decide
  have hcount := idCount_le ncpu
  refine ⟨?_, ?_, ?_⟩
  · rw [latestTree_eq, hfirst]
    rfl
  · rw [hfirst]
  · rw [hfirst]
    omega

end SysFS
