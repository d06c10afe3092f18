import SysFS.Lib.CString

namespace SysFS
open CString

inductive Sfstype where
  | SFSroot
  | SFSdir
  | SFSfile
  | SFSdirthis
  | SFSdirparent
  | SFSlink
  | SFSdevice
  | SFSattr
  | SFSsubsystem
  | SFSmodule
  deriving DecidableEq, Repr

/-- The functions of `sysfs_system.c` that a structure node can name as its reader. -/
inductive ReadDataFn where
  | sysfsDoZeroCount
  | sysfsDoCpulist
  | sysfsDoCpumap
  | sysfsDoNodeMeminfo
  | sysfsDoNodeDistance
  | sysfsDoNodeNumastat
  | sysfsDoNodeList
  | sysfsDoCpuKernelMax
  | sysfsDoCpuOnline
  | sysfsDoCpuPackageId
  | sysfsDoCpuCoreId
  | sysfsDoCpuThreadSiblings
  | sysfsDoCpuCoreSiblings
  deriving DecidableEq, Repr

def ssnFlagDynamic : UInt16 := 1
def ssnFlagWholeOnly : UInt16 := 2
def ssnFlagModules : UInt16 := 4

def sysfsRootNodeBaseId : UInt16 := 1
def maxStructNodeNameLen : ℕ := 32
def sysfsMaxCpuNodes : ℕ := 64
def sysfsZeroCountLen : ℕ := 2

def sysfsClassNone : UInt32 := 0
def sysfsClassNet : UInt32 := 1
def sysfsClassBlock : UInt32 := 2
def sysfsClassTty : UInt32 := 3
def sysfsClassPower : UInt32 := 4

/-- `struct sfssnode`. The size hook is NULL in every node the tree has. -/
structure Sfssnode where
  ssnNodeType : Sfstype
  ssnName : CStr
  ssnBaseNodeId : UInt16
  ssnFlags : UInt16
  ssnInstance : UInt32
  ssnParent : Option ℕ
  ssnNodeSize : ℕ
  ssnReadDataFn : Option ReadDataFn
  deriving DecidableEq, Repr

instance : Inhabited Sfssnode := ⟨⟨.SFSfile, [], 0, 0, 0, none, 0, none⟩⟩

/-- The nodes reachable from `root_node`, which is node 0. A pointer to a node is its index. As
`TAILQ_INSERT_TAIL` is the only insertion, children stand in the order of their creation. -/
structure Tree where
  nodes : List Sfssnode
  deriving DecidableEq, Repr

namespace Tree

def node (t : Tree) (p : ℕ) : Sfssnode := t.nodes.getD p default

/-- `ssn_children`: the queue of the nodes created under `p`. -/
def ssnChildren (t : Tree) (p : ℕ) : List ℕ :=
  (List.range t.nodes.length).filter fun i => (t.node i).ssnParent = some p

end Tree

/-- The arena under construction and the global `next_node_id`. -/
structure Build where
  nodes : List Sfssnode
  nextNodeId : UInt16

abbrev BuildM := StateM Build

/-- `next_node_id++`, a 16-bit counter. -/
def takeNodeId : BuildM UInt16 := fun b => (b.nextNodeId, { b with nextNodeId := b.nextNodeId + 1 })

/-- The flags a new node takes over from its parent: the dynamic one alone. -/
def inheritedFlags (nodes : List Sfssnode) : Option ℕ → UInt16
  | none => 0
  | some p => (nodes.getD p default).ssnFlags &&& ssnFlagDynamic

def addNode (parent : Option ℕ) (name : CStr) (type : Sfstype) (nodeId flags : UInt16)
    (size : ℕ) (nodeReadDataFn : Option ReadDataFn) : BuildM ℕ := fun b =>
  (b.nodes.length,
    { b with nodes := b.nodes ++ [{
        ssnNodeType := type
        ssnName := strlcpy name maxStructNodeNameLen
        ssnBaseNodeId := nodeId
        ssnFlags := flags ||| inheritedFlags b.nodes parent
        ssnInstance := 0
        ssnParent := parent
        ssnNodeSize := size
        ssnReadDataFn := nodeReadDataFn }] })

/-- `add_directory` with `raw` set: the directory node alone. -/
def addRawDirectory (parent : Option ℕ) (name : CStr) (type : Sfstype)
    (nodeId flags : UInt16) : BuildM ℕ :=
  addNode parent name type nodeId flags 0 none

/-- `add_directory` with `raw` clear: the directory and its dot entries. -/
def addDirectory (parent : Option ℕ) (name : CStr) (type : Sfstype)
    (nodeId flags : UInt16) : BuildM ℕ := do
  let snode ← addRawDirectory parent name type nodeId flags
  let _ ← addRawDirectory (some snode) (cstr ".") .SFSdirthis (← takeNodeId)
    (flags &&& ssnFlagDynamic)
  let _ ← addRawDirectory (some snode) (cstr "..") .SFSdirparent (← takeNodeId)
    (flags &&& ssnFlagDynamic)
  return snode

def addFile (parent : Option ℕ) (name : CStr) (nodeId flags : UInt16) (size : ℕ)
    (nodeReadDataFn : ReadDataFn) : BuildM ℕ :=
  addNode parent name .SFSfile nodeId flags size (some nodeReadDataFn)

def Sfssnode.withInstance (n : UInt32) (s : Sfssnode) : Sfssnode := { s with ssnInstance := n }

/-- The assignment `node->ssn_instance = n`. -/
def setInstance (p : ℕ) (n : UInt32) : BuildM Unit := fun b =>
  ((), { b with nodes := b.nodes.modify p (Sfssnode.withInstance n) })

/-- The table `sysfs_classes`. -/
def sysfsClasses : List (CStr × UInt32) :=
  [(cstr "net", sysfsClassNet), (cstr "block", sysfsClassBlock), (cstr "tty", sysfsClassTty),
    (cstr "power_supply", sysfsClassPower)]

/-- One class directory and the marker its members are presented through. -/
def addClass (classDir : ℕ) (c : CStr × UInt32) : BuildM Unit := do
  let cd ← addDirectory (some classDir) c.1 .SFSdir (← takeNodeId) ssnFlagDynamic
  setInstance cd c.2
  let _ ← addNode (some cd) (cstr "__member__") .SFSlink (← takeNodeId) ssnFlagDynamic 0 none

/-- `sysfs_structure_init` up to the CPU loop; returns the root and the `cpu` directory. -/
@[irreducible] def addBeforeCpus : BuildM (ℕ × ℕ) := do
  let rootNode ← addDirectory none (cstr "/") .SFSroot sysfsRootNodeBaseId 0
  let blockDir ← addDirectory (some rootNode) (cstr "block") .SFSdir (← takeNodeId)
    (ssnFlagDynamic ||| ssnFlagWholeOnly)
  setInstance blockDir sysfsClassBlock
  let _ ← addNode (some blockDir) (cstr "__member__") .SFSlink (← takeNodeId) ssnFlagDynamic 0 none
  let _ ← addDirectory (some rootNode) (cstr "bus") .SFSdir (← takeNodeId) 0
  let classDir ← addDirectory (some rootNode) (cstr "class") .SFSdir (← takeNodeId) 0
  sysfsClasses.forM (addClass classDir)
  let devDir ← addDirectory (some rootNode) (cstr "dev") .SFSdir (← takeNodeId) 0
  let _ ← addDirectory (some devDir) (cstr "char") .SFSdir (← takeNodeId) 0
  let _ ← addDirectory (some devDir) (cstr "block") .SFSdir (← takeNodeId) 0
  -- not a directory of the static kind: its readdir emits the dot entries itself
  let devicesNode ← addNode (some rootNode) (cstr "devices") .SFSdevice (← takeNodeId)
    ssnFlagDynamic 0 none
  let systemDir ← addDirectory (some devicesNode) (cstr "system") .SFSdir (← takeNodeId) 0
  let nodeDir ← addDirectory (some systemDir) (cstr "node") .SFSdir (← takeNodeId) 0
  let node0Dir ← addDirectory (some nodeDir) (cstr "node0") .SFSdir (← takeNodeId) 0
  let hugepagesDir ← addDirectory (some node0Dir) (cstr "hugepages") .SFSdir (← takeNodeId) 0
  let hp2mDir ← addDirectory (some hugepagesDir) (cstr "hugepages-2048kB") .SFSdir (← takeNodeId) 0
  let _ ← addFile (some hp2mDir) (cstr "nr_hugepages") (← takeNodeId) 0 sysfsZeroCountLen
    .sysfsDoZeroCount
  let _ ← addFile (some hp2mDir) (cstr "free_hugepages") (← takeNodeId) 0 sysfsZeroCountLen
    .sysfsDoZeroCount
  let _ ← addFile (some hp2mDir) (cstr "surplus_hugepages") (← takeNodeId) 0 sysfsZeroCountLen
    .sysfsDoZeroCount
  let _ ← addFile (some node0Dir) (cstr "cpulist") (← takeNodeId) 0 0 .sysfsDoCpulist
  let _ ← addFile (some node0Dir) (cstr "cpumap") (← takeNodeId) 0 0 .sysfsDoCpumap
  let _ ← addFile (some node0Dir) (cstr "meminfo") (← takeNodeId) 0 0 .sysfsDoNodeMeminfo
  let _ ← addFile (some node0Dir) (cstr "distance") (← takeNodeId) 0 0 .sysfsDoNodeDistance
  let _ ← addFile (some node0Dir) (cstr "numastat") (← takeNodeId) 0 0 .sysfsDoNodeNumastat
  let _ ← addFile (some nodeDir) (cstr "online") (← takeNodeId) 0 0 .sysfsDoNodeList
  let _ ← addFile (some nodeDir) (cstr "possible") (← takeNodeId) 0 0 .sysfsDoNodeList
  let _ ← addFile (some nodeDir) (cstr "has_cpu") (← takeNodeId) 0 0 .sysfsDoNodeList
  let _ ← addFile (some nodeDir) (cstr "has_memory") (← takeNodeId) 0 0 .sysfsDoNodeList
  let cpuDir ← addDirectory (some systemDir) (cstr "cpu") .SFSdir (← takeNodeId) 0
  let _ ← addFile (some cpuDir) (cstr "online") (← takeNodeId) 0 0 .sysfsDoCpulist
  let _ ← addFile (some cpuDir) (cstr "possible") (← takeNodeId) 0 0 .sysfsDoCpulist
  let _ ← addFile (some cpuDir) (cstr "present") (← takeNodeId) 0 0 .sysfsDoCpulist
  let _ ← addFile (some cpuDir) (cstr "offline") (← takeNodeId) 0 0 .sysfsDoZeroCount
  let _ ← addFile (some cpuDir) (cstr "kernel_max") (← takeNodeId) 0 0 .sysfsDoCpuKernelMax
  return (rootNode, cpuDir)

def addTopologyFile (topo : ℕ) (c : ℕ) (name : CStr) (fn : ReadDataFn) : BuildM Unit := do
  let f ← addFile (some topo) name (← takeNodeId) 0 0 fn
  setInstance f c.toUInt32

@[irreducible] def addCpu (cpuDir : ℕ) (c : ℕ) : BuildM Unit := do
  let cpuN ← addDirectory (some cpuDir) (strlcpy (cstr "cpu" ++ decimal c) maxStructNodeNameLen)
    .SFSdir (← takeNodeId) 0
  setInstance cpuN c.toUInt32
  let f ← addFile (some cpuN) (cstr "online") (← takeNodeId) 0 0 .sysfsDoCpuOnline
  setInstance f c.toUInt32
  let topo ← addDirectory (some cpuN) (cstr "topology") .SFSdir (← takeNodeId) 0
  setInstance topo c.toUInt32
  addTopologyFile topo c (cstr "core_id") .sysfsDoCpuCoreId
  addTopologyFile topo c (cstr "physical_package_id") .sysfsDoCpuPackageId
  addTopologyFile topo c (cstr "thread_siblings_list") .sysfsDoCpuThreadSiblings
  addTopologyFile topo c (cstr "core_siblings_list") .sysfsDoCpuCoreSiblings

/-- The number of CPU directories: `c < ncpu && c < SYSFS_MAX_CPU_NODES`. -/
def cpuNodes (ncpu : UInt32) : ℕ := min ncpu.toNat sysfsMaxCpuNodes

/-- `sysfs_structure_init` after the CPU loop. -/
@[irreducible] def addAfterCpus (rootNode : ℕ) : BuildM Unit := do
  let _ ← addDirectory (some rootNode) (cstr "firmware") .SFSdir (← takeNodeId) 0
  let _ ← addDirectory (some rootNode) (cstr "fs") .SFSdir (← takeNodeId) 0
  let _ ← addDirectory (some rootNode) (cstr "hypervisor") .SFSdir (← takeNodeId) 0
  let kernelDir ← addDirectory (some rootNode) (cstr "kernel") .SFSdir (← takeNodeId) 0
  let moduleDir ← addDirectory (some rootNode) (cstr "module") .SFSdir (← takeNodeId) ssnFlagModules
  let _ ← addNode (some moduleDir) (cstr "__member__") .SFSmodule (← takeNodeId) ssnFlagModules
    0 none
  let _ ← addDirectory (some rootNode) (cstr "power") .SFSdir (← takeNodeId) 0
  let mmDir ← addDirectory (some kernelDir) (cstr "mm") .SFSdir (← takeNodeId) 0
  let mmHpDir ← addDirectory (some mmDir) (cstr "hugepages") .SFSdir (← takeNodeId) 0
  let mmHp2m ← addDirectory (some mmHpDir) (cstr "hugepages-2048kB") .SFSdir (← takeNodeId) 0
  let _ ← addFile (some mmHp2m) (cstr "nr_hugepages") (← takeNodeId) 0 sysfsZeroCountLen
    .sysfsDoZeroCount
  let _ ← addFile (some mmHp2m) (cstr "free_hugepages") (← takeNodeId) 0 sysfsZeroCountLen
    .sysfsDoZeroCount
  let _ ← addFile (some mmHp2m) (cstr "surplus_hugepages") (← takeNodeId) 0 sysfsZeroCountLen
    .sysfsDoZeroCount
  let _ ← addFile (some mmHp2m) (cstr "resv_hugepages") (← takeNodeId) 0 sysfsZeroCountLen
    .sysfsDoZeroCount
  let _ ← addFile (some mmHp2m) (cstr "nr_overcommit_hugepages") (← takeNodeId) 0
    sysfsZeroCountLen .sysfsDoZeroCount

/-- The branch of `sysfs_structure_init` taken when there is no tree yet. -/
def buildStructure (ncpu : UInt32) : BuildM Unit := do
  let (rootNode, cpuDir) ← addBeforeCpus
  (List.range (cpuNodes ncpu)).forM (addCpu cpuDir)
  addAfterCpus rootNode

/-- `root_node` and `next_node_id`, the globals of `sysfs_structure.c`. -/
structure StructureGlobals where
  rootNode : Option Tree
  nextNodeId : UInt16

def StructureGlobals.load : StructureGlobals := ⟨none, sysfsRootNodeBaseId + 1⟩

/-- `sysfs_structure_init`, for the count that `sysfs_cpu_count` returns. -/
def sysfsStructureInit (ncpu : UInt32) (g : StructureGlobals) : StructureGlobals :=
  match g.rootNode with
  | some _ => g
  | none =>
    let b := (buildStructure ncpu ⟨[], g.nextNodeId⟩).2
    ⟨some ⟨b.nodes⟩, b.nextNodeId⟩

/-- `sysfs_structure_free`; the counter keeps its value. -/
def sysfsStructureFree (g : StructureGlobals) : StructureGlobals :=
  match g.rootNode with
  | some _ => { g with rootNode := none }
  | none => g

/-- The tree that `sysfs_structure_init` builds when `next_node_id` is `start`. -/
def builtTree (start : UInt16) (ncpu : UInt32) : Tree := ⟨(buildStructure ncpu ⟨[], start⟩).2.nodes⟩

end SysFS
