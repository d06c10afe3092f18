import SysFS.Lib.Buckets
import SysFS.Lib.CString
import SysFS.Lib.Ledger
import SysFS.Lib.Listing
import SysFS.Lib.Memory
import SysFS.Lib.Packed
import SysFS.Lib.SetText
import SysFS.Lib.StateProg
import SysFS.Lib.Transition
import SysFS.Lib.Worklist
import SysFS.Structure
import SysFS.StructureShape
import SysFS.StructureFacts
import SysFS.NodeIds
import SysFS.Snapshot
import SysFS.Lookup
import SysFS.StructureLookup
import SysFS.Mount
import SysFS.NodeFind
import SysFS.NodeFindInv
import SysFS.NodeFindQuiet
import SysFS.NodeFindSteps
import SysFS.NodeFindRuns
import SysFS.Readdir
import SysFS.ReaddirPages
import SysFS.SnapWalk
import SysFS.SnapChildren
import SysFS.SnapNames
import SysFS.RefreshDrain
import SysFS.RefreshForward
import SysFS.RefreshFresh
import SysFS.Reach
import SysFS.Descent
import SysFS.Targets
import SysFS.EntryLookup
import SysFS.SnapTree
import SysFS.SnapSegments
import SysFS.LinkTargets
import SysFS.DevicesListing
import SysFS.MountNames
import SysFS.MountIds
import SysFS.NodeFindBlocks
import SysFS.NodeFindReturns
import SysFS.NodeFindAsked
import SysFS.Walk
import SysFS.RefreshThrottle
import SysFS.RefreshMemory
import SysFS.Kext
import SysFS.SnapReaders
import SysFS.RefreshEstimate
import SysFS.SnapMemory
import SysFS.FileIds
import SysFS.ClassMembers
import SysFS.DeviceNames
import SysFS.Read
import SysFS.Mirror
import SysFS.Traversal
import SysFS.ModuleFiles
import SysFS.DirentBytes
import SysFS.ReleaseNode
import SysFS.System
import SysFS.Getattr
import SysFS.OpenFiles
import SysFS.CpuSets
import SysFS.CpuPaths
import SysFS.SnapTable
import SysFS.BootMount
