import Mathlib
import SysFS.Lib.Buckets
import SysFS.Lib.Transition
import SysFS.Lookup

namespace SysFS
open Buckets Transition

structure NodeKey where
  mntId : Int32
  nodeId : Sfsid
  deriving DecidableEq

def hashForMountAndId (key : NodeKey) : Int32 :=
  ((key.mntId <<< 16).toInt64.toUInt64 ^^^ key.nodeId.nodeidRegid ^^^ key.nodeId.nodeidObjectid ^^^
    key.nodeId.nodeidBaseId.toUInt64).toUInt32.toInt32

/-- The index in `SYSFS_NODE_HASH_TO_BUCKET_HEADER`. -/
def bucketOf (mask : UInt64) (key : NodeKey) : ℕ :=
  ((hashForMountAndId key).toInt64.toUInt64 &&& mask).toNat

def Sfsnode.key (n : Sfsnode) : NodeKey := ⟨n.nodeMntId, n.nodeId⟩

/-- The fields of a `struct sfsnode` besides its linkage. -/
structure NodeBlock extends Sfsnode where
  nodeVnode : Option ℕ
  nodeAttachingVnode : Bool
  nodeThreadWaitingAttach : Bool

inductive VnodePhase where
  | live
  | terminating
  | reclaimed
  deriving DecidableEq

/-- A vnode: the node `VTOSFS` gives, and the calls that hold an iocount on it. -/
structure Vnode where
  fsnode : ℕ
  phase : VnodePhase
  iocounts : List ℕ

/-- Where a call of `sysfsnode_find` is. In `top` and `retry` it is about to take the lock,
in `creating` it is inside the callback, which may have made the vnode already. After
`returned` the caller has an iocount until it puts the vnode. -/
inductive FindPc where
  | idle
  | top
  | alloc
  | asleep (target : ℕ)
  | getvid (target vnode : ℕ)
  | retry
  | creating (target : ℕ) (vnode : Option ℕ)
  | finish (error : Int32) (target vnode : Option ℕ)
  | returned (error : Int32) (snp vnp : Option ℕ) (iocount : Bool)
  deriving DecidableEq

structure FindCall where
  args : Sfsnode
  newSfsnode : Option ℕ
  newSfsnodeInserted : Bool
  pc : FindPc

/-- A call asleep on `b` takes the lock and goes to the top of the loop. -/
def FindCall.woken (b : ℕ) (call : FindCall) : FindCall :=
  if call.pc = .asleep b then { call with pc := .top } else call

/-- What the threads share. Blocks and vnodes are numbered as they are made, and no number is used
again: no stale pointer is ever compared, so reuse of an address would not be seen. `owner`
records the call that allocated a block. -/
structure NodeTable where
  hashMask : UInt64
  buckets : List (List ℕ)
  liveNodes : ℤ
  mem : ℕ → NodeBlock
  blocks : ℕ
  owner : ℕ → ℕ
  freed : List ℕ
  vnodes : ℕ → Vnode
  vnodeCount : ℕ

structure FindState extends NodeTable where
  calls : ℕ → FindCall

def noNode : Sfsnode := ⟨0, ⟨0, 0, 0⟩, 0⟩

/-- After `hashinit`. -/
def FindState.init (mask : UInt64) : FindState where
  hashMask := mask
  buckets := List.replicate (mask.toNat + 1) []
  liveNodes := 0
  mem := fun _ => ⟨noNode, none, false, false⟩
  blocks := 0
  owner := fun _ => 0
  freed := []
  vnodes := fun _ => ⟨0, .reclaimed, []⟩
  vnodeCount := 0
  calls := fun _ => ⟨noNode, none, false, .idle⟩

namespace NodeTable
variable (s : NodeTable)

def nodes : List ℕ := entries s.buckets

def setBlock (b : ℕ) (block : NodeBlock) : NodeTable :=
  { s with mem := Function.update s.mem b block }

def setVnode (v : ℕ) (vnode : Vnode) : NodeTable :=
  { s with vnodes := Function.update s.vnodes v vnode }

/-- `OSMalloc`, for the call `c`. -/
def osMalloc (c : ℕ) : NodeTable :=
  { s with blocks := s.blocks + 1, owner := Function.update s.owner s.blocks c }

def osFree (b : ℕ) : NodeTable := { s with freed := b :: s.freed }

def sysfsnodeFreeNode (b : ℕ) : NodeTable :=
  { s.osFree b with buckets := unlink s.buckets b, liveNodes := s.liveNodes - 1 }

/-- `vnode_create`, with the iocount for the call `c`. -/
def vnodeCreate (c b : ℕ) : NodeTable :=
  { s.setVnode s.vnodeCount ⟨b, .live, [c]⟩ with vnodeCount := s.vnodeCount + 1 }

def findInHash (key : NodeKey) : Option ℕ :=
  (bucket s.buckets (bucketOf s.hashMask key)).find? fun b => (s.mem b).key = key

def insertNew (b : ℕ) (args : Sfsnode) : NodeTable :=
  { s.setBlock b ⟨args, none, false, false⟩ with
    buckets := insertHead s.buckets (bucketOf s.hashMask args.key) b
    liveNodes := s.liveNodes + 1 }

end NodeTable

namespace FindState
variable (s : FindState)

def setCall (c : ℕ) (call : FindCall) : FindState :=
  { s with calls := Function.update s.calls c call }

def setPc (c : ℕ) (pc : FindPc) : FindState := s.setCall c { s.calls c with pc := pc }

def setTable (t : NodeTable) : FindState := { s with toNodeTable := t }

def wakeup (b : ℕ) : FindState := { s with calls := fun c => (s.calls c).woken b }

/-- The rest of a round, with the node `b` in the hash. -/
def attach (c b : ℕ) : FindState :=
  let node := s.mem b
  if node.nodeAttachingVnode then
    (s.setTable (s.setBlock b { node with nodeThreadWaitingAttach := true })).setPc c (.asleep b)
  else
    match node.nodeVnode with
    | some v => s.setPc c (.getvid b v)
    | none =>
      (s.setTable (s.setBlock b { node with nodeAttachingVnode := true })).setPc c
        (.creating b none)

def promoteNew (c b : ℕ) : FindState :=
  let call := s.calls c
  (s.setTable (s.insertNew b call.args)).setCall c { call with newSfsnodeInserted := true }

/-- A round of the loop, up to where the lock is dropped. -/
def loopSection (c : ℕ) : FindState :=
  match s.findInHash (s.calls c).args.key with
  | some b => s.attach c b
  | none =>
    match (s.calls c).newSfsnode with
    | none => s.setPc c .alloc
    | some b => (s.promoteNew c b).attach c b

def dropNew (c : ℕ) : FindState :=
  let call := s.calls c
  match call.newSfsnode with
  | some b =>
    if call.newSfsnodeInserted then s
    else (s.setTable (s.osFree b)).setCall c { call with newSfsnode := none }
  | none => s

/-- Back from the callback with the lock: `node_attaching_vnode` is cleared and the waiting
threads are woken. -/
def detach (b : ℕ) : FindState :=
  let node := s.mem b
  let s' := s.setTable (s.setBlock b
    { node with nodeAttachingVnode := false, nodeThreadWaitingAttach := false })
  if node.nodeThreadWaitingAttach then s'.wakeup b else s'

def createFailed (c b : ℕ) (error : Int32) : FindState :=
  let s' := s.detach b
  let call := s'.calls c
  (s'.setTable (s'.sysfsnodeFreeNode b)).setCall c { call with
    newSfsnode := if call.newSfsnode = some b then none else call.newSfsnode
    pc := .finish error none none }

def createDone (c b v : ℕ) : FindState :=
  let s' := s.detach b
  (s'.setTable (s'.setBlock b { s'.mem b with nodeVnode := some v })).setPc c
    (.finish 0 (some b) (some v))

/-- After the loop. A leftover block is freed and the results are set. -/
def leave (c : ℕ) (error : Int32) (target vnode : Option ℕ) : FindState :=
  let s' := if (s.calls c).newSfsnode ≠ target then s.dropNew c else s
  s'.setPc c (.returned error (if error = 0 then target else none)
    (if error = 0 then vnode else none) true)

end FindState

inductive FindOp where
  | call (c : ℕ) (args : Sfsnode)
  | lock (c : ℕ)
  | malloc (c : ℕ) (allocated : Bool)
  | getwithvid (c : ℕ) (same : Bool)
  | vnodeCreate (c : ℕ)
  | createFails (c : ℕ) (error : Int32)
  | leave (c : ℕ)
  | vnodePut (c : ℕ)
  | terminate (v : ℕ)
  | reclaim (v : ℕ)

def enomem : Int32 := 12

open FindState in
/-- One step: what a thread does between taking the hash lock and dropping it, or one call made
without the lock. `vnode_getwithvid` may only succeed on a vnode that is not being reclaimed,
and only a vnode without an iocount is. -/
def findStep (s : FindState) : FindOp → Option FindState
  | .call c args =>
    match (s.calls c).pc with
    | .idle => some (s.setCall c ⟨args, none, false, .top⟩)
    | _ => none
  | .lock c =>
    match (s.calls c).pc with
    | .top => some (s.loopSection c)
    | .retry => some ((s.dropNew c).loopSection c)
    | .creating b (some v) => some (s.createDone c b v)
    | _ => none
  | .malloc c allocated =>
    match (s.calls c).pc with
    | .alloc =>
      if allocated then
        some ((s.setTable (s.osMalloc c)).setCall c
          { s.calls c with newSfsnode := some s.blocks, pc := .top })
      else some (s.setPc c (.finish enomem none none))
    | _ => none
  | .getwithvid c same =>
    match (s.calls c).pc with
    | .getvid b v =>
      if !same then some (s.setPc c .retry)
      else if (s.vnodes v).phase = .live then
        let vnode := s.vnodes v
        some ((s.setTable (s.setVnode v { vnode with iocounts := c :: vnode.iocounts })).setPc c
          (.finish 0 (some b) (some v)))
      else none
    | _ => none
  | .vnodeCreate c =>
    match (s.calls c).pc with
    | .creating b none =>
      some ((s.setTable (s.toNodeTable.vnodeCreate c b)).setPc c
        (.creating b (some s.vnodeCount)))
    | _ => none
  | .createFails c error =>
    match (s.calls c).pc with
    | .creating b none => if error = 0 then none else some (s.createFailed c b error)
    | _ => none
  | .leave c =>
    match (s.calls c).pc with
    | .finish error target vnode => some (s.leave c error target vnode)
    | _ => none
  | .vnodePut c =>
    match (s.calls c).pc with
    | .returned 0 snp (some v) true =>
      let vnode := s.vnodes v
      some ((s.setTable (s.setVnode v { vnode with iocounts := vnode.iocounts.erase c })).setPc c
        (.returned 0 snp (some v) false))
    | _ => none
  | .terminate v =>
    let vnode := s.vnodes v
    if v < s.vnodeCount ∧ vnode.phase = .live ∧ vnode.iocounts = [] then
      some (s.setTable (s.setVnode v { vnode with phase := .terminating }))
    else none
  | .reclaim v =>
    let vnode := s.vnodes v
    if v < s.vnodeCount ∧ vnode.phase = .terminating then
      some (s.setTable
        ((s.sysfsnodeFreeNode vnode.fsnode).setVnode v { vnode with phase := .reclaimed }))
    else none

end SysFS
