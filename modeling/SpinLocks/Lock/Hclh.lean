import SpinLocks.Lock
import SpinLocks.Arena
import SpinLocks.Lock.Hclh.NodeState

namespace SpinLocks

namespace Hclh

structure Shared where
  global : Link
  queues : List Link
  nodes : Arena NodeState
  deriving DecidableEq

structure Own where
  node : Link
  pred : Link
  cluster : UInt8
  deriving DecidableEq

/-- Until the local predecessor lets its successor go or turns out to make this thread the master,
or until the global predecessor lets its successor go. The private state learns its predecessor
only when the wait is over. -/
inductive Wait where
  | localPred (pred : Link)
  | globalPred (pred : Link)
  deriving DecidableEq

def sentinel : Nat := 0

/-- A new node belongs to a cluster that no thread is in. -/
def create (config : Config) : Shared :=
  let clusters := config.topology.numClusters
  let foreign := if clusters + 1 < 256 then UInt8.ofNat (clusters + 1) else 255
  let nodes := Arena.replicate (config.maxThreads + 1) (NodeState.ofParts foreign false false)
  { global := some sentinel
    queues := List.replicate clusters none
    nodes := nodes.setClaimed sentinel true }

namespace Shared

def capacity (shared : Shared) : Nat :=
  shared.nodes.size - 1

def isFree (shared : Shared) : Bool :=
  match shared.nodes.load shared.global.index with
  | .ok state => !state.mustWait
  | .error _ => false

end Shared

def join (entry : Entry) (shared : Shared) : Shared × Except LockError Own :=
  let cluster := entry.config.topology.clusterFor entry.core % shared.queues.length
  if 256 ≤ cluster then (shared, .error (.invalidConfig "too many clusters"))
  else
    let cluster := UInt8.ofNat cluster
    match shared.nodes.claim? with
    | none => (shared, lackOfCapacity "hclh" shared.capacity)
    | some (node, nodes) =>
      ({ shared with nodes := nodes.modify node fun _ => .fresh cluster },
        .ok ⟨some node, none, cluster⟩)

def leave (shared : Shared) (own : Own) : Shared × Option Fault :=
  match shared.nodes.unclaim own.node.index with
  | .ok nodes => ({ shared with nodes }, none)
  | .error cause => (shared, some cause)

def awaitGlobal (pred : Link) (shared : Shared) (own : Own) : LockTurn Shared Own Wait :=
  match shared.nodes.load pred.index with
  | .error cause => .fault shared own cause
  | .ok state =>
    if state.mustWait then ⟨shared, own, .waiting (.globalPred pred)⟩
    else ⟨shared, { own with pred }, .done .done⟩

/-- Makes the last node of the local queue the global tail, and marks it as such. -/
def splice (shared : Shared) (own : Own) : LockTurn Shared Own Wait :=
  match shared.queues[own.cluster.toNat]? with
  | none => .fault shared own (.outOfBounds shared.queues.length own.cluster.toNat)
  | some last =>
    let spliced := { shared with global := last }
    match spliced.nodes.update last.index .markSpliced with
    | .error cause => .fault spliced own cause
    | .ok nodes => awaitGlobal shared.global { spliced with nodes } own

def awaitLocal (pred : Link) (shared : Shared) (own : Own) : LockTurn Shared Own Wait :=
  match shared.nodes.load pred.index with
  | .error cause => .fault shared own cause
  | .ok state =>
    if state.spliced || state.cluster != own.cluster then splice shared own
    else if state.mustWait then ⟨shared, own, .waiting (.localPred pred)⟩
    else ⟨shared, { own with pred }, .done .done⟩

def acquire (shared : Shared) (own : Own) : LockTurn Shared Own Wait :=
  match shared.queues[own.cluster.toNat]? with
  | none => .fault shared own (.outOfBounds shared.queues.length own.cluster.toNat)
  | some last =>
    let queued := { shared with queues := shared.queues.set own.cluster.toNat own.node }
    match last with
    | none => splice queued own
    | some pred => awaitLocal (some pred) queued own

/-- The predecessor's node is made fresh before it becomes the thread's own. -/
def release (shared : Shared) (own : Own) : LockTurn Shared Own Wait :=
  match shared.nodes.update own.node.index .granted with
  | .error cause => .fault shared own cause
  | .ok nodes =>
    match nodes.store own.pred.index (.fresh own.cluster) with
    | .error cause => .fault { shared with nodes } own cause
    | .ok nodes => ⟨{ shared with nodes }, { own with node := own.pred }, .done .done⟩

def start (command : Command) (shared : Shared) (own : Own) : LockTurn Shared Own Wait :=
  command.exclusive shared own acquire release (unsupportedAttempt "hclh")

def resume : Wait → Shared → Own → LockTurn Shared Own Wait
  | .localPred pred => awaitLocal pred
  | .globalPred pred => awaitGlobal pred

def Own.text (own : Own) : String :=
  Text.record "HclhLocal" [
    ("node", toString own.node.index),
    ("pred", toString own.pred.index),
    ("cluster", toString own.cluster)]

end Hclh

/-- The hierarchical CLH queue lock. Threads of a cluster queue up locally. A thread whose local
predecessor is of its own cluster, and not the last of a spliced part, waits for that predecessor
alone. Any other is the master of its cluster: it splices the local queue into the global queue, by
making the last local node the global tail, and waits for the node that was the global tail before.
As in the CLH queue, a thread leaves its node behind and takes its predecessor's. -/
def hclh : Lock Hclh.Shared Hclh.Own Hclh.Wait where
  name := "hclh"
  size := 2 * Memory.line
  create := Hclh.create
  join := Hclh.join
  leave := Hclh.leave
  start := Hclh.start
  resume := Hclh.resume
  isFree := Hclh.Shared.isFree
  ownText := Hclh.Own.text
  stats own := [("cluster", .nat own.cluster.toNat)]
  info _ := [("name", .text "hclh")]

end SpinLocks
