import SpinLocks.Lock
import SpinLocks.Arena

namespace SpinLocks

namespace Clh

structure Shared where
  tail : Link
  /-- A node is busy until the thread that queued it releases the lock. -/
  nodes : Arena Bool
  deriving DecidableEq

structure Own where
  node : Link
  pred : Link
  deriving DecidableEq

inductive Wait where
  | pred
  deriving DecidableEq

/-- The node that is parked at the tail of a new lock. -/
def sentinel : Nat := 0

def create (config : Config) : Shared where
  tail := some sentinel
  nodes := (Arena.replicate (config.maxThreads + 1) false).setClaimed sentinel true

namespace Shared

def capacity (shared : Shared) : Nat :=
  shared.nodes.size - 1

def isFree (shared : Shared) : Bool :=
  match shared.nodes.load shared.tail.index with
  | .ok busy => !busy
  | .error _ => false

end Shared

def join (_ : Entry) (shared : Shared) : Shared × Except LockError Own :=
  match shared.nodes.claim? with
  | some (node, nodes) => ({ shared with nodes }, .ok ⟨some node, none⟩)
  | none => (shared, lackOfCapacity "clh" shared.capacity)

def leave (shared : Shared) (own : Own) : Shared × Option Fault :=
  match shared.nodes.unclaim own.node.index with
  | .ok nodes => ({ shared with nodes }, none)
  | .error cause => (shared, some cause)

def await (shared : Shared) (own : Own) : LockTurn Shared Own Wait :=
  match shared.nodes.load own.pred.index with
  | .ok true => ⟨shared, own, .waiting .pred⟩
  | .ok false => ⟨shared, own, .done .done⟩
  | .error cause => .fault shared own cause

def acquire (shared : Shared) (own : Own) : LockTurn Shared Own Wait :=
  match shared.nodes.store own.node.index true with
  | .ok nodes => await { nodes, tail := own.node } { own with pred := shared.tail }
  | .error cause => .fault shared own cause

def release (shared : Shared) (own : Own) : LockTurn Shared Own Wait :=
  match shared.nodes.store own.node.index false with
  | .ok nodes => ⟨{ shared with nodes }, { own with node := own.pred }, .done .done⟩
  | .error cause => .fault shared own cause

def start (command : Command) (shared : Shared) (own : Own) : LockTurn Shared Own Wait :=
  command.exclusive shared own acquire release (unsupportedAttempt "clh")

def resume : Wait → Shared → Own → LockTurn Shared Own Wait
  | .pred => await

def Own.text (own : Own) : String :=
  Text.record "ClhLocal" [
    ("node", toString own.node.index),
    ("pred", toString own.pred.index)]

end Clh

/-- The CLH queue lock. The queue is a chain of nodes: a thread marks its node as busy, puts it at
the tail, and waits until the node that was there before is no longer busy. On release the thread
gives its own node up and takes that earlier node for the next time. One node more than there are
threads is parked at the tail while nobody holds the lock or waits for it. -/
def clh : Lock Clh.Shared Clh.Own Clh.Wait where
  name := "clh"
  size := 2 * Memory.line
  create := Clh.create
  join := Clh.join
  leave := Clh.leave
  start := Clh.start
  resume := Clh.resume
  isFree := Clh.Shared.isFree
  ownText := Clh.Own.text
  stats _ := []
  info _ := [("name", .text "clh")]

end SpinLocks
