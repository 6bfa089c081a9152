import SpinLocks.Lock
import SpinLocks.Arena

namespace SpinLocks

namespace Mcs

structure Node where
  next : Link
  waiting : Bool
  deriving DecidableEq

structure Shared where
  tail : Link
  nodes : Arena Node
  deriving DecidableEq

structure Own where
  node : Nat
  deriving DecidableEq

inductive Wait where
  | grant
  | successor
  deriving DecidableEq

def create (config : Config) : Shared where
  tail := none
  nodes := Arena.replicate config.maxThreads ⟨none, false⟩

def Shared.isFree (shared : Shared) : Bool :=
  shared.tail.isNone

def join (_ : Entry) (shared : Shared) : Shared × Except LockError Own :=
  match shared.nodes.claim? with
  | some (node, nodes) => ({ shared with nodes }, .ok ⟨node⟩)
  | none => (shared, lackOfCapacity "mcs" shared.nodes.size)

def leave (shared : Shared) (own : Own) : Shared × Option Fault :=
  match shared.nodes.unclaim own.node with
  | .ok nodes => ({ shared with nodes }, none)
  | .error cause => (shared, some cause)

def Node.queued : Node := ⟨none, true⟩

def awaitGrant (shared : Shared) (own : Own) : LockTurn Shared Own Wait :=
  match shared.nodes.load own.node with
  | .ok node =>
    if node.waiting then ⟨shared, own, .waiting .grant⟩ else ⟨shared, own, .done .done⟩
  | .error cause => .fault shared own cause

def acquire (shared : Shared) (own : Own) : LockTurn Shared Own Wait :=
  match shared.nodes.store own.node .queued with
  | .error cause => .fault shared own cause
  | .ok nodes =>
    let queued : Shared := { nodes, tail := some own.node }
    match shared.tail with
    | none => ⟨queued, own, .done .done⟩
    | some pred =>
      match nodes.update pred ({ · with next := some own.node }) with
      | .ok nodes => awaitGrant { queued with nodes } own
      | .error cause => .fault queued own cause

def grant (next : Nat) (shared : Shared) (own : Own) : LockTurn Shared Own Wait :=
  match shared.nodes.update next ({ · with waiting := false }) with
  | .ok nodes => ⟨{ shared with nodes }, own, .done .done⟩
  | .error cause => .fault shared own cause

def awaitSuccessor (shared : Shared) (own : Own) : LockTurn Shared Own Wait :=
  match shared.nodes.load own.node with
  | .ok ⟨some next, _⟩ => grant next shared own
  | .ok ⟨none, _⟩ => ⟨shared, own, .waiting .successor⟩
  | .error cause => .fault shared own cause

def release (shared : Shared) (own : Own) : LockTurn Shared Own Wait :=
  match shared.nodes.load own.node with
  | .ok ⟨none, _⟩ =>
    if shared.tail = some own.node then ⟨{ shared with tail := none }, own, .done .done⟩
    else awaitSuccessor shared own
  | _ => awaitSuccessor shared own

/-- The own node is made ready for the queue whether the attempt succeeds or not. -/
def tryAcquire (shared : Shared) (own : Own) : LockTurn Shared Own Wait :=
  match shared.nodes.store own.node .queued with
  | .ok nodes =>
    if shared.tail.isNone then ⟨{ nodes, tail := some own.node }, own, .done (.took true)⟩
    else ⟨{ shared with nodes }, own, .done (.took false)⟩
  | .error cause => .fault shared own cause

def start (command : Command) (shared : Shared) (own : Own) : LockTurn Shared Own Wait :=
  command.exclusive shared own acquire release tryAcquire

def resume : Wait → Shared → Own → LockTurn Shared Own Wait
  | .grant => awaitGrant
  | .successor => awaitSuccessor

def Own.text (own : Own) : String :=
  Text.record "McsLocal" [("node", toString own.node)]

end Mcs

/-- The MCS queue lock. A thread puts its node at the tail of a queue, links the node before it to
its own, and waits at its own node until the thread before it passes the lock on. A release by the
last thread empties the queue; any other waits for the link to its successor before it passes the
lock. -/
def mcs : Lock Mcs.Shared Mcs.Own Mcs.Wait where
  name := "mcs"
  size := 2 * Memory.line
  create := Mcs.create
  join := Mcs.join
  leave := Mcs.leave
  start := Mcs.start
  resume := Mcs.resume
  isFree := Mcs.Shared.isFree
  ownText := Mcs.Own.text
  stats _ := []
  info _ := [("name", .text "mcs")]

end SpinLocks
