import SpinLocks.Text.Layout
import SpinLocks.Text.Quoted

namespace SpinLocks

inductive LockError where
  | unsupported (lock operation : String)
  | capacity (lock : String) (capacity : Nat)
  | pinning (core : Nat)
  | invalidConfig (reason : String)
  deriving DecidableEq

namespace LockError

def message : LockError → String
  | .unsupported lock operation => s!"{lock} lock does not support {operation}"
  | .capacity lock size => s!"{lock} lock supports at most {size} participants"
  | .pinning core => s!"failed to pin thread to core {core}"
  | .invalidConfig reason => s!"invalid configuration: {reason}"

def text : LockError → String
  | .unsupported lock operation =>
    Text.record "Unsupported" [("lock", Text.quoted lock), ("operation", Text.quoted operation)]
  | .capacity lock size =>
    Text.record "Capacity" [("lock", Text.quoted lock), ("capacity", toString size)]
  | .pinning core => Text.record "Pinning" [("core", toString core)]
  | .invalidConfig reason => Text.tuple "InvalidConfig" (Text.quoted reason)

end LockError

inductive Fault where
  | addOverflow
  | subOverflow
  | mulOverflow
  | capacityOverflow
  | outOfBounds (len index : Nat)
  /-- Raised by the code that runs inside a critical section, not by the lock. -/
  | raised (message : String)
  deriving DecidableEq

namespace Fault

def message : Fault → String
  | addOverflow => "attempt to add with overflow"
  | subOverflow => "attempt to subtract with overflow"
  | mulOverflow => "attempt to multiply with overflow"
  | capacityOverflow => "capacity overflow"
  | outOfBounds len index => s!"index out of bounds: the len is {len} but the index is {index}"
  | raised message => message

end Fault

inductive Refusal where
  | noSuchThread
  | notWaiting
  | waiting
  | hasLocalState
  | noLocalState
  | holdsGuard
  | holdsLock
  | holdsNoLock
  | wouldBlock
  | noSuchOperation
  deriving DecidableEq

namespace Refusal

def message : Refusal → String
  | noSuchThread => "no such thread"
  | notWaiting => "thread is not waiting"
  | waiting => "thread is waiting"
  | hasLocalState => "thread has local state"
  | noLocalState => "thread has no local state"
  | holdsGuard => "thread holds a guard"
  | holdsLock => "thread holds the lock"
  | holdsNoLock => "thread does not hold the lock"
  | wouldBlock => "would block"
  | noSuchOperation => "no such operation"

end Refusal

inductive Failure where
  | error (cause : LockError)
  | fault (cause : Fault)
  | refusal (cause : Refusal)
  deriving DecidableEq

namespace Failure

def message : Failure → String
  | error cause => cause.message
  | fault cause => cause.message
  | refusal cause => cause.message

end Failure

end SpinLocks
