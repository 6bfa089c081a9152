import SpinLocks.Config
import SpinLocks.Turn
import SpinLocks.Text.Report

namespace SpinLocks

inductive Command where
  | acquire
  | release
  | tryAcquire
  | acquireRead
  | releaseRead
  | tryAcquireRead
  | acquireWrite
  | releaseWrite
  deriving DecidableEq

inductive Reply where
  | done
  | took (acquired : Bool)
  deriving DecidableEq

/-- A thread joins a lock with a configuration and with the core that it runs on. -/
structure Entry where
  config : Config
  core : Nat
  deriving DecidableEq

abbrev LockTurn (Shared Own Wait : Type) := Turn Shared Own Wait Reply

/-- A lock algorithm, by the types of the shared state, of a thread's private state and of the
points at which a thread waits. -/
structure Lock (Shared Own Wait : Type) where
  name : String
  /-- The bytes of one lock in an array. A lock that keeps tables has a second line to find them. -/
  size : Nat := Memory.line
  create : Config → Shared
  join : Entry → Shared → Shared × Except LockError Own
  leave : Shared → Own → Shared × Option Fault
  start : Command → Shared → Own → LockTurn Shared Own Wait
  resume : Wait → Shared → Own → LockTurn Shared Own Wait
  isFree : Shared → Bool
  ownText : Own → String
  stats : Own → Report
  info : Shared → Report
  word : Option (Shared → Field) := none
  preset : List Nat → Shared → Shared := fun _ shared => shared

namespace Lock

variable {Shared Own Wait : Type}

def protocol (lock : Lock Shared Own Wait) : Protocol Shared Own Wait Entry Command Reply where
  join entry shared :=
    let (shared, own) := lock.join entry shared
    (shared, own.mapError .error)
  leave := lock.leave
  start := lock.start
  resume := lock.resume

end Lock

/-- The turn for a command, given the turns of a lock that knows exclusive access only. -/
def Command.exclusive {Shared Own Wait : Type} (command : Command) (shared : Shared) (own : Own)
    (acquire release tryAcquire : Shared → Own → LockTurn Shared Own Wait) :
    LockTurn Shared Own Wait :=
  match command with
  | .acquire | .acquireRead | .acquireWrite => acquire shared own
  | .release | .releaseRead | .releaseWrite => release shared own
  | .tryAcquire => tryAcquire shared own
  | .tryAcquireRead => .refuse shared own .noSuchOperation

def unsupportedAttempt {Shared Own Wait : Type} (name : String) (shared : Shared) (own : Own) :
    LockTurn Shared Own Wait :=
  ⟨shared, own, .failed (.error (.unsupported name "try_acquire"))⟩

def lackOfCapacity {Own : Type} (name : String) (capacity : Nat) : Except LockError Own :=
  .error (.capacity name capacity)

end SpinLocks
