import SpinLocks.Lock
import SpinLocks.Text.Quoted

namespace SpinLocks.Guarded

structure Shared (LockShared Data : Type) where
  lock : LockShared
  data : Data

structure Own (Local : Type) where
  state : Local
  guard : Bool
  deriving DecidableEq

/-- Code that runs inside a critical section. What it wrote before a fault stays written. -/
abbrev Section (Data Result : Type) := Data → Data × Except Fault Result

inductive Command (Data Result : Type) where
  | lock
  | tryLock
  | lockThen (body : Section Data Result)
  | tryLockThen (body : Section Data Result) (busy : Except Fault Result)
  | readThen (body : Data → Except Fault Result)
  | access (body : Section Data Result)
  | unlock

inductive Reply (Result : Type) where
  | done
  | took (acquired : Bool)
  | result (value : Result)

/-- What a thread takes the lock for. -/
inductive Goal (Data Result : Type) where
  | guard (reply : Reply Result)
  | exclusive (body : Section Data Result)
  | shared (body : Data → Except Fault Result)

inductive Wait (Point Data Result : Type) where
  | acquiring (point : Point) (goal : Goal Data Result)
  | releasing (point : Point) (outcome : Except Fault (Reply Result))

variable {LockShared Local Point Data Result : Type} (lock : Lock LockShared Local Point)

abbrev GuardedTurn (LockShared Local Point Data Result : Type) :=
  Turn (Shared LockShared Data) (Own Local) (Wait Point Data Result) (Reply Result)

def finish (shared : Shared LockShared Data) (own : Own Local) :
    Except Fault (Reply Result) → GuardedTurn LockShared Local Point Data Result
  | .ok reply => ⟨shared, own, .done reply⟩
  | .error cause => .fault shared own cause

/-- Goes on from a turn of the lock that releases it, with the data as they are. -/
def released (data : Data) (outcome : Except Fault (Reply Result))
    (turn : LockTurn LockShared Local Point) : GuardedTurn LockShared Local Point Data Result :=
  let shared := ⟨turn.shared, data⟩
  let own := ⟨turn.own, false⟩
  match turn.ending with
  | .done _ => finish shared own outcome
  | .waiting point => ⟨shared, own, .waiting (.releasing point outcome)⟩
  | .failed why => ⟨shared, own, .failed why⟩

def acquired (goal : Goal Data Result) (shared : LockShared) (own : Local) (data : Data) :
    GuardedTurn LockShared Local Point Data Result :=
  match goal with
  | .guard reply => ⟨⟨shared, data⟩, ⟨own, true⟩, .done reply⟩
  | .exclusive body =>
    let (data, outcome) := body data
    released data (outcome.map .result) (lock.start .release shared own)
  | .shared body =>
    match body data with
    | .ok value => released data (.ok (.result value)) (lock.start .releaseRead shared own)
    | .error cause => .fault ⟨shared, data⟩ ⟨own, false⟩ cause

/-- Goes on from a turn of the lock that takes it. -/
def acquiring (goal : Goal Data Result) (busy : Except Fault (Reply Result)) (data : Data)
    (turn : LockTurn LockShared Local Point) : GuardedTurn LockShared Local Point Data Result :=
  match turn.ending with
  | .done (.took false) => finish ⟨turn.shared, data⟩ ⟨turn.own, false⟩ busy
  | .done _ => acquired lock goal turn.shared turn.own data
  | .waiting point => ⟨⟨turn.shared, data⟩, ⟨turn.own, false⟩, .waiting (.acquiring point goal)⟩
  | .failed why => ⟨⟨turn.shared, data⟩, ⟨turn.own, false⟩, .failed why⟩

def startFree (command : Command Data Result) (shared : Shared LockShared Data) (own : Own Local) :
    GuardedTurn LockShared Local Point Data Result :=
  let take := fun request goal busy =>
    acquiring lock goal busy shared.data (lock.start request shared.lock own.state)
  match command with
  | .lock => take .acquire (.guard .done) (.ok (.took false))
  | .tryLock => take .tryAcquire (.guard (.took true)) (.ok (.took false))
  | .lockThen body => take .acquire (.exclusive body) (.ok (.took false))
  | .tryLockThen body busy => take .tryAcquire (.exclusive body) (busy.map .result)
  | .readThen body => take .acquireRead (.shared body) (.ok (.took false))
  | .access _ | .unlock => .refuse shared own .noSuchOperation

def startGuarding (command : Command Data Result) (shared : Shared LockShared Data)
    (own : Own Local) : GuardedTurn LockShared Local Point Data Result :=
  match command with
  | .access body =>
    let (data, outcome) := body shared.data
    finish { shared with data } own (outcome.map .result)
  | .unlock => released shared.data (.ok .done) (lock.start .release shared.lock own.state)
  | _ => .refuse shared own .holdsGuard

def start (command : Command Data Result) (shared : Shared LockShared Data) (own : Own Local) :
    GuardedTurn LockShared Local Point Data Result :=
  if own.guard then startGuarding lock command shared own else startFree lock command shared own

def resume (wait : Wait Point Data Result) (shared : Shared LockShared Data) (own : Own Local) :
    GuardedTurn LockShared Local Point Data Result :=
  match wait with
  | .acquiring point goal =>
    acquiring lock goal (.ok (.took false)) shared.data (lock.resume point shared.lock own.state)
  | .releasing point outcome =>
    released shared.data outcome (lock.resume point shared.lock own.state)

def join (entry : Entry) (shared : Shared LockShared Data) :
    Shared LockShared Data × Except Failure (Own Local) :=
  let (state, outcome) := lock.join entry shared.lock
  ({ shared with lock := state }, (outcome.map fun own => ⟨own, false⟩).mapError .error)

def leave (shared : Shared LockShared Data) (own : Own Local) :
    Shared LockShared Data × Option Fault :=
  let (state, cause) := lock.leave shared.lock own.state
  ({ shared with lock := state }, cause)

def protocol :
    Protocol (Shared LockShared Data) (Own Local) (Wait Point Data Result) Entry
      (Command Data Result) (Reply Result) where
  join := join lock
  leave := leave lock
  start := start lock
  resume := resume lock

def isLocked (shared : Shared LockShared Data) : Bool :=
  !lock.isFree shared.lock

/-- How guarded data show in logs: without the data, which only the holder of the lock may read. -/
def fields (shared : Shared LockShared Data) : List (String × String) := [
  ("lock", Text.quoted lock.name),
  ("locked", toString (isLocked lock shared))]

def text (shared : Shared LockShared Data) : String :=
  Text.openRecord "Mutex" (fields lock shared)

def textLines (shared : Shared LockShared Data) : String :=
  Text.openRecordLines "Mutex" (fields lock shared)

end SpinLocks.Guarded
