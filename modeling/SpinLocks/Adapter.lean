import SpinLocks.Lock.TestAndSet
import SpinLocks.Lock.Ticket
import SpinLocks.Lock.ReadWrite

namespace SpinLocks

/-- A lock that can be made without a configuration, the private state of a call, the names of the
calls, and how it shows whether the lock is held. -/
structure Adapter where
  Shared : Type
  Local : Type
  Point : Type
  lock : Lock Shared Local Point
  free : Shared
  fresh : Local
  command? : String → Option Command
  locked : Shared → Field

namespace Adapter

structure Wait (Local Point : Type) where
  own : Local
  point : Point
  deriving DecidableEq

/-- Carries a turn of a call over to a thread without a state. -/
def carry {Shared Local Point : Type} (turn : LockTurn Shared Local Point) :
    LockTurn Shared Unit (Wait Local Point) where
  shared := turn.shared
  own := ()
  ending :=
    match turn.ending with
    | .done reply => .done reply
    | .waiting point => .waiting ⟨turn.own, point⟩
    | .failed why => .failed why

/-- Every thread may call a lock; none joins it or leaves it. -/
def protocol (adapter : Adapter) :
    Protocol adapter.Shared Unit (Wait adapter.Local adapter.Point) Unit Command Reply where
  join _ shared := (shared, .ok ())
  leave shared _ := (shared, none)
  start command shared _ := carry (adapter.lock.start command shared adapter.fresh)
  resume wait shared _ := carry (adapter.lock.resume wait.point shared wait.own)

def exclusiveCommand? : String → Option Command
  | "lock" => some .acquire
  | "try_lock" => some .tryAcquire
  | "unlock" => some .release
  | _ => none

def sharedCommand? : String → Option Command
  | "lock_shared" => some .acquireRead
  | "try_lock_shared" => some .tryAcquireRead
  | "unlock_shared" => some .releaseRead
  | "lock_exclusive" => some .acquireWrite
  | "try_lock_exclusive" => some .tryAcquire
  | "unlock_exclusive" => some .releaseWrite
  | _ => none

def exclusive {Shared Local Point : Type} (lock : Lock Shared Local Point) (free : Shared)
    (fresh : Local) : Adapter where
  Shared
  Local
  Point
  lock
  free
  fresh
  command? := exclusiveCommand?
  locked shared := .flag (!lock.isFree shared)

def readWrite : Adapter where
  Shared := ReadWrite.Word
  Local := Backoff
  Point := ReadWrite.Wait
  lock := SpinLocks.readWrite
  free := ReadWrite.Word.free
  fresh := Backoff.initial
  command? := sharedCommand?
  locked word := .list [.flag (!word.isFree), .flag word.isWriteLocked]

def ofName? : String → Option Adapter
  | "tas" => some (exclusive tas false ())
  | "ttas" => some (exclusive ttas false Backoff.initial)
  | "ticket" => some (exclusive ticket Ticket.Word.free Ticket.Own.initial)
  | "rw_ttas" => some readWrite
  | _ => none

end Adapter

end SpinLocks
