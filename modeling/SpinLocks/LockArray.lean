import SpinLocks.Lifecycle

namespace SpinLocks

namespace Lock

variable {Shared Own Wait : Type} (lock : Lock Shared Own Wait)

def createAll (config : Config) (count : Nat) : Except Fault (List Shared) := do
  Memory.reserve count lock.size
  return List.replicate count (lock.create config)

/-- Joins the locks one after the other. Where one refuses, the thread leaves those it had joined
before. -/
def enterAll (entry : Entry) : List Shared → Joined (List Shared) (Except LockError (List Own))
  | [] => ⟨[], .ok [], []⟩
  | shared :: rest =>
    match lock.enter entry shared with
    | ⟨shared, .error cause, log⟩ => ⟨shared :: rest, .error cause, log⟩
    | ⟨shared, .ok own, log⟩ =>
      match enterAll entry rest with
      | ⟨rest, .ok owns, later⟩ => ⟨shared :: rest, .ok (own :: owns), log ++ later⟩
      | ⟨rest, .error cause, later⟩ =>
        ⟨(lock.leave shared own).1 :: rest, .error cause, log ++ later⟩

def initAll (machine : Machine) (entry : Entry) (locks : List Shared) :
    Joined (List Shared) (Except LockError (List Own)) :=
  let unbound := Lifecycle.pinned machine entry
  match lock.enterAll entry locks with
  | ⟨after, .ok owns, log⟩ =>
    ⟨after, .ok owns, unbound ++ log ++ [Lifecycle.joinedAll lock.name entry locks.length]⟩
  | ⟨after, .error cause, log⟩ => ⟨after, .error cause, unbound ++ log⟩

def leaveAll : List Shared → List Own → List Shared × Option Fault
  | shared :: rest, own :: owns =>
    match lock.leave shared own with
    | (shared, some cause) => (shared :: rest, some cause)
    | (shared, none) =>
      let (rest, cause) := leaveAll rest owns
      (shared :: rest, cause)
  | shared, _ => (shared, none)

end Lock

namespace LockArray

inductive Own (Local : Type) where
  | single (index : Nat) (own : Local)
  | each (core : Nat) (owns : List Local)
  deriving DecidableEq

structure Entry extends SpinLocks.Entry where
  only : Option Nat

/-- A command for one lock of the array; it may be one that no lock knows. -/
structure Request where
  index : Nat
  command : Option Command

structure Wait (Point : Type) where
  index : Nat
  point : Point
  deriving DecidableEq

variable {Shared Local Point : Type} (lock : Lock Shared Local Point)

/-- The lock is looked up before the thread is bound to its core. -/
def join (machine : Machine) (entry : Entry) (locks : List Shared) :
    Joined (List Shared) (Except Failure (Own Local)) :=
  match entry.only with
  | none =>
    let ⟨locks, owns, log⟩ := lock.initAll machine entry.toEntry locks
    ⟨locks, (owns.map (.each entry.core)).mapError .error, log⟩
  | some index =>
    match locks[index]? with
    | none => ⟨locks, .error (.fault (.outOfBounds locks.length index)), []⟩
    | some shared =>
      let ⟨shared, own, log⟩ := lock.initLocal machine entry.toEntry shared
      ⟨locks.set index shared, (own.map (.single index)).mapError .error, log⟩

def leave (locks : List Shared) : Own Local → List Shared × Option Fault
  | .single index own =>
    match locks[index]? with
    | none => (locks, some (.outOfBounds locks.length index))
    | some shared =>
      let (shared, cause) := lock.leave shared own
      (locks.set index shared, cause)
  | .each _ owns => lock.leaveAll locks owns

def Own.target (index : Nat) : Own Local → Nat
  | .single only _ => only
  | .each .. => index

def Own.get? (index : Nat) : Own Local → Option Local
  | .single _ own => some own
  | .each _ owns => owns[index]?

def Own.length : Own Local → Nat
  | .single .. => 1
  | .each _ owns => owns.length

def Own.set (index : Nat) (own : Local) : Own Local → Own Local
  | .single only _ => .single only own
  | .each core owns => .each core (owns.set index own)

def onLock (index : Nat) (locks : List Shared) (owns : Own Local)
    (turn : Shared → Local → LockTurn Shared Local Point) :
    LockTurn (List Shared) (Own Local) (Wait Point) :=
  match locks[index]? with
  | none => .fault locks owns (.outOfBounds locks.length index)
  | some shared =>
    match owns.get? index with
    | none => .fault locks owns (.outOfBounds owns.length index)
    | some own =>
      let turn := turn shared own
      { shared := locks.set index turn.shared
        own := owns.set index turn.own
        ending :=
          match turn.ending with
          | .done reply => .done reply
          | .waiting point => .waiting ⟨index, point⟩
          | .failed why => .failed why }

/-- The lock is looked up before the command is. -/
def start (request : Request) (locks : List Shared) (owns : Own Local) :
    LockTurn (List Shared) (Own Local) (Wait Point) :=
  onLock (owns.target request.index) locks owns fun shared own =>
    match request.command with
    | some command => lock.start command shared own
    | none => .refuse shared own .noSuchOperation

def resume (wait : Wait Point) (locks : List Shared) (owns : Own Local) :
    LockTurn (List Shared) (Own Local) (Wait Point) :=
  onLock wait.index locks owns (lock.resume wait.point)

end LockArray

end SpinLocks
