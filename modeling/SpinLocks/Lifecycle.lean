import SpinLocks.Lock

namespace SpinLocks

inductive Level where
  | debug
  | warn
  | error
  deriving DecidableEq

structure Event where
  level : Level
  message : String
  fields : Report

/-- What came of an attempt to join, and the events that were logged on the way. -/
structure Joined (Shared Outcome : Type) where
  shared : Shared
  outcome : Outcome
  log : List Event

namespace Lifecycle

def refused (name : String) (entry : Entry) (cause : LockError) : Event :=
  ⟨.error, "local initialization failed",
    [("lock", .text name), ("core", .nat entry.core), ("err", .text cause.message)]⟩

def placed (name : String) (entry : Entry) : Report := [
  ("lock", .text name),
  ("core", .nat entry.core),
  ("cluster", .nat (entry.config.topology.clusterFor entry.core))]

def joined (name : String) (entry : Entry) : Event :=
  ⟨.debug, "initialized local state", placed name entry⟩

def joinedAll (name : String) (entry : Entry) (count : Nat) : Event :=
  ⟨.debug, "initialized local array", placed name entry ++ [("num_locks", .nat count)]⟩

def created (name : String) (config : Config) : List Event :=
  [⟨.debug, "initializing lock",
    [("lock", .text name), ("max_threads", .nat config.maxThreads)]⟩]

def left (name : String) : List Event :=
  [⟨.debug, "freed local state", [("lock", .text name)]⟩]

def freed (name : String) : List Event :=
  [⟨.debug, "freed lock", [("lock", .text name)]⟩]

def createdAll (name : String) (config : Config) (count : Nat) : List Event :=
  [⟨.debug, "initializing lock array",
    [("lock", .text name), ("num_locks", .nat count), ("max_threads", .nat config.maxThreads)]⟩]

def leftAll (name : String) (core : Nat) : List Event :=
  [⟨.debug, "freed local array", [("lock", .text name), ("core", .nat core)]⟩]

def freedAll (name : String) (count : Nat) : List Event :=
  [⟨.debug, "freed lock array", [("lock", .text name), ("num_locks", .nat count)]⟩]

/-- A thread that cannot be bound to its core runs unbound. -/
def pinned (machine : Machine) (entry : Entry) : List Event :=
  if entry.config.pinThreads then
    match Topology.pin machine entry.core with
    | .ok () => []
    | .error cause =>
      [⟨.warn, "running unpinned", [("core", .nat entry.core), ("err", .text cause.message)]⟩]
  else []

end Lifecycle

namespace Lock

variable {Shared Own Wait : Type} (lock : Lock Shared Own Wait)

def enter (entry : Entry) (shared : Shared) : Joined Shared (Except LockError Own) :=
  match lock.join entry shared with
  | (shared, .ok own) => ⟨shared, .ok own, []⟩
  | (shared, .error cause) =>
    ⟨shared, .error cause, [Lifecycle.refused lock.name entry cause]⟩

def initLocal (machine : Machine) (entry : Entry) (shared : Shared) :
    Joined Shared (Except LockError Own) :=
  let unbound := Lifecycle.pinned machine entry
  match lock.enter entry shared with
  | ⟨shared, .ok own, log⟩ =>
    ⟨shared, .ok own, unbound ++ log ++ [Lifecycle.joined lock.name entry]⟩
  | ⟨shared, .error cause, log⟩ => ⟨shared, .error cause, unbound ++ log⟩

end Lock

end SpinLocks
