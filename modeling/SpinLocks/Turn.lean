import SpinLocks.Failure

namespace SpinLocks

inductive Ending (Wait Reply : Type) where
  | done (reply : Reply)
  | waiting (point : Wait)
  /-- What the turn stored before it failed stays stored. -/
  | failed (why : Failure)
  deriving DecidableEq

/-- A thread runs alone until its command is done or it has to wait; that stretch is a turn. -/
structure Turn (Shared Own Wait Reply : Type) where
  shared : Shared
  own : Own
  ending : Ending Wait Reply
  deriving DecidableEq

namespace Turn

variable {Shared Own Wait Reply : Type}

def fault (shared : Shared) (own : Own) (cause : Fault) : Turn Shared Own Wait Reply :=
  ⟨shared, own, .failed (.fault cause)⟩

def refuse (shared : Shared) (own : Own) (cause : Refusal) : Turn Shared Own Wait Reply :=
  ⟨shared, own, .failed (.refusal cause)⟩

end Turn

/-- How threads take part in the use of shared state: each joins with a private state, runs commands
in turns, and leaves. -/
structure Protocol (Shared Own Wait Entry Command Reply : Type) where
  join : Entry → Shared → Shared × Except Failure Own
  leave : Shared → Own → Shared × Option Fault
  start : Command → Shared → Own → Turn Shared Own Wait Reply
  resume : Wait → Shared → Own → Turn Shared Own Wait Reply

end SpinLocks
