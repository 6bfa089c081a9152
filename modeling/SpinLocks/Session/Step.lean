import SpinLocks.System
import SpinLocks.Lock

namespace SpinLocks.Session

structure Step where
  name : String
  thread : Option Nat := none
  core : Nat := 0
  index : Nat := 0
  value : Int := 0
  passes : Nat := 1
  settings : Option Settings := none

inductive Result (Reply : Type) where
  | answer (answer : Answer Reply)
  | finished (answers : List (Nat × Answer Reply))
  | report (report : Field)

namespace Result

variable {Reply : Type}

def refused (cause : Refusal) : Result Reply :=
  .answer (.refused cause)

def fault (cause : Fault) : Result Reply :=
  .answer (.failed (.fault cause))

end Result

def threadLimit : Nat := 64

def Step.thread? (step : Step) (n : Nat) : Option (Fin n) :=
  match step.thread with
  | some t => if h : t < n then some ⟨t, h⟩ else none
  | none => none

variable {Shared Own Wait Entry Command Reply : Type} {n : Nat}

def resumeAll (p : Protocol Shared Own Wait Entry Command Reply) (s : System Shared Own Wait n)
    (passes : Nat) : System Shared Own Wait n × Result Reply :=
  let (s, finished) := s.resumeAll p passes
  (s, .finished (finished.map fun (t, answer) => (t.val, answer)))

/-- How a thread shows in a report: not at all, as waiting, or by its private state. -/
def seatField (own : Own → Field) : Seat Own Wait → Field
  | .vacant => .null
  | .idle state => own state
  | .waiting .. => .text "waiting"

def threadFields (own : Own → Field) (s : System Shared Own Wait n) : List Field :=
  s.seats.toList.map (seatField own)

end SpinLocks.Session
