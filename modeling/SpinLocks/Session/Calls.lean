import SpinLocks.Session.Step
import SpinLocks.Adapter

namespace SpinLocks.Session.Calls

structure Record where
  result : Result Reply
  locked : Field
  threads : List Field

variable {n : Nat}

structure State (adapter : Adapter) (n : Nat) where
  system : System adapter.Shared Unit (Adapter.Wait adapter.Local adapter.Point) n
  seen : Vector Bool n

variable (adapter : Adapter)

def init (n : Nat) : State adapter n where
  system := ⟨adapter.free, Vector.replicate n (.idle ())⟩
  seen := Vector.replicate n false

def State.see (s : State adapter n) (t : Fin n) (answer : Answer Reply) : State adapter n :=
  match answer with
  | .waiting => s
  | _ => { s with seen := s.seen.set t true t.isLt }

def perform (s : State adapter n) (step : Step) : State adapter n × Result Reply :=
  match step.name with
  | "step_all" =>
    let (system, finished) := s.system.resumeAll adapter.protocol step.passes
    let s := finished.foldl (fun s (t, answer) => s.see adapter t answer) { s with system }
    (s, .finished (finished.map fun (t, answer) => (t.val, answer)))
  | name =>
    match step.thread? n with
    | none => (s, .refused .noSuchThread)
    | some t =>
      match name, s.system.seat t with
      | "step", .waiting .. =>
        let (system, answer) := s.system.resume adapter.protocol t
        ({ s with system }.see adapter t answer, .answer answer)
      | "step", _ => (s, .refused .notWaiting)
      | _, .waiting .. => (s, .refused .waiting)
      | name, _ =>
        match adapter.command? name with
        | some command =>
          let (system, answer) := s.system.start adapter.protocol t command
          ({ s with system }.see adapter t answer, .answer answer)
        | none =>
          let answer := .refused .noSuchOperation
          (s.see adapter t answer, .answer answer)

def State.threads (s : State adapter n) : List Field :=
  (List.finRange n).map fun t =>
    match s.system.seat t with
    | .waiting .. => .text "waiting"
    | _ => if s.seen.get t then .text "idle" else .null

def play (s : State adapter n) : List Step → List Record
  | [] => []
  | step :: rest =>
    let (s, result) := perform adapter s step
    ⟨result, adapter.locked s.system.shared, s.threads⟩ :: play s rest

def playNew (threads : Nat) (steps : List Step) : List Record :=
  play adapter (init adapter (min threads threadLimit)) steps

end SpinLocks.Session.Calls
