import SpinLocks.Session.Scenario

namespace SpinLocks.Session.Walk

structure Record where
  result : Result Reply
  free : Bool

structure Report where
  name : String
  records : List Record
  log : List Event

variable {Shared Own Wait : Type} (lock : Lock Shared Own Wait)

structure State (Shared Own Wait : Type) where
  system : System Shared Own Wait threadLimit
  holder : Option (Fin threadLimit)

abbrev Stepped (Shared Own Wait : Type) := State Shared Own Wait × Result Reply × List Event

def start (s : State Shared Own Wait) (t : Fin threadLimit) (command : Command) :
    State Shared Own Wait × Answer Reply :=
  let (system, answer) := s.system.start lock.protocol t command
  ({ s with system }, answer)

def acquire (s : State Shared Own Wait) (t : Fin threadLimit) (command : Command) :
    Stepped Shared Own Wait :=
  if s.holder.isSome then (s, .refused .wouldBlock, [])
  else
    match start lock s t command with
    | (s, .done reply) => ({ s with holder := some t }, .answer (.done reply), [])
    | (s, answer) => (s, .answer answer, [])

def release (s : State Shared Own Wait) (t : Fin threadLimit) (command : Command) :
    Stepped Shared Own Wait :=
  if s.holder = some t then
    let (s, answer) := start lock s t command
    ({ s with holder := none }, .answer answer, [])
  else (s, .refused .holdsNoLock, [])

def attempt (s : State Shared Own Wait) (t : Fin threadLimit) : Stepped Shared Own Wait :=
  match start lock s t .tryAcquire with
  | (s, .done (.took true)) => ({ s with holder := some t }, .answer (.done (.took true)), [])
  | (s, answer) => (s, .answer answer, [])

def join (machine : Machine) (config : Config) (s : State Shared Own Wait) (t : Fin threadLimit)
    (core : Nat) : Stepped Shared Own Wait :=
  let entry : Entry := { config, core }
  let (system, answer) := s.system.join lock.protocol t entry
  ({ s with system }, .answer answer, (lock.initLocal machine entry s.system.shared).log)

def leave (s : State Shared Own Wait) (t : Fin threadLimit) : Stepped Shared Own Wait :=
  if s.holder = some t then (s, .refused .holdsLock, [])
  else
    let (system, answer) := s.system.leave lock.protocol t
    ({ s with system }, .answer answer,
      if answer = .left then Lifecycle.left lock.name else [])

def perform (machine : Machine) (config : Config) (s : State Shared Own Wait) (step : Step) :
    Stepped Shared Own Wait :=
  match step.thread? threadLimit with
  | none => (s, .refused .noSuchThread, [])
  | some t =>
    match step.name, s.system.seat t with
    | "init", .vacant => join lock machine config s t step.core
    | "init", _ => (s, .refused .hasLocalState, [])
    | _, .vacant => (s, .refused .noLocalState, [])
    | "free", _ => leave lock s t
    | "acquire", _ => acquire lock s t .acquire
    | "read", _ => acquire lock s t .acquireRead
    | "write", _ => acquire lock s t .acquireWrite
    | "release", _ => release lock s t .release
    | "release_read", _ => release lock s t .releaseRead
    | "release_write", _ => release lock s t .releaseWrite
    | "try", _ => attempt lock s t
    | _, _ => (s, .refused .noSuchOperation, [])

def walk (machine : Machine) (config : Config) (s : State Shared Own Wait) :
    List Step → List Record × List Event
  | [] => ([], [])
  | step :: rest =>
    let (s, result, log) := perform lock machine config s step
    let (records, later) := walk machine config s rest
    (⟨result, lock.isFree s.system.shared⟩ :: records, log ++ later)

def walkNew (machine : Machine) (config : Config) (steps : List Step) : Report :=
  let (records, log) :=
    walk lock machine config ⟨System.init threadLimit (lock.create config), none⟩ steps
  { name := lock.name
    records
    log := Lifecycle.created lock.name config ++ log ++ Lifecycle.freed lock.name }

end SpinLocks.Session.Walk
