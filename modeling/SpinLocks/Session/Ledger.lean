import SpinLocks.Session.Step
import SpinLocks.Guarded

namespace SpinLocks.Session.Ledger

abbrev Data := List Int64

inductive Value where
  | unit
  | field (field : Field)

abbrev Body := Guarded.Section Data Value

def ofInt64 (entry : Int64) : Field := .int entry.toInt

def push (entry : Int64) : Body := fun data => (data ++ [entry], .ok .unit)

def set (index : Nat) (entry : Int64) : Body := fun data =>
  if index < data.length then (data.set index entry, .ok .unit)
  else (data, .error (.outOfBounds data.length index))

def get (index : Nat) : Body := fun data =>
  match data[index]? with
  | some entry => (data, .ok (.field (ofInt64 entry)))
  | none => (data, .error (.outOfBounds data.length index))

def entries : Body := fun data => (data, .ok (.field (.list (data.map ofInt64))))

def written : Body := fun data =>
  (data, .ok (.field (.text (Text.list (data.map fun entry => toString entry.toInt)))))

def pushCounted (entry : Int64) : Body := fun data =>
  (data ++ [entry], .ok (.field (.nat (data.length + 1))))

def pushRaising (entry : Int64) : Body := fun data =>
  (data ++ [entry], .error (.raised s!"boom {entry.toInt}"))

def sum (data : Data) : Except Fault Value :=
  .ok (.field (ofInt64 (data.foldl (· + ·) 0)))

def countRaising (data : Data) : Except Fault Value :=
  .error (.raised s!"boom {data.length}")

def command? (guard : Bool) (step : Step) : Option (Guarded.Command Data Value) :=
  let entry := Int64.ofInt step.value
  if guard then
    match step.name with
    | "unlock" => some .unlock
    | "push" => some (.access (push entry))
    | "set" => some (.access (set step.index entry))
    | "get" => some (.access (get step.index))
    | "data" => some (.access entries)
    | "fmt" => some (.access written)
    | _ => none
  else
    match step.name with
    | "lock" => some .lock
    | "try_lock" => some .tryLock
    | "with" => some (.lockThen (pushCounted entry))
    | "try_with" => some (.tryLockThen (pushCounted entry) (.ok (.field .null)))
    | "read" => some (.readThen sum)
    | "with_panic" => some (.lockThen (pushRaising entry))
    | "read_panic" => some (.readThen countRaising)
    | _ => none

structure Record where
  result : Result (Guarded.Reply Value)
  locked : Bool
  threads : List Field

structure Report where
  records : List Record
  data : Data

variable {LockShared Local Point : Type} (lock : Lock LockShared Local Point) {n : Nat}

abbrev State (LockShared Local Point : Type) (n : Nat) :=
  System (Guarded.Shared LockShared Data) (Guarded.Own Local) (Guarded.Wait Point Data Value) n

abbrev Stepped (LockShared Local Point : Type) (n : Nat) :=
  State LockShared Local Point n × Result (Guarded.Reply Value)

def protocol :
    Protocol (Guarded.Shared LockShared Data) (Guarded.Own Local)
      (Guarded.Wait Point Data Value) Entry (Guarded.Command Data Value) (Guarded.Reply Value) :=
  Guarded.protocol lock

def operate (s : State LockShared Local Point n) (t : Fin n) (own : Guarded.Own Local)
    (step : Step) : Stepped LockShared Local Point n :=
  match command? own.guard step with
  | some command =>
    let (s, answer) := s.start (protocol lock) t command
    (s, .answer answer)
  | none =>
    match own.guard, step.name with
    | true, _ => (s, .refused .holdsGuard)
    | false, "init" => (s, .refused .hasLocalState)
    | false, "free" =>
      let (s, answer) := s.leave (protocol lock) t
      (s, .answer answer)
    | false, _ => (s, .refused .noSuchOperation)

def perform (config : Config) (s : State LockShared Local Point n) (step : Step) :
    Stepped LockShared Local Point n :=
  match step.name with
  | "step_all" => resumeAll (protocol lock) s step.passes
  | "debug" => (s, .report (.text (Guarded.text lock s.shared)))
  | name =>
    match step.thread? n with
    | none => (s, .refused .noSuchThread)
    | some t =>
      match name, s.seat t with
      | "step", _ =>
        let (s, answer) := s.resume (protocol lock) t
        (s, .answer answer)
      | _, .waiting .. => (s, .refused .waiting)
      | _, .idle own => operate lock s t own step
      | "init", .vacant =>
        let (s, answer) := s.join (protocol lock) t { config, core := step.core }
        (s, .answer answer)
      | _, .vacant => (s, .refused .noLocalState)

def ownField (own : Guarded.Own Local) : Field :=
  .text (if own.guard then "guard" else lock.ownText own.state)

def play (config : Config) (s : State LockShared Local Point n) : List Step → Report
  | [] => ⟨[], s.shared.data⟩
  | step :: rest =>
    let (s, result) := perform lock config s step
    let record := ⟨result, Guarded.isLocked lock s.shared, threadFields (ownField lock) s⟩
    let report := play config s rest
    { report with records := record :: report.records }

/-- Plays a session on a new lock; at the end one more entry may be pushed past the lock. -/
def playNew (config : Config) (threads : Nat) (data : Data) (last : Option Int64)
    (steps : List Step) : Report :=
  let shared := ⟨lock.create config, data⟩
  let report := play lock config (System.init (min threads threadLimit) shared) steps
  { report with data := report.data ++ last.toList }

end SpinLocks.Session.Ledger
