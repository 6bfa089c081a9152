import SpinLocks.Session.Step
import SpinLocks.LockArray
import SpinLocks.Text.Quoted

namespace SpinLocks.Session

def commandOfName? : String → Option Command
  | "acquire" => some .acquire
  | "release" => some .release
  | "try" => some .tryAcquire
  | "read" => some .acquireRead
  | "release_read" => some .releaseRead
  | "try_read" => some .tryAcquireRead
  | "write" => some .acquireWrite
  | "release_write" => some .releaseWrite
  | _ => none

/-- What a scenario is played on: what its threads do, and how things show in its records. -/
structure Bench (Shared Own Wait : Type) where
  join : LockArray.Entry → Shared → Joined Shared (Except Failure Own)
  leave : Shared → Own → Shared × Option Fault
  start : LockArray.Request → Shared → Own → LockTurn Shared Own Wait
  resume : Wait → Shared → Own → LockTurn Shared Own Wait
  free : Shared → Field
  own : Own → Field
  word : Shared → Option Field
  info : Shared → Nat → Field
  ownInfo : Own → Nat → Field
  stats : Own → Nat → Except Fault Report
  leaveLog : Own → List Event

namespace Bench

variable {Shared Own Wait : Type}

def protocol (bench : Bench Shared Own Wait) :
    Protocol Shared Own Wait LockArray.Entry LockArray.Request Reply where
  join entry shared :=
    let joined := bench.join entry shared
    (joined.shared, joined.outcome)
  leave := bench.leave
  start := bench.start
  resume := bench.resume

variable (lock : Lock Shared Own Wait) (machine : Machine)

def single : Bench Shared Own Wait where
  join entry shared :=
    let ⟨shared, own, log⟩ := lock.initLocal machine entry.toEntry shared
    ⟨shared, own.mapError .error, log⟩
  leave := lock.leave
  start request shared own :=
    match request.command with
    | some command => lock.start command shared own
    | none => .refuse shared own .noSuchOperation
  resume := lock.resume
  free shared := .flag (lock.isFree shared)
  own own := .text (lock.ownText own)
  word shared := lock.word.map (· shared)
  info shared _ := .record (lock.info shared)
  ownInfo _ _ := .null
  stats own _ := .ok (lock.stats own)
  leaveLog _ := Lifecycle.left lock.name

def arrayText (count : Nat) : String :=
  Text.record "LockArray" [("lock", Text.quoted lock.name), ("len", toString count)]

def ownArrayText (core count : Nat) : String :=
  Text.record "LocalArray" [
    ("lock", Text.quoted lock.name), ("core", toString core), ("len", toString count)]

def arrayInfo (locks : List Shared) (index : Nat) : Field :=
  .record [
    ("debug", .text (arrayText lock locks.length)),
    ("len", .nat locks.length),
    ("is_empty", .flag locks.isEmpty),
    ("lock", match locks[index]? with
      | some shared => .record (lock.info shared)
      | none => .null)]

def ownArrayInfo (own : LockArray.Own Own) (index : Nat) : Field :=
  match own with
  | .single .. => .null
  | .each core owns =>
    .record [
      ("debug", .text (ownArrayText lock core owns.length)),
      ("core", .nat core),
      ("len", .nat owns.length),
      ("is_empty", .flag owns.isEmpty),
      ("has", .flag (index < owns.length))]

def array : Bench (List Shared) (LockArray.Own Own) (LockArray.Wait Wait) where
  join := LockArray.join lock machine
  leave := LockArray.leave lock
  start := LockArray.start lock
  resume := LockArray.resume lock
  free locks := .list (locks.map fun shared => .flag (lock.isFree shared))
  own
    | .single _ own => .text (lock.ownText own)
    | .each _ owns => .list (owns.map fun own => .text (lock.ownText own))
  word locks := lock.word.map fun word => .list (locks.map word)
  info := arrayInfo lock
  ownInfo := ownArrayInfo lock
  stats own index :=
    match own.get? index with
    | some own => .ok (lock.stats own)
    | none => .error (.outOfBounds own.length index)
  leaveLog
    | .single .. => Lifecycle.left lock.name
    | .each core _ => Lifecycle.leftAll lock.name core

end Bench

structure Scenario.Record where
  result : Result Reply
  free : Field
  threads : List Field
  word : Option Field
  log : List Event

structure Scenario.Report where
  initLog : List Event
  records : List Scenario.Record
  endLog : List Event

namespace Scenario

variable {Shared Own Wait : Type} {n : Nat}

abbrev Stepped (Shared Own Wait : Type) (n : Nat) :=
  System Shared Own Wait n × Result Reply × List Event

/-- A thread joins with the configuration of the step, or else with that of the scenario. -/
def join (bench : Bench Shared Own Wait) (config : Config) (s : System Shared Own Wait n)
    (t : Fin n) (step : Step) (only : Option Nat) : Stepped Shared Own Wait n :=
  match (step.settings.map Settings.build).getD (.ok config) with
  | .error why => (s, .answer (.failed why), [])
  | .ok config =>
    let entry : LockArray.Entry := { config, core := step.core, only }
    let (after, answer) := s.join bench.protocol t entry
    (after, .answer answer, (bench.join entry s.shared).log)

def leave (bench : Bench Shared Own Wait) (s : System Shared Own Wait n) (t : Fin n) (own : Own) :
    Stepped Shared Own Wait n :=
  let (s, answer) := s.leave bench.protocol t
  (s, .answer answer, if answer = .left then bench.leaveLog own else [])

def operate (bench : Bench Shared Own Wait) (s : System Shared Own Wait n) (t : Fin n) (own : Own)
    (step : Step) : Stepped Shared Own Wait n :=
  match step.name with
  | "init" | "init_one" => (s, .refused .hasLocalState, [])
  | "free" => leave bench s t own
  | "local_info" => (s, .report (bench.ownInfo own step.index), [])
  | "stats" =>
    match bench.stats own step.index with
    | .ok report => (s, .report (.record report), [])
    | .error cause => (s, .fault cause, [])
  | name =>
    let request : LockArray.Request := { index := step.index, command := commandOfName? name }
    let (s, answer) := s.start bench.protocol t request
    (s, .answer answer, [])

def perform (bench : Bench Shared Own Wait) (config : Config) (s : System Shared Own Wait n)
    (step : Step) : Stepped Shared Own Wait n :=
  match step.name with
  | "step_all" =>
    let (s, result) := resumeAll bench.protocol s step.passes
    (s, result, [])
  | "info" => (s, .report (bench.info s.shared step.index), [])
  | name =>
    match step.thread? n with
    | none => (s, .refused .noSuchThread, [])
    | some t =>
      match name, s.seat t with
      | "step", _ =>
        let (s, answer) := s.resume bench.protocol t
        (s, .answer answer, [])
      | _, .waiting .. => (s, .refused .waiting, [])
      | _, .idle own => operate bench s t own step
      | "init", .vacant => join bench config s t step none
      | "init_one", .vacant => join bench config s t step (some step.index)
      | _, .vacant => (s, .refused .noLocalState, [])

def play (bench : Bench Shared Own Wait) (config : Config) (s : System Shared Own Wait n) :
    List Step → List Record
  | [] => []
  | step :: rest =>
    let (s, result, log) := perform bench config s step
    { result
      free := bench.free s.shared
      threads := threadFields bench.own s
      word := bench.word s.shared
      log } :: play bench config s rest

/-- Plays a scenario on one lock, whose word is overwritten at first where that is asked for. -/
def playLock (lock : Lock Shared Own Wait) (machine : Machine) (config : Config) (threads : Nat)
    (preset : Option (List Nat)) (steps : List Step) : Report :=
  let shared := lock.create config
  let shared := preset.elim shared (lock.preset · shared)
  { initLog := Lifecycle.created lock.name config
    records :=
      play (Bench.single lock machine) config (System.init (min threads threadLimit) shared) steps
    endLog := Lifecycle.freed lock.name }

def playArray (lock : Lock Shared Own Wait) (machine : Machine) (config : Config)
    (threads count : Nat) (steps : List Step) : Except Fault Report := do
  let locks ← lock.createAll config count
  return {
    initLog := Lifecycle.createdAll lock.name config count
    records :=
      play (Bench.array lock machine) config (System.init (min threads threadLimit) locks) steps
    endLog := Lifecycle.freedAll lock.name count }

end Scenario

end SpinLocks.Session
