import SpinLocks.Proofs.ReadWrite.Word
import SpinLocks.Proofs.Valid

namespace SpinLocks.ReadWrite

structure Holdings (n : Nat) where
  system : System Word Backoff Wait n
  asked : Fin n → Access
  /-- How often each access was granted and not given back. -/
  count : Access → Nat

namespace Holdings

variable {n : Nat}

def opening (config : Config) (n : Nat) : Holdings n :=
  ⟨System.init n (readWrite.create config), fun _ => .writing, fun _ => 0⟩

abbrev word (u : Holdings n) : Word := u.system.shared

abbrev seat (u : Holdings n) (t : Fin n) : Seat Backoff Wait := u.system.seat t

/-- An access may be given back where it is granted to someone. -/
def permits (u : Holdings n) : Action Entry Command → Bool
  | .start command => !command.givesBack || 0 < u.count (accessOf command)
  | _ => true

def granted (u : Holdings n) (access : Access) : Access → Nat :=
  Function.update u.count access (u.count access + 1)

def returned (u : Holdings n) (access : Access) : Access → Nat :=
  Function.update u.count access (u.count access - 1)

def askedAfter (u : Holdings n) (t : Fin n) :
    Action Entry Command → Answer Reply → Fin n → Access
  | .start command, .waiting => Function.update u.asked t (accessOf command)
  | _, _ => u.asked

def countAfter (u : Holdings n) (t : Fin n) (action : Action Entry Command)
    (answer : Answer Reply) : Access → Nat :=
  match action, answer.turnsOver with
  | .start command, true =>
    if command.givesBack then u.returned (accessOf command) else u.granted (accessOf command)
  | .resume, true => u.granted (u.asked t)
  | _, _ => u.count

def step (u : Holdings n) (t : Fin n) (action : Action Entry Command) : Holdings n × Answer Reply :=
  let (system, answer) := u.system.step readWrite.protocol t action
  (⟨system, u.askedAfter t action answer, u.countAfter t action answer⟩, answer)

def run (u : Holdings n) : Schedule n → Holdings n × List (Answer Reply)
  | [] => (u, [])
  | (t, action) :: rest =>
    let (u, answer) := u.step t action
    let (u, answers) := run u rest
    (u, answer :: answers)

def proper (u : Holdings n) : Schedule n → Bool
  | [] => true
  | (t, action) :: rest => u.permits action && (u.step t action).1.proper rest

theorem run_eq (u : Holdings n) (schedule : Schedule n) :
    ((u.run schedule).1.system, (u.run schedule).2) =
      u.system.run readWrite.protocol schedule := by
  induction schedule generalizing u with
  | nil => rfl
  | cons step rest ih =>
    obtain ⟨t, action⟩ := step
    have h := ih (u.step t action).1
    rw [Prod.ext_iff] at h ⊢
    exact ⟨h.1, congrArg (_ :: ·) h.2⟩

def put (u : Holdings n) (t : Fin n) (word : Word) (seat : Seat Backoff Wait)
    (asked : Fin n → Access) (count : Access → Nat) : Holdings n :=
  ⟨{ u.system with shared := word }.place t seat, asked, count⟩

section Step

variable {u : Holdings n} {t : Fin n} {own : Backoff}

theorem seat_put {word : Word} {seat : Seat Backoff Wait} {asked : Fin n → Access}
    {count : Access → Nat} (s : Fin n) :
    (u.put t word seat asked count).seat s = if s = t then seat else u.seat s := by
  simp only [put, Holdings.seat, System.seat_place, eq_comm (a := s)]
  rfl

theorem step_refused {action : Action Entry Command} {cause : Refusal}
    (h : (u.seat t).refusal? action = some cause) : u.step t action = (u, .refused cause) := by
  rw [step, System.step_refused readWrite.protocol h]
  cases action <;> rfl

theorem step_join (hs : u.seat t = .vacant) (entry : Entry) :
    u.step t (.join entry) = (u.put t u.word (.idle Backoff.initial) u.asked u.count, .joined) := by
  have hs' : u.system.seat t = .vacant := hs
  simp only [step, System.step, System.join, hs']
  rfl

theorem step_leave (hs : u.seat t = .idle own) :
    u.step t .leave = (u.put t u.word .vacant u.asked u.count, .left) := by
  have hs' : u.system.seat t = .idle own := hs
  simp only [step, System.step, System.leave, hs']
  rfl

theorem step_start (hs : u.seat t = .idle own) {command : Command}
    {turn : LockTurn Word Backoff Wait} (hturn : ReadWrite.start command u.word own = turn) :
    u.step t (.start command) =
      (u.put t turn.shared turn.seat (u.askedAfter t (.start command) turn.answer)
        (u.countAfter t (.start command) turn.answer), turn.answer) := by
  have hs' : u.system.seat t = .idle own := hs
  subst hturn
  simp only [step, System.step, System.start, hs', System.settle_eq]
  rfl

theorem step_resume {point : Wait} (hs : u.seat t = .waiting own point)
    {turn : LockTurn Word Backoff Wait} (hturn : ReadWrite.resume point u.word own = turn) :
    u.step t .resume =
      (u.put t turn.shared turn.seat u.asked (u.countAfter t .resume turn.answer),
        turn.answer) := by
  have hs' : u.system.seat t = .waiting own point := hs
  subst hturn
  simp only [step, System.step, System.resume, hs', System.settle_eq]
  rfl

end Step

end Holdings

end SpinLocks.ReadWrite
