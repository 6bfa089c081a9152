import Mathlib.Logic.Function.Basic
import SpinLocks.Lock
import SpinLocks.System

namespace SpinLocks

variable {Shared Own Wait : Type} {n : Nat}

def Command.givesBack : Command → Bool
  | .release | .releaseRead | .releaseWrite => true
  | _ => false

def Command.asks : Command → Bool
  | .acquire | .acquireRead | .acquireWrite => true
  | _ => false

def Command.rejection (name : String) : Command → Answer Reply
  | .tryAcquireRead => .refused .noSuchOperation
  | _ => .failed (.error (.unsupported name "try_acquire"))

section Exclusive

variable {command : Command} {shared : Shared} {own : Own}
  {acquire release tryAcquire : Shared → Own → LockTurn Shared Own Wait}

theorem Command.exclusive_of_asks (h : command.asks = true) :
    command.exclusive shared own acquire release tryAcquire = acquire shared own := by
  cases command <;> first | rfl | cases h

theorem Command.exclusive_of_givesBack (h : command.givesBack = true) :
    command.exclusive shared own acquire release tryAcquire = release shared own := by
  cases command <;> first | rfl | cases h

theorem Command.asks_or_attempts (h : command.givesBack = false) :
    command.asks = true ∨ command = .tryAcquire ∨ command = .tryAcquireRead := by
  cases command <;> simp_all [asks, givesBack]

end Exclusive

/-- Whether the answer says that the lock was taken, or given back. -/
def Answer.turnsOver : Answer Reply → Bool
  | .done .done => true
  | .done (.took taken) => taken
  | _ => false

def Answer.faults : Answer Reply → Bool
  | .failed (.fault _) => true
  | _ => false

def Answer.anonymous : Answer Reply → Answer Reply
  | .failed (.error (.unsupported _ operation)) => .failed (.error (.unsupported "" operation))
  | .failed (.error (.capacity _ capacity)) => .failed (.error (.capacity "" capacity))
  | answer => answer

theorem anonymous_rejection (name name' : String) (command : Command) :
    (command.rejection name).anonymous = (command.rejection name').anonymous := by
  cases command <;> rfl

theorem faults_rejection (name : String) (command : Command) :
    (command.rejection name).faults = false := by
  cases command <;> rfl

namespace Seat

def waits : Seat Own Wait → Bool
  | .waiting .. => true
  | _ => false

def own? : Seat Own Wait → Option Own
  | .vacant => none
  | .idle own | .waiting own _ => some own

/-- Why a thread in this position is not allowed the action. -/
def refusal? : Seat Own Wait → Action Entry Command → Option Refusal
  | .vacant, .join _ | .idle _, .leave | .idle _, .start _ | .waiting .., .resume => none
  | .vacant, .leave | .vacant, .start _ => some .noLocalState
  | .idle _, .join _ => some .hasLocalState
  | .vacant, .resume | .idle _, .resume => some .notWaiting
  | .waiting .., _ => some .waiting

theorem action_cases (seat : Seat Own Wait) (action : Action Entry Command) :
    (∃ cause, seat.refusal? action = some cause) ∨
      (∃ entry, action = .join entry ∧ seat = .vacant) ∨
      (∃ own, action = .leave ∧ seat = .idle own) ∨
      (∃ own command, action = .start command ∧ seat = .idle own) ∨
      (∃ own point, action = .resume ∧ seat = .waiting own point) := by
  cases seat with
  | vacant =>
    cases action with
    | join entry => exact .inr (.inl ⟨entry, rfl, rfl⟩)
    | leave | start | resume => exact .inl ⟨_, rfl⟩
  | idle own =>
    cases action with
    | leave => exact .inr (.inr (.inl ⟨own, rfl, rfl⟩))
    | start command => exact .inr (.inr (.inr (.inl ⟨own, command, rfl, rfl⟩)))
    | join | resume => exact .inl ⟨_, rfl⟩
  | waiting own point =>
    cases action with
    | resume => exact .inr (.inr (.inr (.inr ⟨own, point, rfl, rfl⟩)))
    | join | leave | start => exact .inl ⟨_, rfl⟩

end Seat

namespace Turn

variable {Reply : Type}

def seat (turn : Turn Shared Own Wait Reply) : Seat Own Wait :=
  match turn.ending with
  | .waiting point => .waiting turn.own point
  | _ => .idle turn.own

def answer (turn : Turn Shared Own Wait Reply) : Answer Reply :=
  match turn.ending with
  | .done reply => .done reply
  | .waiting _ => .waiting
  | .failed why => .failed why

end Turn

theorem System.settle_eq {Reply : Type} (s : System Shared Own Wait n) (t : Fin n)
    (turn : Turn Shared Own Wait Reply) :
    s.settle t turn = ({ s with shared := turn.shared }.place t turn.seat, turn.answer) := by
  obtain ⟨shared, own, ending⟩ := turn
  cases ending <;> rfl

theorem System.step_refused (p : Protocol Shared Own Wait Entry Command Reply)
    {s : System Shared Own Wait n} {t : Fin n} {action : Action Entry Command} {cause : Refusal}
    (h : (s.seat t).refusal? action = some cause) : s.step p t action = (s, .refused cause) := by
  cases hs : s.seat t <;> cases action <;>
    simp_all [Seat.refusal?, System.step, System.join, System.leave, System.start, System.resume]

theorem System.seat_step_of_ne {p : Protocol Shared Own Wait Entry Command Reply}
    {s : System Shared Own Wait n} {t r : Fin n} (h : r ≠ t) (action : Action Entry Command) :
    (s.step p t action).1.seat r = s.seat r := by
  have hplace : ∀ (s : System Shared Own Wait n) seat, (s.place t seat).seat r = s.seat r := by
    intro s seat
    rw [seat_place, if_neg h.symm]
  obtain ⟨cause, hr⟩ | ⟨entry, rfl, hs⟩ | ⟨own, rfl, hs⟩ | ⟨own, command, rfl, hs⟩ |
    ⟨own, point, rfl, hs⟩ := (s.seat t).action_cases action
  · rw [step_refused p hr]
  · simp only [step, join, hs]
    split
    · exact hplace ..
    · rfl
  · simp only [step, leave, hs]
    split <;> exact hplace ..
  · simp only [step, start, hs, settle_eq]
    exact hplace ..
  · simp only [step, resume, hs, settle_eq]
    exact hplace ..

structure Usage (Shared Own Wait : Type) (n : Nat) where
  system : System Shared Own Wait n
  holds : Fin n → Bool

/-- Which thread acts, and how, from turn to turn. -/
abbrev Schedule (n : Nat) := List (Fin n × Action Entry Command)

namespace Usage

def opening (lock : Lock Shared Own Wait) (config : Config) (n : Nat) : Usage Shared Own Wait n :=
  ⟨System.init n (lock.create config), fun _ => false⟩

/-- Nobody has joined yet. The shared state may be one that the lock was preset to. -/
def fresh (shared : Shared) (n : Nat) : Usage Shared Own Wait n :=
  ⟨System.init n shared, fun _ => false⟩

abbrev shared (u : Usage Shared Own Wait n) : Shared := u.system.shared

abbrev seat (u : Usage Shared Own Wait n) (t : Fin n) : Seat Own Wait := u.system.seat t

def waits (u : Usage Shared Own Wait n) (t : Fin n) : Bool := (u.seat t).waits

def own? (u : Usage Shared Own Wait n) (t : Fin n) : Option Own := (u.seat t).own?

/-- A thread is engaged from the turn in which it asks for the lock to the turn in which it gives
the lock back. -/
def Engaged (u : Usage Shared Own Wait n) (t : Fin n) : Prop :=
  u.holds t = true ∨ u.waits t = true

def permits (u : Usage Shared Own Wait n) (t : Fin n) : Action Entry Command → Bool
  | .join _ | .resume => true
  | .leave => !u.holds t
  | .start command => command.givesBack == u.holds t

variable (lock : Lock Shared Own Wait)

def step (u : Usage Shared Own Wait n) (t : Fin n) (action : Action Entry Command) :
    Usage Shared Own Wait n × Answer Reply :=
  let (system, answer) := u.system.step lock.protocol t action
  (⟨system, Function.update u.holds t (u.holds t ^^ answer.turnsOver)⟩, answer)

def run (u : Usage Shared Own Wait n) : Schedule n → Usage Shared Own Wait n × List (Answer Reply)
  | [] => (u, [])
  | (t, action) :: rest =>
    let (u, answer) := u.step lock t action
    let (u, answers) := run u rest
    (u, answer :: answers)

def Along (P : Usage Shared Own Wait n → Fin n → Action Entry Command → Prop)
    (u : Usage Shared Own Wait n) : Schedule n → Prop
  | [] => True
  | (t, action) :: rest => P u t action ∧ Along P (u.step lock t action).1 rest

def Throughout (P : Usage Shared Own Wait n → Prop) (u : Usage Shared Own Wait n) :
    Schedule n → Prop
  | [] => P u
  | (t, action) :: rest => P u ∧ Throughout P (u.step lock t action).1 rest

instance Along.decidable {P : Usage Shared Own Wait n → Fin n → Action Entry Command → Prop}
    [hP : ∀ u t action, Decidable (P u t action)] (u : Usage Shared Own Wait n) :
    (schedule : Schedule n) → Decidable (u.Along lock P schedule)
  | [] => inferInstanceAs (Decidable True)
  | (t, action) :: rest =>
    have := hP u t action
    have : Decidable (Along lock P (u.step lock t action).1 rest) := Along.decidable _ rest
    inferInstanceAs (Decidable (_ ∧ _))

instance Throughout.decidable {P : Usage Shared Own Wait n → Prop} [hP : DecidablePred P]
    (u : Usage Shared Own Wait n) :
    (schedule : Schedule n) → Decidable (u.Throughout lock P schedule)
  | [] => hP u
  | (t, action) :: rest =>
    have := hP u
    have : Decidable (Throughout lock P (u.step lock t action).1 rest) :=
      Throughout.decidable _ rest
    inferInstanceAs (Decidable (_ ∧ _))

abbrev Proper (u : Usage Shared Own Wait n) (schedule : Schedule n) : Prop :=
  u.Along lock (fun u t action => u.permits t action = true) schedule

/-- Who holds the lock is told beside the run: the threads are run as ever. -/
theorem run_eq (u : Usage Shared Own Wait n) (schedule : Schedule n) :
    ((u.run lock schedule).1.system, (u.run lock schedule).2) =
      u.system.run lock.protocol schedule := by
  induction schedule generalizing u with
  | nil => rfl
  | cons step rest ih =>
    obtain ⟨t, action⟩ := step
    have h := ih (u.step lock t action).1
    rw [Prod.ext_iff] at h ⊢
    exact ⟨h.1, congrArg (_ :: ·) h.2⟩

variable {lock} {u : Usage Shared Own Wait n} {t : Fin n}

section Fresh

variable (shared : Shared) (n : Nat) (t : Fin n)

theorem seat_fresh : (fresh shared n : Usage Shared Own Wait n).seat t = .vacant :=
  System.seat_init _ t

theorem own?_fresh : (fresh shared n : Usage Shared Own Wait n).own? t = none := by
  rw [own?, seat_fresh]
  rfl

theorem not_engaged_fresh : ¬ (fresh shared n : Usage Shared Own Wait n).Engaged t := by
  rintro (hh | hw)
  · cases hh
  · rw [waits, seat_fresh] at hw
    cases hw

end Fresh

section Opening

variable (lock) (config : Config) (n : Nat) (t : Fin n)

theorem seat_opening : (opening lock config n).seat t = .vacant :=
  seat_fresh (lock.create config) n t

theorem own?_opening : (opening lock config n).own? t = none :=
  own?_fresh (lock.create config) n t

theorem not_engaged_opening : ¬ (opening lock config n).Engaged t :=
  not_engaged_fresh (lock.create config) n t

end Opening

def put (u : Usage Shared Own Wait n) (t : Fin n) (shared : Shared) (seat : Seat Own Wait)
    (holds : Bool) : Usage Shared Own Wait n :=
  ⟨{ u.system with shared }.place t seat, Function.update u.holds t holds⟩

@[simp]
theorem shared_put (shared : Shared) (seat : Seat Own Wait) (holds : Bool) :
    (u.put t shared seat holds).system.shared = shared := rfl

theorem seat_put (shared : Shared) (seat : Seat Own Wait) (holds : Bool) (s : Fin n) :
    (u.put t shared seat holds).seat s = if s = t then seat else u.seat s := by
  simp only [put, Usage.seat, System.seat_place, eq_comm (a := s)]
  rfl

theorem seat_put_self (shared : Shared) (seat : Seat Own Wait) (holds : Bool) :
    (u.put t shared seat holds).seat t = seat := by
  rw [seat_put, if_pos rfl]

theorem holds_put (shared : Shared) (seat : Seat Own Wait) (holds : Bool) (s : Fin n) :
    (u.put t shared seat holds).holds s = if s = t then holds else u.holds s :=
  Function.update_apply ..

theorem holds_put_self (shared : Shared) (seat : Seat Own Wait) (holds : Bool) :
    (u.put t shared seat holds).holds t = holds :=
  Function.update_self ..

theorem own?_put (shared : Shared) (seat : Seat Own Wait) (holds : Bool) (s : Fin n) :
    (u.put t shared seat holds).own? s = if s = t then seat.own? else u.own? s := by
  simp only [own?, seat_put, apply_ite Seat.own?]

theorem waits_put (shared : Shared) (seat : Seat Own Wait) (holds : Bool) (s : Fin n) :
    (u.put t shared seat holds).waits s = if s = t then seat.waits else u.waits s := by
  simp only [waits, seat_put, apply_ite Seat.waits]

theorem own?_of_idle {own : Own} (h : u.seat t = .idle own) : u.own? t = some own := by
  rw [own?, h]
  rfl

theorem own?_of_waiting {own : Own} {point : Wait} (h : u.seat t = .waiting own point) :
    u.own? t = some own := by
  rw [own?, h]
  rfl

theorem waits_iff : u.waits t = true ↔ ∃ own point, u.seat t = .waiting own point := by
  unfold waits
  cases u.seat t <;> simp [Seat.waits]

theorem engaged_put (shared : Shared) (seat : Seat Own Wait) (holds : Bool) (s : Fin n) :
    (u.put t shared seat holds).Engaged s ↔
      if s = t then holds = true ∨ seat.waits = true else u.Engaged s := by
  simp only [Engaged, holds_put, waits_put]
  by_cases h : s = t <;> simp [h]

theorem not_engaged_idle {own : Own} (hs : u.seat t = .idle own) (hf : u.holds t = false) :
    ¬ u.Engaged t := by
  simp [Engaged, waits, hs, hf, Seat.waits]

section Holders

variable (hidle : ∀ s, u.holds s = true → ∃ own, u.seat s = .idle own)
include hidle

theorem not_holds_vacant (hs : u.seat t = .vacant) : u.holds t = false := by
  by_contra hh
  obtain ⟨own, hs'⟩ := hidle t (by simpa using hh)
  cases hs.symm.trans hs'

theorem not_holds_waiting {own : Own} {point : Wait} (hs : u.seat t = .waiting own point) :
    u.holds t = false := by
  by_contra hh
  obtain ⟨own', hs'⟩ := hidle t (by simpa using hh)
  cases hs.symm.trans hs'

theorem not_engaged_vacant (hs : u.seat t = .vacant) : ¬ u.Engaged t := by
  simp [Engaged, waits, hs, not_holds_vacant hidle hs, Seat.waits]

theorem exists_own_of_engaged (he : u.Engaged t) : ∃ own, u.own? t = some own := by
  obtain hh | hw := he
  · obtain ⟨own, hs⟩ := hidle t hh
    exact ⟨own, own?_of_idle hs⟩
  · obtain ⟨own, point, hs⟩ := waits_iff.mp hw
    exact ⟨own, own?_of_waiting hs⟩

end Holders

theorem holder_idle_put (h : ∀ s, u.holds s = true → ∃ own, u.seat s = .idle own)
    {shared : Shared} {seat : Seat Own Wait} {holds : Bool}
    (hidle : holds = true → ∃ own, seat = .idle own) (s : Fin n)
    (hs : (u.put t shared seat holds).holds s = true) :
    ∃ own, (u.put t shared seat holds).seat s = .idle own := by
  rw [holds_put] at hs
  rw [seat_put]
  split at hs
  · next he => simpa [he] using hidle hs
  · next hst => simpa [hst] using h s hs

@[simp]
theorem put_put (shared shared' : Shared) (seat seat' : Seat Own Wait) (holds holds' : Bool) :
    (u.put t shared seat holds).put t shared' seat' holds' = u.put t shared' seat' holds' := by
  simp [put, System.place]

theorem put_self (u : Usage Shared Own Wait n) (t : Fin n) :
    u.put t u.shared (u.seat t) (u.holds t) = u := by
  simp [put, System.place, System.seat]

def settle (u : Usage Shared Own Wait n) (t : Fin n) (turn : LockTurn Shared Own Wait) :
    Usage Shared Own Wait n :=
  u.put t turn.shared turn.seat (u.holds t ^^ turn.answer.turnsOver)

theorem settle_put {shared : Shared} {seat : Seat Own Wait} {holds : Bool}
    (h : u.holds t = holds) (turn : LockTurn Shared Own Wait) :
    (u.put t shared seat holds).settle t turn = u.settle t turn := by
  simp [settle, holds_put, h]

theorem settle_done {shared : Shared} {own : Own} :
    u.settle t ⟨shared, own, .done .done⟩ = u.put t shared (.idle own) !u.holds t := by
  simp [settle, Turn.seat, Turn.answer, Answer.turnsOver]

theorem settle_waiting {shared : Shared} {own : Own} {point : Wait} :
    u.settle t ⟨shared, own, .waiting point⟩ = u.put t shared (.waiting own point) (u.holds t) := by
  simp [settle, Turn.seat, Turn.answer, Answer.turnsOver]

theorem settle_failed {shared : Shared} {own : Own} {why : Failure} :
    u.settle t ⟨shared, own, .failed why⟩ = u.put t shared (.idle own) (u.holds t) := by
  simp [settle, Turn.seat, Turn.answer, Answer.turnsOver]

theorem settle_took {shared : Shared} {own : Own} {taken : Bool} :
    u.settle t ⟨shared, own, .done (.took taken)⟩ =
      u.put t shared (.idle own) (u.holds t ^^ taken) := by
  simp [settle, Turn.seat, Turn.answer, Answer.turnsOver]

theorem own?_settle (turn : LockTurn Shared Own Wait) :
    (u.settle t turn).own? t = some turn.own := by
  obtain ⟨shared, own, ending⟩ := turn
  rw [settle, own?_put, if_pos rfl]
  cases ending <;> rfl

theorem waits_settle {turn : LockTurn Shared Own Wait} (h : turn.answer = .waiting) :
    (u.settle t turn).waits t = true := by
  obtain ⟨shared, own, ending⟩ := turn
  cases ending with
  | waiting point => simp [settle_waiting, waits_put, Seat.waits]
  | done | failed => cases h

theorem holds_settle {turn : LockTurn Shared Own Wait} (hf : u.holds t = false)
    (h : turn.answer = .done .done) : (u.settle t turn).holds t = true := by
  rw [settle, holds_put_self, hf, h]
  rfl

theorem settle_self {own : Own} {point : Wait} (h : u.seat t = .waiting own point) :
    u.settle t ⟨u.shared, own, .waiting point⟩ = u := by
  rw [settle_waiting, ← h, put_self]

theorem step_start {own : Own} (h : u.seat t = .idle own) (command : Command) :
    u.step lock t (.start command) =
      (u.settle t (lock.start command u.shared own), (lock.start command u.shared own).answer) := by
  simp only [step, System.step, System.start, h, System.settle_eq]
  rfl

theorem step_attempt {own : Own} {name : String} {command : Command}
    {acquire release : Shared → Own → LockTurn Shared Own Wait} (h : u.seat t = .idle own)
    (hstart : lock.start command u.shared own =
      command.exclusive u.shared own acquire release (unsupportedAttempt name))
    (hb : command.givesBack = false) (hc : command.asks = false) :
    u.step lock t (.start command) = (u, command.rejection name) := by
  have hself : u.put t u.shared (.idle own) (u.holds t) = u := by rw [← h, put_self]
  have hfailed : ∃ why, lock.start command u.shared own = ⟨u.shared, own, .failed why⟩ ∧
      .failed why = command.rejection name := by
    rw [hstart]
    obtain ha | rfl | rfl := Command.asks_or_attempts hb
    · simp [hc] at ha
    · exact ⟨_, rfl, rfl⟩
    · exact ⟨_, rfl, rfl⟩
  obtain ⟨why, hturn, hwhy⟩ := hfailed
  rw [step_start h, hturn, settle_failed, hself, ← hwhy]
  rfl

variable (lock) in
/-- What a permitted command comes to, under a lock that knows exclusive access only. -/
theorem start_cases {own : Own} {command : Command}
    {acquire release tryAcquire : Shared → Own → LockTurn Shared Own Wait}
    (h : u.seat t = .idle own)
    (hstart : lock.start command u.shared own =
      command.exclusive u.shared own acquire release tryAcquire)
    (hp : u.permits t (.start command) = true) :
    (u.holds t = true ∧ u.step lock t (.start command) =
        (u.settle t (release u.shared own), (release u.shared own).answer)) ∨
      u.holds t = false ∧
        (command.asks = true ∧ u.step lock t (.start command) =
            (u.settle t (acquire u.shared own), (acquire u.shared own).answer) ∨
          command = .tryAcquire ∧ u.step lock t (.start command) =
            (u.settle t (tryAcquire u.shared own), (tryAcquire u.shared own).answer) ∨
          u.step lock t (.start command) = (u, .refused .noSuchOperation)) := by
  have hb : command.givesBack = u.holds t := by simpa [permits] using hp
  rw [step_start h, hstart]
  cases hh : u.holds t with
  | true =>
    rw [Command.exclusive_of_givesBack (hb.trans hh)]
    exact .inl ⟨rfl, rfl⟩
  | false =>
    obtain hasks | rfl | rfl := Command.asks_or_attempts (hb.trans hh)
    · rw [Command.exclusive_of_asks hasks]
      exact .inr ⟨rfl, .inl ⟨hasks, rfl⟩⟩
    · exact .inr ⟨rfl, .inr (.inl ⟨rfl, rfl⟩)⟩
    · rw [show Command.tryAcquireRead.exclusive u.shared own acquire release tryAcquire =
        .refuse u.shared own .noSuchOperation from rfl, Turn.refuse, settle_failed, ← h, put_self]
      exact .inr ⟨rfl, .inr (.inr rfl)⟩

theorem step_resume {own : Own} {point : Wait} (h : u.seat t = .waiting own point) :
    u.step lock t .resume =
      (u.settle t (lock.resume point u.shared own), (lock.resume point u.shared own).answer) := by
  simp only [step, System.step, System.resume, h, System.settle_eq]
  rfl

variable (lock) in
theorem step_join_ok {entry : Entry} {shared : Shared} {own : Own} (h : u.seat t = .vacant)
    (hj : lock.join entry u.shared = (shared, .ok own)) :
    u.step lock t (.join entry) = (u.put t shared (.idle own) (u.holds t), .joined) := by
  have hp : lock.protocol.join entry u.system.shared = (shared, .ok own) := by
    simp only [Lock.protocol, hj]
    rfl
  simp only [step, System.step, System.join, h, hp]
  simp [put, Answer.turnsOver]

variable (lock) in
theorem step_join_error {entry : Entry} {shared : Shared} {why : LockError}
    (h : u.seat t = .vacant) (hj : lock.join entry u.shared = (shared, .error why)) :
    u.step lock t (.join entry) =
      (u.put t shared .vacant (u.holds t), .failed (.error why)) := by
  have hp : lock.protocol.join entry u.system.shared = (shared, .error (.error why)) := by
    simp only [Lock.protocol, hj]
    rfl
  have hs : { u.system with shared }.place t .vacant = { u.system with shared } :=
    System.place_self h
  simp only [step, System.step, System.join, h, hp]
  simp [put, Answer.turnsOver, hs]

variable (lock) in
theorem step_leave {own : Own} {shared : Shared} (h : u.seat t = .idle own)
    (hl : lock.leave u.shared own = (shared, none)) :
    u.step lock t .leave = (u.put t shared .vacant (u.holds t), .left) := by
  simp only [step, System.step, System.leave, Lock.protocol, h, hl]
  simp [put, Answer.turnsOver]

variable (lock) in
theorem shared_step_join {entry : Entry} (h : u.seat t = .vacant) :
    (u.step lock t (.join entry)).1.shared = (lock.join entry u.shared).1 := by
  match hj : lock.join entry u.shared with
  | (shared, .ok own) => rw [step_join_ok lock h hj]; rfl
  | (shared, .error why) => rw [step_join_error lock h hj]; rfl

variable (lock) in
/-- A thread that leaves is gone, even where the lock finds fault with it. -/
theorem fst_step_leave {own : Own} (h : u.seat t = .idle own) :
    (u.step lock t .leave).1 = u.put t (lock.leave u.shared own).1 .vacant (u.holds t) := by
  have h' : u.system.seat t = .idle own := h
  rcases hleave : lock.leave u.shared own with ⟨shared, _ | cause⟩ <;>
    simp [step, System.step, System.leave, Lock.protocol, h', hleave, put, Answer.turnsOver]

variable (lock) in
theorem snd_step_leave {own : Own} (h : u.seat t = .idle own) :
    (u.step lock t .leave).2 =
      (lock.leave u.shared own).2.elim .left fun cause => .failed (.fault cause) := by
  have h' : u.system.seat t = .idle own := h
  rcases hleave : lock.leave u.shared own with ⟨shared, _ | cause⟩ <;>
    simp [step, System.step, System.leave, Lock.protocol, h', hleave]

variable (lock) in
theorem shared_step_leave {own : Own} (h : u.seat t = .idle own) :
    (u.step lock t .leave).1.shared = (lock.leave u.shared own).1 := by
  rw [fst_step_leave lock h]
  rfl

theorem step_refused (lock : Lock Shared Own Wait) {action : Action Entry Command}
    {cause : Refusal} (h : (u.seat t).refusal? action = some cause) :
    u.step lock t action = (u, .refused cause) := by
  simp [step, System.step_refused lock.protocol h, Answer.refused, Answer.turnsOver]

theorem step_cases (lock : Lock Shared Own Wait) (u : Usage Shared Own Wait n) (t : Fin n)
    (action : Action Entry Command) :
    (∃ cause, (u.seat t).refusal? action = some cause ∧
        u.step lock t action = (u, .refused cause)) ∨
      (∃ entry, action = .join entry ∧ u.seat t = .vacant) ∨
      (∃ own, action = .leave ∧ u.seat t = .idle own) ∨
      (∃ own command, action = .start command ∧ u.seat t = .idle own) ∨
      (∃ own point, action = .resume ∧ u.seat t = .waiting own point) := by
  obtain ⟨cause, hr⟩ | h := (u.seat t).action_cases action
  · exact .inl ⟨cause, hr, step_refused lock hr⟩
  · exact .inr h

theorem own?_step_of_ne {s : Fin n} (h : s ≠ t) (action : Action Entry Command) :
    (u.step lock t action).1.own? s = u.own? s :=
  congrArg Seat.own? (System.seat_step_of_ne h action)

theorem Throughout.now {P : Usage Shared Own Wait n → Prop} {schedule : Schedule n}
    (h : u.Throughout lock P schedule) : P u := by
  cases schedule with
  | nil => exact h
  | cons step rest => exact h.1

theorem run_append (earlier later : Schedule n) :
    u.run lock (earlier ++ later) =
      (((u.run lock earlier).1.run lock later).1,
        (u.run lock earlier).2 ++ ((u.run lock earlier).1.run lock later).2) := by
  induction earlier generalizing u with
  | nil => rfl
  | cons step rest ih =>
    simp only [List.cons_append, run, ih]

theorem along_append {P : Usage Shared Own Wait n → Fin n → Action Entry Command → Prop}
    {earlier later : Schedule n} :
    u.Along lock P (earlier ++ later) ↔
      u.Along lock P earlier ∧ (u.run lock earlier).1.Along lock P later := by
  induction earlier generalizing u with
  | nil => simp [Along, run]
  | cons step rest ih =>
    simp only [List.cons_append, Along, run, ih, and_assoc]

theorem Along.and {P Q : Usage Shared Own Wait n → Fin n → Action Entry Command → Prop}
    {schedule : Schedule n} (hp : u.Along lock P schedule) (hq : u.Along lock Q schedule) :
    u.Along lock (fun u t action => P u t action ∧ Q u t action) schedule := by
  induction schedule generalizing u with
  | nil => trivial
  | cons step rest ih => exact ⟨⟨hp.1, hq.1⟩, ih hp.2 hq.2⟩

theorem Along.mono {P Q : Usage Shared Own Wait n → Fin n → Action Entry Command → Prop}
    {schedule : Schedule n} (hp : u.Along lock P schedule)
    (h : ∀ u t action, P u t action → Q u t action) : u.Along lock Q schedule := by
  induction schedule generalizing u with
  | nil => trivial
  | cons step rest ih => exact ⟨h _ _ _ hp.1, ih hp.2⟩

/-- What each step that meets a condition preserves holds after every schedule of such steps, and
what each answer satisfies all answers do. -/
theorem run_induction {P : Usage Shared Own Wait n → Fin n → Action Entry Command → Prop}
    (Inv : Usage Shared Own Wait n → Prop) (Good : Answer Reply → Prop)
    (hstep : ∀ u t action, Inv u → P u t action →
      Inv (u.step lock t action).1 ∧ Good (u.step lock t action).2)
    (h : Inv u) {schedule : Schedule n} (hp : u.Along lock P schedule) :
    Inv (u.run lock schedule).1 ∧ ∀ answer ∈ (u.run lock schedule).2, Good answer := by
  induction schedule generalizing u with
  | nil => exact ⟨h, by simp [run]⟩
  | cons step rest ih =>
    obtain ⟨t, action⟩ := step
    obtain ⟨hpermits, hrest⟩ := hp
    obtain ⟨hinv, hgood⟩ := hstep u t action h hpermits
    obtain ⟨hlast, hall⟩ := ih hinv hrest
    exact ⟨hlast, List.forall_mem_cons.mpr ⟨hgood, hall⟩⟩

end Usage

end SpinLocks
