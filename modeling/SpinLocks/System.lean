import SpinLocks.Turn

namespace SpinLocks

inductive Seat (Own Wait : Type) where
  | vacant
  | idle (own : Own)
  | waiting (own : Own) (point : Wait)
  deriving DecidableEq

structure System (Shared Own Wait : Type) (n : Nat) where
  shared : Shared
  seats : Vector (Seat Own Wait) n

inductive Action (Entry Command : Type) where
  | join (entry : Entry)
  | leave
  | start (command : Command)
  | resume
  deriving DecidableEq

inductive Answer (Reply : Type) where
  | joined
  | left
  | done (reply : Reply)
  | waiting
  | failed (why : Failure)
  deriving DecidableEq

def Answer.refused {Reply : Type} (cause : Refusal) : Answer Reply :=
  .failed (.refusal cause)

namespace System

variable {Shared Own Wait Entry Command Reply : Type} {n : Nat}

def init (n : Nat) (shared : Shared) : System Shared Own Wait n :=
  ⟨shared, Vector.replicate n .vacant⟩

def seat (s : System Shared Own Wait n) (t : Fin n) : Seat Own Wait :=
  s.seats[t]

def place (s : System Shared Own Wait n) (t : Fin n) (seat : Seat Own Wait) :
    System Shared Own Wait n :=
  { s with seats := s.seats.set t seat }

@[simp]
theorem seat_init (shared : Shared) (t : Fin n) :
    (init n shared : System Shared Own Wait n).seat t = .vacant := by
  simp [init, seat]

@[simp]
theorem shared_place (s : System Shared Own Wait n) (t : Fin n) (seat : Seat Own Wait) :
    (s.place t seat).shared = s.shared := rfl

theorem seat_place (s : System Shared Own Wait n) (t u : Fin n) (seat : Seat Own Wait) :
    (s.place t seat).seat u = if t = u then seat else s.seat u := by
  simp [place, System.seat, Vector.getElem_set, Fin.ext_iff]

theorem place_self {s : System Shared Own Wait n} {t : Fin n} {seat : Seat Own Wait}
    (h : s.seat t = seat) : s.place t seat = s := by
  simp [place, ← h, System.seat]

def settle (s : System Shared Own Wait n) (t : Fin n) (turn : Turn Shared Own Wait Reply) :
    System Shared Own Wait n × Answer Reply :=
  let s := { s with shared := turn.shared }
  match turn.ending with
  | .done reply => (s.place t (.idle turn.own), .done reply)
  | .waiting point => (s.place t (.waiting turn.own point), .waiting)
  | .failed why => (s.place t (.idle turn.own), .failed why)

variable (p : Protocol Shared Own Wait Entry Command Reply)

def join (s : System Shared Own Wait n) (t : Fin n) (entry : Entry) :
    System Shared Own Wait n × Answer Reply :=
  match s.seat t with
  | .vacant =>
    match p.join entry s.shared with
    | (shared, .ok own) => ({ s with shared }.place t (.idle own), .joined)
    | (shared, .error why) => ({ s with shared }, .failed why)
  | .idle _ => (s, .refused .hasLocalState)
  | .waiting .. => (s, .refused .waiting)

/-- A thread that fails to leave is gone all the same. -/
def leave (s : System Shared Own Wait n) (t : Fin n) : System Shared Own Wait n × Answer Reply :=
  match s.seat t with
  | .vacant => (s, .refused .noLocalState)
  | .idle own =>
    match p.leave s.shared own with
    | (shared, none) => ({ s with shared }.place t .vacant, .left)
    | (shared, some cause) => ({ s with shared }.place t .vacant, .failed (.fault cause))
  | .waiting .. => (s, .refused .waiting)

def start (s : System Shared Own Wait n) (t : Fin n) (command : Command) :
    System Shared Own Wait n × Answer Reply :=
  match s.seat t with
  | .vacant => (s, .refused .noLocalState)
  | .idle own => s.settle t (p.start command s.shared own)
  | .waiting .. => (s, .refused .waiting)

def resume (s : System Shared Own Wait n) (t : Fin n) : System Shared Own Wait n × Answer Reply :=
  match s.seat t with
  | .waiting own point => s.settle t (p.resume point s.shared own)
  | _ => (s, .refused .notWaiting)

/-- A thread that may not take the turn is refused, and nothing changes. -/
def step (s : System Shared Own Wait n) (t : Fin n) :
    Action Entry Command → System Shared Own Wait n × Answer Reply
  | .join entry => s.join p t entry
  | .leave => s.leave p t
  | .start command => s.start p t command
  | .resume => s.resume p t

/-- Gives turns to threads in the order of a schedule, and collects what came of them. -/
def run (s : System Shared Own Wait n) :
    List (Fin n × Action Entry Command) → System Shared Own Wait n × List (Answer Reply)
  | [] => (s, [])
  | (t, action) :: rest =>
    let (s, answer) := s.step p t action
    let (s, answers) := run s rest
    (s, answer :: answers)

theorem fst_run_append (s : System Shared Own Wait n)
    (earlier later : List (Fin n × Action Entry Command)) :
    (s.run p (earlier ++ later)).1 = ((s.run p earlier).1.run p later).1 := by
  induction earlier generalizing s with
  | nil => rfl
  | cons step rest ih => exact ih _

/-- Resumes each of the given threads that is waiting, and reports those that wait no longer. -/
def resumeEach (s : System Shared Own Wait n) :
    List (Fin n) → System Shared Own Wait n × List (Fin n × Answer Reply)
  | [] => (s, [])
  | t :: rest =>
    match s.seat t with
    | .waiting .. =>
      let (s, answer) := s.resume p t
      let (s, finished) := resumeEach s rest
      match answer with
      | .waiting => (s, finished)
      | _ => (s, (t, answer) :: finished)
    | _ => resumeEach s rest

def resumeAll (s : System Shared Own Wait n) :
    Nat → System Shared Own Wait n × List (Fin n × Answer Reply)
  | 0 => (s, [])
  | passes + 1 =>
    let (s, finished) := s.resumeEach p (List.finRange n)
    let (s, later) := resumeAll s passes
    (s, finished ++ later)

end System

end SpinLocks
