import SpinLocks.Proofs.Guarded.Cell
import SpinLocks.Proofs.ReadWrite.Word
import SpinLocks.Proofs.History

namespace SpinLocks.Guarded

open ReadWrite (Access)

variable {LockShared Local Point Data Result : Type} {n : Nat}

abbrev Threads (LockShared Local Point Data Result : Type) (n : Nat) :=
  System (Shared LockShared Data) (Own Local) (Wait Point Data Result) n

abbrev Plan (Data Result : Type) (n : Nat) := List (Fin n × Action Entry (Command Data Result))

inductive Deed (Data Result : Type) where
  | call (action : Action Entry SpinLocks.Command)
  | use (use : Use Data Result)

def Deed.returns (data : Data) : Deed Data Result → Bool
  | use (.look body) => (body data).isOk
  | _ => true

def Goal.access : Goal Data Result → Access
  | shared _ => .reading
  | guard _ | exclusive _ => .writing

/-- What a thread does that has taken the lock. -/
def Goal.deeds (data : Data) : Goal Data Result → List (Deed Data Result)
  | guard _ => []
  | exclusive body => [.use (.change body), .call (.start .release)]
  | shared body =>
    .use (.look body) :: if (body data).isOk then [.call (.start .releaseRead)] else []

/-- How a command takes the lock, and what for. -/
def Command.request? : Command Data Result → Option (SpinLocks.Command × Goal Data Result)
  | lock => some (.acquire, .guard .done)
  | tryLock => some (.tryAcquire, .guard (.took true))
  | lockThen body => some (.acquire, .exclusive body)
  | tryLockThen body _ => some (.tryAcquire, .exclusive body)
  | readThen body => some (.acquireRead, .shared body)
  | access _ | unlock => none

variable (lock : Lock LockShared Local Point)

def taking (goal : Goal Data Result) (data : Data) (action : Action Entry SpinLocks.Command)
    (turn : LockTurn LockShared Local Point) : List (Deed Data Result) :=
  .call action :: if turn.answer.turnsOver then goal.deeds data else []

def startDeeds (command : Command Data Result) (shared : Shared LockShared Data)
    (own : Own Local) : List (Deed Data Result) :=
  if own.guard then
    match command with
    | .access body => [.use (.change body)]
    | .unlock => [.call (.start .release)]
    | _ => []
  else
    match command.request? with
    | some (request, goal) =>
      taking goal shared.data (.start request) (lock.start request shared.lock own.state)
    | none => []

/-- What the thread does in its next turn, in this order. -/
def deeds (s : Threads LockShared Local Point Data Result n) (t : Fin n)
    (action : Action Entry (Command Data Result)) : List (Deed Data Result) :=
  match s.seat t, action with
  | .vacant, .join entry => [.call (.join entry)]
  | .idle _, .leave => [.call .leave]
  | .idle own, .start command => startDeeds lock command s.shared own
  | .waiting own (.acquiring point goal), .resume =>
    taking goal s.shared.data .resume (lock.resume point s.shared.lock own.state)
  | .waiting _ (.releasing ..), .resume => [.call .resume]
  | _, _ => []

def deedsAlong (s : Threads LockShared Local Point Data Result n) :
    Plan Data Result n → List (Fin n × Deed Data Result)
  | [] => []
  | (t, action) :: rest =>
    (deeds lock s t action).map (t, ·) ++ deedsAlong (s.step (protocol lock) t action).1 rest

def calls (done : List (Fin n × Deed Data Result)) : Schedule n :=
  done.filterMap fun
    | (t, .call action) => some (t, action)
    | (_, .use _) => none

/-- What the deeds come to for the data, where the lock tells by its answers whether it was taken or
given back. -/
def events (u : Usage LockShared Local Point n) :
    List (Fin n × Deed Data Result) → List (Event Data Result n)
  | [] => []
  | (t, .call action) :: rest =>
    (if (u.step lock t action).2.turnsOver then
      [if u.holds t then .released t else .granted t]
    else []) ++ events (u.step lock t action).1 rest
  | (t, .use use) :: rest => .used t use :: events u rest

def guards : Seat (Own Local) (Wait Point Data Result) → Bool
  | .idle own => own.guard
  | _ => false

/-- Nobody leaves with a guard, and code that only reads returns. -/
def permits (s : Threads LockShared Local Point Data Result n) (t : Fin n)
    (action : Action Entry (Command Data Result)) : Bool :=
  (match action with
    | .leave => !guards (s.seat t)
    | _ => true) &&
  (deeds lock s t action).all (Deed.returns s.shared.data)

def Along (P : Threads LockShared Local Point Data Result n → Fin n →
      Action Entry (Command Data Result) → Prop)
    (s : Threads LockShared Local Point Data Result n) : Plan Data Result n → Prop
  | [] => True
  | (t, action) :: rest => P s t action ∧ Along P (s.step (protocol lock) t action).1 rest

instance Along.decidable {P : Threads LockShared Local Point Data Result n → Fin n →
      Action Entry (Command Data Result) → Prop} [hP : ∀ s t action, Decidable (P s t action)]
    (s : Threads LockShared Local Point Data Result n) :
    (plan : Plan Data Result n) → Decidable (Along lock P s plan)
  | [] => inferInstanceAs (Decidable True)
  | (t, action) :: rest =>
    have := hP s t action
    have : Decidable (Along lock P (s.step (protocol lock) t action).1 rest) :=
      Along.decidable _ rest
    inferInstanceAs (Decidable (_ ∧ _))

abbrev Proper (s : Threads LockShared Local Point Data Result n) (plan : Plan Data Result n) :
    Prop :=
  Along lock (fun s t action => permits lock s t action = true) s plan

def lockSeat : Seat (Own Local) (Wait Point Data Result) → Seat Local Point
  | .vacant => .vacant
  | .idle own => .idle own.state
  | .waiting own (.acquiring point _) | .waiting own (.releasing point _) =>
    .waiting own.state point

/-- The threads use the lock as those do that only use the lock, and hold it while they keep a
guard. -/
structure Mirrors (s : Threads LockShared Local Point Data Result n)
    (u : Usage LockShared Local Point n) : Prop where
  shared_eq : u.shared = s.shared.lock
  seat_eq : ∀ t, u.seat t = lockSeat (s.seat t)
  holds_eq : ∀ t, u.holds t = guards (s.seat t)

def told : Except Fault Result → Answer (Reply Result)
  | .ok value => .done (.result value)
  | .error cause => .failed (.fault cause)

/-- A thread that uses the data in its turn is told what comes of it with the data as they are, and
no other thread keeps a guard then. A thread that does not use the data leaves them as they are. -/
structure Sees (s : Threads LockShared Local Point Data Result n) (t : Fin n)
    (action : Action Entry (Command Data Result)) : Prop where
  tells : ∀ use, Deed.use use ∈ deeds lock s t action →
    (s.step (protocol lock) t action).2 = told (use.outcome s.shared.data)
  alone : ∀ use, Deed.use use ∈ deeds lock s t action → ∀ r, guards (s.seat r) = true → r = t
  keeps : (∀ use, Deed.use use ∉ deeds lock s t action) →
    (s.step (protocol lock) t action).1.shared.data = s.shared.data

variable {lock} {u : Usage LockShared Local Point n}

theorem calls_append (earlier later : List (Fin n × Deed Data Result)) :
    calls (earlier ++ later) = calls earlier ++ calls later :=
  List.filterMap_append ..

theorem events_append (earlier later : List (Fin n × Deed Data Result)) :
    events lock u (earlier ++ later) =
      events lock u earlier ++ events lock (u.run lock (calls earlier)).1 later := by
  induction earlier generalizing u with
  | nil => rfl
  | cons deed rest ih =>
    obtain ⟨t, action | use⟩ := deed
    · simp only [List.cons_append, events, ih, List.append_assoc]
      rfl
    · simp only [List.cons_append, events, ih]
      rfl

theorem after_events {done : List (Fin n × Deed Data Result)}
    (h : ∀ t use, (t, Deed.use use) ∉ done) (data : Data) :
    (events lock u done).foldl Event.after data = data := by
  induction done generalizing u with
  | nil => rfl
  | cons deed rest ih =>
    have hrest : ∀ t use, (t, Deed.use use) ∉ rest := fun t use hm =>
      h t use (List.mem_cons_of_mem _ hm)
    obtain ⟨t, action | use⟩ := deed
    · rw [events, List.foldl_append]
      refine Eq.trans (congrArg (List.foldl _ · _) ?_) (ih hrest)
      split
      · split <;> rfl
      · rfl
    · exact absurd List.mem_cons_self (h t use)

end SpinLocks.Guarded
