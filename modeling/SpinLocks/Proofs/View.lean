import SpinLocks.Proofs.Usage

namespace SpinLocks

variable {Shared Shared' Own Own' Wait Entry Command Reply : Type} {n : Nat}

def Turn.map (f : Shared → Shared') (g : Own → Own') (turn : Turn Shared Own Wait Reply) :
    Turn Shared' Own' Wait Reply :=
  ⟨f turn.shared, g turn.own, turn.ending⟩

@[simp]
theorem Turn.shared_map (f : Shared → Shared') (g : Own → Own')
    (turn : Turn Shared Own Wait Reply) : (turn.map f g).shared = f turn.shared := rfl

@[simp]
theorem Turn.own_map (f : Shared → Shared') (g : Own → Own') (turn : Turn Shared Own Wait Reply) :
    (turn.map f g).own = g turn.own := rfl

def Seat.map (g : Own → Own') : Seat Own Wait → Seat Own' Wait
  | .vacant => .vacant
  | .idle own => .idle (g own)
  | .waiting own point => .waiting (g own) point

def System.map (f : Shared → Shared') (g : Own → Own') (s : System Shared Own Wait n) :
    System Shared' Own' Wait n :=
  ⟨f s.shared, s.seats.map (Seat.map g)⟩

theorem Command.exclusive_map {f : Shared → Shared'} {g : Own → Own'} {shared : Shared} {own : Own}
    {acquire release tryAcquire : Shared → Own → LockTurn Shared Own Wait}
    {acquire' release' tryAcquire' : Shared' → Own' → LockTurn Shared' Own' Wait}
    (hacquire : (acquire shared own).map f g = acquire' (f shared) (g own))
    (hrelease : (release shared own).map f g = release' (f shared) (g own))
    (htry : (tryAcquire shared own).map f g = tryAcquire' (f shared) (g own))
    (command : SpinLocks.Command) :
    (command.exclusive shared own acquire release tryAcquire).map f g =
      command.exclusive (f shared) (g own) acquire' release' tryAcquire' := by
  cases command
  case acquire | acquireRead | acquireWrite => exact hacquire
  case release | releaseRead | releaseWrite => exact hrelease
  case tryAcquire => exact htry
  case tryAcquireRead => rfl

/-- Through the maps, the first protocol looks like the second. -/
structure Protocol.Views (p : Protocol Shared Own Wait Entry Command Reply)
    (p' : Protocol Shared' Own' Wait Entry Command Reply) (f : Shared → Shared')
    (g : Own → Own') : Prop where
  join : ∀ entry shared, p'.join entry (f shared) = (p.join entry shared).map f (Except.map g)
  leave : ∀ shared own, p'.leave (f shared) (g own) = (p.leave shared own).map f id
  start : ∀ command shared own,
    p'.start command (f shared) (g own) = (p.start command shared own).map f g
  resume : ∀ point shared own,
    p'.resume point (f shared) (g own) = (p.resume point shared own).map f g

namespace System

variable (f : Shared → Shared') (g : Own → Own') (s : System Shared Own Wait n) (t : Fin n)

theorem shared_map : (s.map f g).shared = f s.shared := rfl

theorem seat_map : (s.map f g).seat t = (s.seat t).map g := by
  simp [map, seat]

theorem map_place (shared : Shared) (seat : Seat Own Wait) :
    ({ s with shared }.place t seat).map f g =
      { s.map f g with shared := f shared }.place t (seat.map g) := by
  simp [map, place, Vector.map_set]

theorem map_settle (turn : Turn Shared Own Wait Reply) :
    (s.map f g).settle t (turn.map f g) =
      (s.settle t turn).map (System.map f g) id := by
  obtain ⟨shared, own, ending⟩ := turn
  cases ending <;> simp only [settle, Turn.map, Prod.map, map_place] <;> rfl

end System

namespace Protocol.Views

variable {p : Protocol Shared Own Wait Entry Command Reply}
  {p' : Protocol Shared' Own' Wait Entry Command Reply} {f : Shared → Shared'} {g : Own → Own'}
  (h : p.Views p' f g) (s : System Shared Own Wait n) (t : Fin n)
include h

theorem step_join (entry : Entry) :
    (s.map f g).join p' t entry = (s.join p t entry).map (System.map f g) id := by
  simp only [System.join, System.seat_map]
  cases s.seat t with
  | vacant =>
    simp only [Seat.map, System.shared_map, h.join]
    rcases p.join entry s.shared with ⟨shared, _ | own⟩
    · rfl
    · exact Prod.ext (s.map_place f g t shared (.idle own)).symm rfl
  | idle | waiting => rfl

theorem step_leave : (s.map f g).leave p' t = (s.leave p t).map (System.map f g) id := by
  simp only [System.leave, System.seat_map]
  cases s.seat t with
  | idle own =>
    simp only [Seat.map, System.shared_map, h.leave]
    rcases p.leave s.shared own with ⟨shared, _ | cause⟩ <;>
      exact Prod.ext (s.map_place f g t shared .vacant).symm rfl
  | vacant | waiting => rfl

theorem step_start (command : Command) :
    (s.map f g).start p' t command = (s.start p t command).map (System.map f g) id := by
  simp only [System.start, System.seat_map]
  cases s.seat t with
  | idle own =>
    simp only [Seat.map, System.shared_map, h.start]
    exact s.map_settle f g t _
  | vacant | waiting => rfl

theorem step_resume : (s.map f g).resume p' t = (s.resume p t).map (System.map f g) id := by
  simp only [System.resume, System.seat_map]
  cases s.seat t with
  | waiting own point =>
    simp only [Seat.map, System.shared_map, h.resume]
    exact s.map_settle f g t _
  | vacant | idle => rfl

theorem step (action : Action Entry Command) :
    (s.map f g).step p' t action = (s.step p t action).map (System.map f g) id := by
  cases action with
  | join entry => exact h.step_join s t entry
  | leave => exact h.step_leave s t
  | start command => exact h.step_start s t command
  | resume => exact h.step_resume s t

theorem run (schedule : List (Fin n × Action Entry Command)) :
    (s.map f g).run p' schedule = (s.run p schedule).map (System.map f g) id := by
  induction schedule generalizing s with
  | nil => rfl
  | cons step rest ih =>
    obtain ⟨t, action⟩ := step
    simp only [System.run, h.step, Prod.map, ih, id]

end Protocol.Views

end SpinLocks
