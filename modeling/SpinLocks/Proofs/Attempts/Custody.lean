import SpinLocks.Proofs.History
import SpinLocks.Proofs.ReadWrite.Word

namespace SpinLocks

open ReadWrite (Access)

variable {Shared Own Wait : Type} {n : Nat}

def Action.givesBack : Action Entry Command → Bool
  | .start command => command.givesBack
  | _ => false

structure Custody (Shared Own Wait : Type) (n : Nat) where
  system : System Shared Own Wait n
  asked : Fin n → Access
  /-- How often each thread was granted each access and has not given it back. -/
  held : Fin n → Access → Nat

namespace Custody

def opening (lock : Lock Shared Own Wait) (config : Config) (n : Nat) : Custody Shared Own Wait n :=
  ⟨System.init n (lock.create config), fun _ => .writing, fun _ _ => 0⟩

abbrev shared (g : Custody Shared Own Wait n) : Shared := g.system.shared

abbrev seat (g : Custody Shared Own Wait n) (t : Fin n) : Seat Own Wait := g.system.seat t

def waits (g : Custody Shared Own Wait n) (t : Fin n) : Bool := (g.seat t).waits

def idles (g : Custody Shared Own Wait n) (t : Fin n) : Bool :=
  (g.seat t).own?.isSome && !g.waits t

/-- The thread has the lock as a writer, and nobody else has it. -/
def Alone (g : Custody Shared Own Wait n) (t : Fin n) : Prop :=
  ∀ s access, g.held s access = if s = t ∧ access = .writing then 1 else 0

def Nobody (g : Custody Shared Own Wait n) : Prop :=
  ∀ t access, g.held t access = 0

section Step

variable (lock : Lock Shared Own Wait) (accessOf : Command → Access)

def access (g : Custody Shared Own Wait n) (t : Fin n) : Action Entry Command → Access
  | .start command => accessOf command
  | _ => g.asked t

/-- A thread gives back what it has, leaves with nothing, and does not wait for what its own access
keeps it from. An attempt is always permitted. -/
def permits (g : Custody Shared Own Wait n) (t : Fin n) : Action Entry Command → Bool
  | .join _ | .resume => true
  | .leave => g.held t .reading = 0 ∧ g.held t .writing = 0
  | .start command =>
    if command.givesBack then 0 < g.held t (accessOf command)
    else if command.asks then
      g.held t .writing = 0 ∧ (accessOf command = .writing → g.held t .reading = 0)
    else true

def heldAfter (g : Custody Shared Own Wait n) (t : Fin n) (action : Action Entry Command)
    (answer : Answer Reply) : Fin n → Access → Nat :=
  let access := g.access accessOf t action
  let count := g.held t access
  if answer.turnsOver then
    Function.update g.held t
      (Function.update (g.held t) access (if action.givesBack then count - 1 else count + 1))
  else g.held

def step (g : Custody Shared Own Wait n) (t : Fin n) (action : Action Entry Command) :
    Custody Shared Own Wait n × Answer Reply :=
  let (system, answer) := g.system.step lock.protocol t action
  (⟨system,
    if answer = .waiting then Function.update g.asked t (g.access accessOf t action) else g.asked,
    g.heldAfter accessOf t action answer⟩, answer)

def run (g : Custody Shared Own Wait n) :
    Schedule n → Custody Shared Own Wait n × List (Answer Reply)
  | [] => (g, [])
  | (t, action) :: rest =>
    let (g, answer) := g.step lock accessOf t action
    let (g, answers) := run g rest
    (g, answer :: answers)

def proper (g : Custody Shared Own Wait n) : Schedule n → Bool
  | [] => true
  | (t, action) :: rest =>
    g.permits accessOf t action && (g.step lock accessOf t action).1.proper rest

/-- What the threads have is told beside the run: they are run as ever. -/
theorem run_eq (g : Custody Shared Own Wait n) (schedule : Schedule n) :
    ((g.run lock accessOf schedule).1.system, (g.run lock accessOf schedule).2) =
      g.system.run lock.protocol schedule := by
  induction schedule generalizing g with
  | nil => rfl
  | cons step rest ih =>
    obtain ⟨t, action⟩ := step
    have h := ih (g.step lock accessOf t action).1
    rw [Prod.ext_iff] at h ⊢
    exact ⟨h.1, congrArg (_ :: ·) h.2⟩

end Step

variable {lock : Lock Shared Own Wait} {accessOf : Command → Access}
  {g : Custody Shared Own Wait n} {t s : Fin n} {own : Own} {action : Action Entry Command}

theorem idle_of_idles (h : g.idles t = true) : ∃ own, g.seat t = .idle own := by
  unfold idles waits at h
  cases hs : g.seat t with
  | vacant | waiting => simp [hs, Seat.own?, Seat.waits] at h
  | idle own => exact ⟨own, rfl⟩

theorem held_step : (g.step lock accessOf t action).1.held =
    g.heldAfter accessOf t action (g.step lock accessOf t action).2 := rfl

theorem asked_step : (g.step lock accessOf t action).1.asked =
    if (g.step lock accessOf t action).2 = .waiting then
      Function.update g.asked t (g.access accessOf t action)
    else g.asked := rfl

variable (lock accessOf) in
theorem step_start (hs : g.seat t = .idle own) (command : Command) :
    (g.step lock accessOf t (.start command)).1.system =
        { g.system with shared := (lock.start command g.shared own).shared }.place t
          (lock.start command g.shared own).seat ∧
      (g.step lock accessOf t (.start command)).2 =
        (lock.start command g.shared own).answer := by
  have hs' : g.system.seat t = .idle own := hs
  simp only [step, System.step, System.start, hs', System.settle_eq]
  exact ⟨rfl, rfl⟩

/-- A step that changes neither the lock nor the thread, and by which nothing is granted, given back
or waited for, changes nothing at all. -/
theorem step_self (hsystem : (g.system.step lock.protocol t action).1 = g.system)
    (hover : (g.system.step lock.protocol t action).2.turnsOver = false)
    (hw : (g.system.step lock.protocol t action).2 ≠ .waiting) :
    (g.step lock accessOf t action).1 = g := by
  simp only [step, heldAfter, hsystem, hover, if_neg hw]
  rfl

theorem step_start_self {command : Command} {turn : LockTurn Shared Own Wait}
    (hs : g.seat t = .idle own) (hturn : lock.start command g.shared own = turn)
    (hshared : turn.shared = g.shared) (hseat : turn.seat = .idle own)
    (hover : turn.answer.turnsOver = false) :
    (g.step lock accessOf t (.start command)).1 = g := by
  have hs' : g.system.seat t = .idle own := hs
  have hturn' : lock.start command g.system.shared own = turn := hturn
  have hplace : { g.system with shared := g.shared }.place t (.idle own) = g.system :=
    System.place_self hs'
  have hstep : g.system.step lock.protocol t (.start command) = (g.system, turn.answer) := by
    simp only [System.step, System.start, hs', Lock.protocol, hturn', System.settle_eq, hshared,
      hseat, hplace]
  refine step_self ?_ ?_ ?_
  · rw [hstep]
  · rw [hstep]
    exact hover
  · rw [hstep]
    intro hw
    obtain ⟨shared, own', ending⟩ := turn
    cases ending with
    | waiting point => cases hseat
    | done | failed => cases hw

theorem step_refused {cause : Refusal} (h : (g.seat t).refusal? action = some cause) :
    (g.step lock accessOf t action).1 = g := by
  have hstep := System.step_refused lock.protocol h
  refine step_self ?_ ?_ ?_
  · rw [hstep]
  · rw [hstep]
    rfl
  · rw [hstep]
    rintro ⟨⟩

theorem not_turnsOver_join (entry : Entry) :
    (g.step lock accessOf t (.join entry)).2.turnsOver = false :=
  Usage.not_turnsOver_join (u := ⟨g.system, fun _ => false⟩) entry

theorem not_turnsOver_leave : (g.step lock accessOf t .leave).2.turnsOver = false :=
  Usage.not_turnsOver_leave (u := ⟨g.system, fun _ => false⟩)

theorem seat_step_of_ne (h : s ≠ t) : (g.step lock accessOf t action).1.seat s = g.seat s :=
  System.seat_step_of_ne h action

theorem held_step_of_ne (h : s ≠ t) : (g.step lock accessOf t action).1.held s = g.held s := by
  rw [held_step, heldAfter]
  split
  · exact Function.update_of_ne h ..
  · rfl

end Custody

end SpinLocks
