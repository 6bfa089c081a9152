import SpinLocks.Proofs.Adapter.Stateless
import SpinLocks.Proofs.ReadWrite.Word

namespace SpinLocks

open ReadWrite (Access accessOf)

structure Outstanding (adapter : Adapter) (n : Nat) where
  system : System adapter.Shared Unit (Adapter.Wait adapter.Local adapter.Point) n
  asked : Fin n → Access
  count : Access → Nat

def Calls.unlocks (call : Option Command) : Bool :=
  call.any Command.givesBack

namespace Outstanding

variable {adapter : Adapter} {n : Nat}

def opening (adapter : Adapter) (n : Nat) : Outstanding adapter n :=
  ⟨⟨adapter.free, Vector.replicate n (.idle ())⟩, fun _ => .writing, fun _ => 0⟩

abbrev shared (u : Outstanding adapter n) : adapter.Shared := u.system.shared

abbrev seat (u : Outstanding adapter n) (t : Fin n) :
    Seat Unit (Adapter.Wait adapter.Local adapter.Point) := u.system.seat t

/-- The adapter has the call, and where it unlocks, a lock of its kind is outstanding. -/
def Permits (u : Outstanding adapter n) : Option Command → Prop
  | none => True
  | some command => (∃ name, adapter.command? name = some command) ∧
    (command.givesBack = true → 0 < u.count (accessOf command))

def access (u : Outstanding adapter n) (t : Fin n) (call : Option Command) : Access :=
  (call.map accessOf).getD (u.asked t)

def askedAfter (u : Outstanding adapter n) (t : Fin n) (call : Option Command)
    (answer : Answer Reply) : Fin n → Access :=
  if answer = .waiting then Function.update u.asked t (u.access t call) else u.asked

def countAfter (u : Outstanding adapter n) (t : Fin n) (call : Option Command)
    (answer : Answer Reply) : Access → Nat :=
  let count := u.count (u.access t call)
  if answer.turnsOver then
    Function.update u.count (u.access t call)
      (if Calls.unlocks call then count - 1 else count + 1)
  else u.count

def step (u : Outstanding adapter n) (t : Fin n) (call : Option Command) :
    Outstanding adapter n × Answer Reply :=
  let (system, answer) := u.system.step adapter.protocol t (Calls.action call)
  (⟨system, u.askedAfter t call answer, u.countAfter t call answer⟩, answer)

def run (u : Outstanding adapter n) : Calls n → Outstanding adapter n × List (Answer Reply)
  | [] => (u, [])
  | (t, call) :: rest =>
    let (u, answer) := u.step t call
    let (u, answers) := run u rest
    (u, answer :: answers)

def Proper (u : Outstanding adapter n) : Calls n → Prop
  | [] => True
  | (t, call) :: rest => u.Permits call ∧ (u.step t call).1.Proper rest

/-- What is outstanding is told beside the run: the threads are run as ever. -/
theorem run_eq (u : Outstanding adapter n) (calls : Calls n) :
    ((u.run calls).1.system, (u.run calls).2) =
      u.system.run adapter.protocol (Calls.actions calls) := by
  induction calls generalizing u with
  | nil => rfl
  | cons step rest ih =>
    obtain ⟨t, call⟩ := step
    have h := ih (u.step t call).1
    rw [Prod.ext_iff] at h ⊢
    exact ⟨h.1, congrArg (_ :: ·) h.2⟩

def settle (u : Outstanding adapter n) (t : Fin n) (call : Option Command)
    (turn : LockTurn adapter.Shared adapter.Local adapter.Point) : Outstanding adapter n :=
  ⟨{ u.system with shared := turn.shared }.place t (Adapter.carry turn).seat,
    u.askedAfter t call turn.answer, u.countAfter t call turn.answer⟩

theorem seat_opening (adapter : Adapter) (t : Fin n) : (opening adapter n).seat t = .idle () := by
  simp [opening, Outstanding.seat, System.seat]

variable {u : Outstanding adapter n} {t : Fin n} {call : Option Command}
  {turn : LockTurn adapter.Shared adapter.Local adapter.Point}

theorem answer_carry : (Adapter.carry turn).answer = turn.answer := by
  obtain ⟨shared, own, ending⟩ := turn
  cases ending <;> rfl

theorem seat_settle (s : Fin n) :
    (u.settle t call turn).seat s = if s = t then (Adapter.carry turn).seat else u.seat s := by
  simp only [settle, Outstanding.seat, System.seat_place, eq_comm (a := s)]
  rfl

theorem settle_self {own : Unit} {wait : Adapter.Wait adapter.Local adapter.Point}
    (hs : u.seat t = .waiting own wait) :
    u.settle t none ⟨u.shared, wait.own, .waiting wait.point⟩ = u := by
  have hself : u.system.place t (.waiting () wait) = u.system := System.place_self hs
  have hseats : u.system.seats.set t (.waiting () wait) = u.system.seats :=
    congrArg System.seats hself
  have hasked : u.askedAfter t none .waiting = u.asked := Function.update_eq_self t u.asked
  simp only [settle, Adapter.carry, Turn.seat, Turn.answer, System.place, hseats, hasked]
  rfl

variable (u t call turn) in
theorem asked_settle (s : Fin n) :
    (u.settle t call turn).asked s = u.asked s ∨
      s = t ∧ (u.settle t call turn).asked s = u.access t call := by
  show u.askedAfter t call turn.answer s = _ ∨ _ ∧ u.askedAfter t call turn.answer s = _
  unfold askedAfter
  by_cases hw : turn.answer = .waiting
  · rw [if_pos hw]
    by_cases hst : s = t
    · exact .inr ⟨hst, by rw [hst, Function.update_self]⟩
    · exact .inl (Function.update_of_ne hst ..)
  · rw [if_neg hw]
    exact .inl rfl

theorem asked_settle_self (h : turn.answer = .waiting) :
    (u.settle t call turn).asked t = u.access t call := by
  show u.askedAfter t call turn.answer t = _
  rw [askedAfter, if_pos h, Function.update_self]

variable (u t call) in
theorem count_settle_of_not (h : turn.answer.turnsOver = false) :
    (u.settle t call turn).count = u.count :=
  if_neg (by simp [h])

variable (u t) in
theorem count_settle_lock (h : turn.answer.turnsOver = true) (hu : Calls.unlocks call = false) :
    (u.settle t call turn).count =
      Function.update u.count (u.access t call) (u.count (u.access t call) + 1) := by
  show u.countAfter t call turn.answer = _
  simp [countAfter, h, hu]

variable (u t) in
theorem count_settle_unlock (h : turn.answer.turnsOver = true) (hu : Calls.unlocks call = true) :
    (u.settle t call turn).count =
      Function.update u.count (u.access t call) (u.count (u.access t call) - 1) := by
  show u.countAfter t call turn.answer = _
  simp [countAfter, h, hu]

theorem step_start {own : Unit} (hs : u.seat t = .idle own) (command : Command) :
    u.step t (some command) =
      (u.settle t (some command) (adapter.lock.start command u.shared adapter.fresh),
        (adapter.lock.start command u.shared adapter.fresh).answer) := by
  have hs : u.system.seat t = .idle own := hs
  simp only [step, Calls.action, Option.elim, System.step, System.start, hs, System.settle_eq,
    Adapter.protocol, answer_carry]
  rfl

theorem step_cases (u : Outstanding adapter n) (t : Fin n) (call : Option Command) :
    (∃ cause, u.step t call = (u, .refused cause)) ∨
      (∃ command own, call = some command ∧ u.seat t = .idle own ∧
        u.step t call = (u.settle t call (adapter.lock.start command u.shared adapter.fresh),
          (adapter.lock.start command u.shared adapter.fresh).answer)) ∨
      ∃ own wait, call = none ∧ u.seat t = .waiting own wait ∧
        u.step t call = (u.settle t call (adapter.lock.resume wait.point u.shared wait.own),
          (adapter.lock.resume wait.point u.shared wait.own).answer) := by
  cases hs : u.system.seat t with
  | vacant =>
    refine .inl ?_
    cases call with
    | none => exact ⟨.notWaiting, by simp [step, Calls.action, System.step, System.resume, hs]; rfl⟩
    | some command =>
      exact ⟨.noLocalState, by simp [step, Calls.action, System.step, System.start, hs]; rfl⟩
  | idle own =>
    cases call with
    | none =>
      exact .inl ⟨.notWaiting, by simp [step, Calls.action, System.step, System.resume, hs]; rfl⟩
    | some command =>
      exact .inr (.inl ⟨command, own, rfl, hs, step_start hs command⟩)
  | waiting own wait =>
    cases call with
    | none =>
      refine .inr (.inr ⟨own, wait, rfl, hs, ?_⟩)
      simp only [step, Calls.action, Option.elim, System.step, System.resume, hs, System.settle_eq,
        Adapter.protocol, answer_carry]
      rfl
    | some command =>
      exact .inl ⟨.waiting, by simp [step, Calls.action, System.step, System.start, hs]; rfl⟩

theorem run_induction (Inv : Outstanding adapter n → Prop)
    (hstep : ∀ u t call, Inv u → u.Permits call → Inv (u.step t call).1)
    (h : Inv u) {calls : Calls n} (hp : u.Proper calls) : Inv (u.run calls).1 := by
  induction calls generalizing u with
  | nil => exact h
  | cons step rest ih =>
    obtain ⟨t, call⟩ := step
    exact ih (hstep u t call h hp.1) hp.2

end Outstanding

end SpinLocks
