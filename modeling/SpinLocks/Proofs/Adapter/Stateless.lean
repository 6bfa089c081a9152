import SpinLocks.Adapter
import SpinLocks.Proofs.TestAndSet
import SpinLocks.Proofs.Ticket.Word

namespace SpinLocks

variable {n : Nat}

abbrev Calls (n : Nat) := List (Fin n × Option Command)

def Calls.action {Entry : Type} (call : Option Command) : Action Entry Command :=
  call.elim .resume .start

def Calls.actions {Entry : Type} (calls : Calls n) : List (Fin n × Action Entry Command) :=
  calls.map fun (t, call) => (t, action call)

section Lock

variable {Shared Own Wait : Type}

/-- The turns change the shared state alike and end alike. Where they end waiting, the private
states agree that they leave. -/
structure Turn.Alike (R : Own → Own → Prop) (turn turn' : LockTurn Shared Own Wait) : Prop where
  shared_eq : turn.shared = turn'.shared
  ending_eq : turn.ending = turn'.ending
  agree : ∀ point, turn.ending = .waiting point → R turn.own turn'.own

/-- Commands may begin with any private state. Those that wait go on with states that agree. -/
structure Stateless (lock : Lock Shared Own Wait) (R : Own → Own → Prop) : Prop where
  start : ∀ command shared own own',
    (lock.start command shared own).Alike R (lock.start command shared own')
  resume : ∀ point shared own own', R own own' →
    (lock.resume point shared own).Alike R (lock.resume point shared own')

theorem Turn.Alike.exclusive {R : Own → Own → Prop} {command : Command} {shared : Shared}
    {own own' : Own} {acquire release tryAcquire : Shared → Own → LockTurn Shared Own Wait}
    (hacquire : (acquire shared own).Alike R (acquire shared own'))
    (hrelease : (release shared own).Alike R (release shared own'))
    (htry : (tryAcquire shared own).Alike R (tryAcquire shared own')) :
    (command.exclusive shared own acquire release tryAcquire).Alike R
      (command.exclusive shared own' acquire release tryAcquire) := by
  cases command
  case acquire | acquireRead | acquireWrite => exact hacquire
  case release | releaseRead | releaseWrite => exact hrelease
  case tryAcquire => exact htry
  case tryAcquireRead => exact ⟨rfl, rfl, by rintro _ ⟨⟩⟩

end Lock

section Locks

theorem TestAndSet.alike_acquire {Own : Type} (raised : Bool) (own own' : Own) :
    (TestAndSet.acquire raised own).Alike (fun _ _ => True) (TestAndSet.acquire raised own') := by
  unfold TestAndSet.acquire
  split <;> exact ⟨rfl, rfl, fun _ _ => trivial⟩

theorem TestAndSet.alike_start {Own : Type} (command : Command) (raised : Bool) (own own' : Own) :
    (TestAndSet.start command raised own).Alike (fun _ _ => True)
      (TestAndSet.start command raised own') :=
  .exclusive (alike_acquire raised own own') ⟨rfl, rfl, fun _ _ => trivial⟩
    ⟨rfl, rfl, fun _ _ => trivial⟩

theorem TestAndSet.OneFlag.stateless {Own : Type} {lock : Lock Bool Own Wait} (hl : OneFlag lock) :
    Stateless lock fun _ _ => True where
  start := hl.start ▸ alike_start
  resume point raised own own' _ := by
    rw [hl.resume]
    cases point
    exact alike_acquire raised own own'

theorem ReadWrite.alike_start (command : Command) (word : Word) (own own' : Backoff) :
    (start command word own).Alike (fun _ _ => True) (start command word own') := by
  cases command
  case acquire | acquireWrite =>
    simp only [start, acquireWrite]
    split <;> exact ⟨rfl, rfl, fun _ _ => trivial⟩
  case acquireRead =>
    simp only [start, acquireRead]
    split <;> exact ⟨rfl, rfl, fun _ _ => trivial⟩
  case tryAcquire =>
    simp only [start, tryWrite]
    split <;> exact ⟨rfl, rfl, fun _ _ => trivial⟩
  case tryAcquireRead =>
    simp only [start, tryRead]
    split <;> exact ⟨rfl, rfl, fun _ _ => trivial⟩
  case release | releaseWrite | releaseRead => exact ⟨rfl, rfl, fun _ _ => trivial⟩

theorem stateless_readWrite : Stateless readWrite fun _ _ => True where
  start := ReadWrite.alike_start
  resume point word own own' _ := by
    cases point with
    | reading => exact ReadWrite.alike_start .acquireRead word own own'
    | writing => exact ReadWrite.alike_start .acquireWrite word own own'

theorem Ticket.alike_await {own own' : Own} (h : own.ticket = own'.ticket) (word : Word) :
    (await word own).Alike (fun own own' => own.ticket = own'.ticket) (await word own') := by
  unfold await
  rw [h]
  split
  · exact ⟨rfl, rfl, by rintro _ ⟨⟩⟩
  · exact ⟨rfl, rfl, fun _ _ => h⟩

theorem Ticket.alike_acquire (word : Word) (own own' : Own) :
    (acquire word own).Alike (fun own own' => own.ticket = own'.ticket) (acquire word own') := by
  unfold acquire
  refine alike_await ?_ word.draw
  rfl

theorem Ticket.alike_tryAcquire (word : Word) (own own' : Own) :
    (tryAcquire word own).Alike (fun own own' => own.ticket = own'.ticket)
      (tryAcquire word own') := by
  unfold tryAcquire
  split <;> exact ⟨rfl, rfl, by rintro _ ⟨⟩⟩

theorem stateless_ticket : Stateless ticket fun own own' => own.ticket = own'.ticket where
  start _ word own own' :=
    .exclusive (Ticket.alike_acquire word own own') ⟨rfl, rfl, by rintro _ ⟨⟩⟩
      (Ticket.alike_tryAcquire word own own')
  resume point word own own' h := by cases point; exact Ticket.alike_await h word

end Locks

variable {adapter : Adapter} {R : adapter.Local → adapter.Local → Prop}

/-- A thread that brings no state along stands where the thread stands that keeps one. -/
def Beside (R : adapter.Local → adapter.Local → Prop) :
    Seat Unit (Adapter.Wait adapter.Local adapter.Point) →
      Seat adapter.Local adapter.Point → Prop
  | .idle _, .idle _ => True
  | .waiting _ wait, .waiting own point => wait.point = point ∧ R wait.own own
  | _, _ => False

structure Shadows (R : adapter.Local → adapter.Local → Prop)
    (s : System adapter.Shared Unit (Adapter.Wait adapter.Local adapter.Point) n)
    (kept : System adapter.Shared adapter.Local adapter.Point n) : Prop where
  shared_eq : s.shared = kept.shared
  beside : ∀ t, Beside R (s.seat t) (kept.seat t)

namespace Shadows

variable {s : System adapter.Shared Unit (Adapter.Wait adapter.Local adapter.Point) n}
  {kept : System adapter.Shared adapter.Local adapter.Point n} {t : Fin n}

theorem place (h : Shadows R s kept) (shared : adapter.Shared)
    {seat : Seat Unit (Adapter.Wait adapter.Local adapter.Point)}
    {seat' : Seat adapter.Local adapter.Point} (hseat : Beside R seat seat') :
    Shadows R (({ s with shared } : System ..).place t seat)
      (({ kept with shared } : System ..).place t seat') where
  shared_eq := rfl
  beside := by
    intro u
    rw [System.seat_place, System.seat_place]
    split
    · exact hseat
    · exact h.beside u

theorem settle (h : Shadows R s kept)
    {turn turn' : LockTurn adapter.Shared adapter.Local adapter.Point} (ha : turn.Alike R turn') :
    Shadows R (s.settle t (Adapter.carry turn)).1 (kept.settle t turn').1 ∧
      (s.settle t (Adapter.carry turn)).2 = (kept.settle t turn').2 := by
  obtain ⟨shared, own, ending⟩ := turn
  obtain ⟨shared', own', ending'⟩ := turn'
  obtain ⟨rfl, rfl, hagree⟩ := ha
  cases ending with
  | done reply => exact ⟨h.place _ trivial, rfl⟩
  | waiting point => exact ⟨h.place _ ⟨rfl, hagree point rfl⟩, rfl⟩
  | failed why => exact ⟨h.place _ trivial, rfl⟩

theorem step (hl : Stateless adapter.lock R) (h : Shadows R s kept) (call : Option Command) :
    Shadows R (s.step adapter.protocol t (Calls.action call)).1
        (kept.step adapter.lock.protocol t (Calls.action call)).1 ∧
      (s.step adapter.protocol t (Calls.action call)).2 =
        (kept.step adapter.lock.protocol t (Calls.action call)).2 := by
  have hb := h.beside t
  cases hs : s.seat t <;> cases hk : kept.seat t <;> rw [hs, hk] at hb
  case idle.idle own own' =>
    cases call with
    | none => simpa [Calls.action, System.step, System.resume, hs, hk] using h
    | some command =>
      have ha := hl.start command s.shared adapter.fresh own'
      simp only [Calls.action, Option.elim, System.step, System.start, hs, hk, ← h.shared_eq]
      exact h.settle ha
  case waiting.waiting wait own point =>
    obtain ⟨rfl, hr⟩ := hb
    cases call with
    | none =>
      have ha := hl.resume wait.point s.shared wait.own own hr
      simp only [Calls.action, Option.elim, System.step, System.resume, hs, hk, ← h.shared_eq]
      exact h.settle ha
    | some command => simpa [Calls.action, System.step, System.start, hs, hk] using h
  all_goals cases hb

theorem run (hl : Stateless adapter.lock R) (h : Shadows R s kept) (calls : Calls n) :
    Shadows R (s.run adapter.protocol (Calls.actions calls)).1
        (kept.run adapter.lock.protocol (Calls.actions calls)).1 ∧
      (s.run adapter.protocol (Calls.actions calls)).2 =
        (kept.run adapter.lock.protocol (Calls.actions calls)).2 := by
  induction calls generalizing s kept with
  | nil => exact ⟨h, rfl⟩
  | cons step rest ih =>
    obtain ⟨t, call⟩ := step
    obtain ⟨h', he⟩ := h.step (t := t) hl call
    obtain ⟨hlast, hanswers⟩ := ih h'
    exact ⟨hlast, List.cons_eq_cons.mpr ⟨he, hanswers⟩⟩

end Shadows

end SpinLocks
