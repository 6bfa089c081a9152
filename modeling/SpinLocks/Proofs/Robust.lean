import SpinLocks.Proofs.Usage

namespace SpinLocks

variable {Shared Own Wait : Type} {n : Nat}

/-- The turn leaves states that are sound, and no check fails in it. -/
structure Turn.Sound (S : Shared → Prop) (O : Own → Prop) (turn : LockTurn Shared Own Wait) :
    Prop where
  shared : S turn.shared
  own : O turn.own
  faultless : turn.answer.faults = false

/-- Whatever a thread does, it keeps the states sound, and no check fails. -/
structure Robust (lock : Lock Shared Own Wait) (S : Shared → Prop) (O : Own → Prop) : Prop where
  join : ∀ entry shared, S shared →
    S (lock.join entry shared).1 ∧ ∀ own, (lock.join entry shared).2 = .ok own → O own
  leave : ∀ shared own, S shared → O own →
    S (lock.leave shared own).1 ∧ (lock.leave shared own).2 = none
  start : ∀ command shared own, S shared → O own → (lock.start command shared own).Sound S O
  resume : ∀ point shared own, S shared → O own → (lock.resume point shared own).Sound S O

structure System.Sound (S : Shared → Prop) (O : Own → Prop) (s : System Shared Own Wait n) :
    Prop where
  shared : S s.shared
  own : ∀ t own, (s.seat t).own? = some own → O own

variable {lock : Lock Shared Own Wait} {S : Shared → Prop} {O : Own → Prop}
  {s : System Shared Own Wait n} {t : Fin n}

/-- It is enough to look after the commands of a lock that knows exclusive access only. -/
theorem Turn.Sound.exclusive {command : Command} {shared : Shared} {own : Own}
    {acquire release tryAcquire : Shared → Own → LockTurn Shared Own Wait} (hs : S shared)
    (ho : O own) (hacquire : (acquire shared own).Sound S O)
    (hrelease : (release shared own).Sound S O) (htry : (tryAcquire shared own).Sound S O) :
    (command.exclusive shared own acquire release tryAcquire).Sound S O := by
  cases command
  case acquire | acquireRead | acquireWrite => exact hacquire
  case release | releaseRead | releaseWrite => exact hrelease
  case tryAcquire => exact htry
  case tryAcquireRead => exact ⟨hs, ho, rfl⟩

namespace System.Sound

theorem init {shared : Shared} (h : S shared) :
    (System.init n shared : System Shared Own Wait n).Sound S O := by
  refine ⟨h, fun t own ho => ?_⟩
  rw [seat_init] at ho
  cases ho

variable (h : s.Sound S O)
include h

theorem place {shared : Shared} {seat : Seat Own Wait} (hs : S shared)
    (hseat : ∀ own, seat.own? = some own → O own) :
    (({ s with shared } : System Shared Own Wait n).place t seat).Sound S O := by
  refine ⟨hs, fun u own ho => ?_⟩
  rw [seat_place] at ho
  split at ho
  · exact hseat own ho
  · exact h.own u own ho

theorem settle {turn : LockTurn Shared Own Wait} (ht : turn.Sound S O) :
    (s.settle t turn).1.Sound S O ∧ (s.settle t turn).2.faults = false := by
  rw [settle_eq]
  refine ⟨h.place ht.shared fun own ho => ?_, ht.faultless⟩
  obtain ⟨shared, own', ending⟩ := turn
  have he : own' = own := by cases ending <;> exact Option.some.inj ho
  exact he ▸ ht.own

theorem step (hl : Robust lock S O) (action : Action Entry Command) :
    (s.step lock.protocol t action).1.Sound S O ∧
      (s.step lock.protocol t action).2.faults = false := by
  obtain ⟨cause, hr⟩ | ⟨entry, rfl, hs⟩ | ⟨own, rfl, hs⟩ | ⟨own, command, rfl, hs⟩ |
    ⟨own, point, rfl, hs⟩ := (s.seat t).action_cases action
  · rw [step_refused lock.protocol hr]
    exact ⟨h, rfl⟩
  · obtain ⟨hshared, hown⟩ := hl.join entry s.shared h.shared
    simp only [System.step, System.join, hs, Lock.protocol]
    cases hj : (lock.join entry s.shared).2 with
    | ok own =>
      exact ⟨h.place hshared fun _ he => Option.some.inj he ▸ hown own hj, rfl⟩
    | error why => exact ⟨⟨hshared, h.own⟩, rfl⟩
  · obtain ⟨hshared, hnone⟩ := hl.leave s.shared own h.shared (h.own t own (by rw [hs]; rfl))
    have hleave : lock.leave s.shared own = ((lock.leave s.shared own).1, none) := by rw [← hnone]
    simp only [System.step, System.leave, hs, Lock.protocol]
    rw [hleave]
    exact ⟨h.place hshared (by simp [Seat.own?]), rfl⟩
  · simp only [System.step, System.start, hs]
    exact h.settle (hl.start command s.shared own h.shared (h.own t own (by rw [hs]; rfl)))
  · simp only [System.step, System.resume, hs]
    exact h.settle (hl.resume point s.shared own h.shared (h.own t own (by rw [hs]; rfl)))

theorem run (hl : Robust lock S O) (schedule : List (Fin n × Action Entry Command)) :
    (s.run lock.protocol schedule).1.Sound S O ∧
      ∀ answer ∈ (s.run lock.protocol schedule).2, answer.faults = false := by
  induction schedule generalizing s with
  | nil => exact ⟨h, by simp [System.run]⟩
  | cons step rest ih =>
    obtain ⟨t, action⟩ := step
    obtain ⟨hsound, hfaults⟩ := h.step (t := t) hl action
    obtain ⟨hlast, hgood⟩ := ih hsound
    exact ⟨hlast, List.forall_mem_cons.mpr ⟨hfaults, hgood⟩⟩

end System.Sound

end SpinLocks
