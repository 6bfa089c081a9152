import SpinLocks.Proofs.Attempts.Sound
import SpinLocks.Proofs.Guarded.Kinds

namespace SpinLocks

open Usage
open ReadWrite (Access)

variable {Shared Own Wait Part : Type} {n : Nat} {lock : Lock Shared Own Wait}
  {g : Custody Shared Own Wait n} {u : Usage Shared Own Wait n} {t : Fin n}
  {action : Action Entry Command}

abbrev exclusiveAccess : Command → Access := fun _ => .writing

theorem Usage.givesBack_of_turnsOver (hidle : ∀ t, u.holds t = true → ∃ own, u.seat t = .idle own)
    (hp : u.permits t action = true) (hover : (u.step lock t action).2.turnsOver = true) :
    u.holds t = action.givesBack := by
  obtain ⟨cause, -, he⟩ | ⟨entry, rfl, -⟩ | ⟨own, rfl, -⟩ | ⟨own, command, rfl, -⟩ |
    ⟨own, point, rfl, hs⟩ := step_cases lock u t action
  · rw [he] at hover
    cases hover
  · cases (not_turnsOver_join entry).symm.trans hover
  · cases not_turnsOver_leave.symm.trans hover
  · exact (beq_iff_eq.mp hp).symm
  · exact not_holds_waiting hidle hs

/-- The threads have the lock once where they hold it, and else not at all. -/
structure Matches (g : Custody Shared Own Wait n) (u : Usage Shared Own Wait n) : Prop where
  system_eq : u.system = g.system
  asked_eq : ∀ t, g.asked t = .writing
  held_eq : ∀ t access, g.held t access = if access = .writing then (u.holds t).toNat else 0

namespace Matches

theorem opening (lock : Lock Shared Own Wait) (config : Config) (n : Nat) :
    Matches (.opening lock config n) (Usage.opening lock config n) where
  system_eq := rfl
  asked_eq _ := rfl
  held_eq t access := by cases access <;> rfl

variable (h : Matches g u)
include h

theorem seat_eq (t : Fin n) : u.seat t = g.seat t :=
  congrArg (·.seat t) h.system_eq

theorem waits_eq (t : Fin n) : u.waits t = g.waits t :=
  congrArg Seat.waits (h.seat_eq t)

theorem shared_eq : u.shared = g.shared :=
  congrArg System.shared h.system_eq

theorem access_eq (t : Fin n) (action : Action Entry Command) :
    g.access exclusiveAccess t action = .writing := by
  cases action <;> first | rfl | exact h.asked_eq t

theorem answer_eq (t : Fin n) (action : Action Entry Command) :
    (g.step lock exclusiveAccess t action).2 = (u.step lock t action).2 := by
  have hsystem : (u.step lock t action).2 = (u.system.step lock.protocol t action).2 := rfl
  rw [hsystem, h.system_eq]
  rfl

theorem step (hgives : (u.step lock t action).2.turnsOver = true → u.holds t = action.givesBack) :
    Matches (g.step lock exclusiveAccess t action).1 (u.step lock t action).1 := by
  constructor
  · have hsystem : (u.step lock t action).1.system = (u.system.step lock.protocol t action).1 := rfl
    rw [hsystem, h.system_eq]
    rfl
  · intro s
    rw [Custody.asked_step, h.access_eq]
    split
    · rw [Function.update_apply]
      split
      · rfl
      · exact h.asked_eq s
    · exact h.asked_eq s
  · intro s access
    by_cases hst : s = t
    · subst hst
      rw [Custody.held_step, Custody.heldAfter, h.answer_eq, h.access_eq, holds_step]
      cases hover : (u.step lock s action).2.turnsOver with
      | false => simpa using h.held_eq s access
      | true =>
        have hholds := hgives hover
        rw [if_pos rfl, Function.update_self, Function.update_apply, h.held_eq, h.held_eq, hholds]
        cases action.givesBack <;> cases access <;> rfl
    · rw [Custody.held_step_of_ne hst, holds_step_of_ne hst]
      exact h.held_eq s access

theorem pos_iff (t : Fin n) (access : Access) :
    0 < g.held t access ↔ access = .writing ∧ u.holds t = true := by
  rw [h.held_eq]
  cases access <;> cases u.holds t <;> simp

/-- What the threads are permitted is what is permitted to those that use the lock by its rules, and
besides an attempt by who holds it. -/
theorem permits_cases (hp : g.permits exclusiveAccess t action = true) :
    u.permits t action = true ∨ u.holds t = true ∧ ∃ command, action = .start command ∧
      (command = .tryAcquire ∨ command = .tryAcquireRead) := by
  have hwriting := h.held_eq t .writing
  rw [if_pos rfl] at hwriting
  cases action with
  | join | resume => exact .inl rfl
  | leave =>
    cases hh : u.holds t with
    | false => simp [permits, hh]
    | true => simp [Custody.permits, hwriting, hh] at hp
  | start command =>
    cases hb : command.givesBack with
    | true =>
      have hh : u.holds t = true := by
        cases hh : u.holds t with
        | true => rfl
        | false => simp [Custody.permits, hb, hwriting, hh] at hp
      exact .inl (by simp [permits, hb, hh])
    | false =>
      cases hh : u.holds t with
      | false => exact .inl (by simp [permits, hb, hh])
      | true =>
        obtain hasks | hc := Command.asks_or_attempts hb
        · simp [Custody.permits, hb, hasks, hwriting, hh] at hp
        · exact .inr ⟨rfl, command, rfl, hc⟩

end Matches

/-- A lock that somebody holds does not show as free. One that nobody holds is free, or goes to
somebody who waits. -/
structure Yields (lock : Lock Shared Own Wait) (Inv : Usage Shared Own Wait n → Prop) : Prop where
  not_free : ∀ {u}, Inv u → ∀ t, u.holds t = true → lock.isFree u.shared = false
  free : ∀ {u}, Inv u → (∀ t, ¬ u.Engaged t) → lock.isFree u.shared = true
  next : ∀ {u}, Inv u → (∀ t, u.holds t = false) → (∃ t, u.waits t = true) →
    ∃ s, u.waits s = true ∧ (u.step lock s .resume).2 = .done .done

theorem Yields.governs {Inv : Usage Shared Own Wait n → Prop} {part : Shared → Part}
    (hy : Yields lock Inv) (hx : ExcludesAll lock fun _ u => Inv u) (ha : Attempting lock part)
    (hread : ∀ shared own,
      lock.start .tryAcquireRead shared own = .refuse shared own .noSuchOperation) :
    Governs lock exclusiveAccess fun g => ∃ u, Matches g u ∧ Inv u where
  attempts_write := rfl
  releases_write := rfl
  step := by
    rintro g ⟨u, hm, h⟩ t action hp
    have hidle := @hx.holder_idle 0 u h
    obtain hp | ⟨hh, command, rfl, hc⟩ := hm.permits_cases hp
    · exact ⟨_, hm.step (givesBack_of_turnsOver hidle hp), @hx.step 0 u h (by decide) t action hp⟩
    · obtain ⟨own, hs⟩ := hidle t hh
      rw [hm.seat_eq] at hs
      have hself : (g.step lock exclusiveAccess t (.start command)).1 = g := by
        obtain rfl | rfl := hc
        · exact Governs.step_failed ha hs (hm.shared_eq ▸ hy.not_free h t hh)
        · exact Custody.step_start_self hs (hread ..) rfl rfl rfl
      rw [hself]
      exact ⟨u, hm, h⟩
  not_free := by
    rintro g ⟨u, hm, h⟩ t access hheld
    rw [← hm.shared_eq]
    exact hy.not_free h t ((hm.pos_iff t access).mp hheld).2
  alone := by
    rintro g ⟨u, hm, h⟩ t hheld s access
    have hh := ((hm.pos_iff t _).mp hheld).2
    rw [hm.held_eq]
    by_cases hst : s = t
    · simp [hst, hh]
    · have hnot : u.holds s = false := by
        by_contra hs
        exact hst (@hx.holder_unique 0 u h s t (by simpa using hs) hh)
      simp [hst, hnot]
  tryRead := by
    rintro g - t own hs -
    exact Custody.step_start_self hs (hread ..) rfl rfl rfl
  release := by
    rintro g ⟨u, hm, h⟩ t own hs hheld
    rw [← hm.seat_eq] at hs
    rw [← hm.shared_eq]
    exact @hx.release 0 u h t own .release hs ((hm.pos_iff t _).mp hheld).2 rfl
  passes := by
    rintro g ⟨u, hm, h⟩ hnobody
    have hfree : ∀ t, u.holds t = false := by
      intro t
      by_contra hh
      have hpos := (hm.pos_iff t .writing).mpr ⟨rfl, by simpa using hh⟩
      rw [hnobody] at hpos
      cases hpos
    constructor
    · intro hwaits
      rw [← hm.shared_eq]
      refine hy.free h fun t => ?_
      rintro (hh | hw)
      · simp [hfree] at hh
      · simp [hm.waits_eq, hwaits] at hw
    · intro t hw
      obtain ⟨s, hs, hdone⟩ := hy.next h hfree ⟨t, (hm.waits_eq t).trans hw⟩
      exact ⟨s, (hm.waits_eq s).symm.trans hs, (hm.answer_eq s .resume).trans hdone⟩

end SpinLocks
