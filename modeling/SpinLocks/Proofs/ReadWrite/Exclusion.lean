import SpinLocks.Proofs.ReadWrite.Holdings

namespace SpinLocks.ReadWrite

open Holdings

variable {n : Nat}

structure Tallied (u : Holdings n) : Prop extends Counts u.word u.count where
  point_eq : ∀ t own point, u.seat t = .waiting own point → point = (u.asked t).point

/-- What the word tells of the access that threads have, and who is admitted: whoever asks waits
where there is no room, an attempt fails there, and whoever waits goes on waiting. -/
structure Separated (u : Holdings n) : Prop extends Counts u.word u.count where
  readers_eq : u.word.readers.toNat = u.count .reading
  isWriteLocked_iff : u.word.isWriteLocked = true ↔ u.count .writing = 1
  isFree_iff : readWrite.isFree u.word = true ↔ u.count .reading = 0 ∧ u.count .writing = 0
  ask_eq : ∀ t own command, u.seat t = .idle own → command.asks = true →
    (u.step t (.start command)).2 =
      if (accessOf command).Room u.count then .done .done else .waiting
  attempt_eq : ∀ t own command, u.seat t = .idle own → command.asks = false →
    command.givesBack = false →
    (u.step t (.start command)).2 = .done (.took ((accessOf command).Room u.count))
  resume_eq : ∀ t own point, u.seat t = .waiting own point →
    (u.step t .resume).2 = if (u.asked t).Room u.count then .done .done else .waiting

namespace Tallied

variable {u : Holdings n} {t : Fin n} {own : Backoff} {point : Wait} {word : Word}
  {seat : Seat Backoff Wait} {asked : Fin n → Access} {count : Access → Nat}
  {command : Command} {access : Access} {action : Action Entry Command}

theorem put (h : Tallied u) (hcounts : Counts word count)
    (hpoint : ∀ own point, seat = .waiting own point → point = (asked t).point)
    (hasked : ∀ s ≠ t, asked s = u.asked s) : Tallied (u.put t word seat asked count) where
  toCounts := hcounts
  point_eq := by
    intro s own point hs
    rw [seat_put] at hs
    split at hs
    · next he =>
      subst he
      exact hpoint own point hs
    · next hst =>
      rw [show (u.put t word seat asked count).asked s = u.asked s from hasked s hst]
      exact h.point_eq s own point hs

theorem put_idle (h : Tallied u) (hcounts : Counts word count) (hseat : seat.waits = false) :
    Tallied (u.put t word seat u.asked count) := by
  refine h.put hcounts ?_ fun _ _ => rfl
  rintro own point rfl
  cases hseat

section Turn

variable (h : Tallied u)
include h

theorem step_asks (hs : u.seat t = .idle own) (ha : command.asks = true) :
    Tallied (u.step t (.start command)).1 ∧ (u.step t (.start command)).2 =
      if (accessOf command).Room u.count then .done .done else .waiting := by
  have hb : command.givesBack = false := by cases command <;> first | rfl | cases ha
  have hturn : ReadWrite.start command u.word own = _ := start_asks ha
  simp only [h.toCounts.admits_iff] at hturn
  by_cases hroom : (accessOf command).Room u.count
  · rw [if_pos hroom] at hturn
    rw [step_start hs hturn, if_pos hroom]
    refine ⟨h.put_idle ?_ rfl, rfl⟩
    have hcount : u.countAfter t (.start command) (.done .done) = u.granted (accessOf command) :=
      if_neg (by simp [hb])
    rw [show Turn.answer _ = .done .done from rfl, hcount]
    exact h.toCounts.enter hroom
  · rw [if_neg hroom] at hturn
    rw [step_start hs hturn, if_neg hroom]
    refine ⟨h.put h.toCounts ?_ fun s hst => Function.update_of_ne hst .., rfl⟩
    rintro own' point ⟨⟩
    exact congrArg Access.point (Function.update_self t (accessOf command) u.asked).symm

theorem step_attempts (hs : u.seat t = .idle own) (ha : command.asks = false)
    (hb : command.givesBack = false) :
    Tallied (u.step t (.start command)).1 ∧
      (u.step t (.start command)).2 = .done (.took ((accessOf command).Room u.count)) := by
  have hturn : ReadWrite.start command u.word own = _ := start_attempts ha hb
  simp only [h.toCounts.admits_iff] at hturn
  by_cases hroom : (accessOf command).Room u.count
  · rw [if_pos hroom] at hturn
    rw [step_start hs hturn, decide_eq_true hroom]
    refine ⟨h.put_idle ?_ rfl, rfl⟩
    have hcount : u.countAfter t (.start command) (.done (.took true)) =
        u.granted (accessOf command) := if_neg (by simp [hb])
    rw [show Turn.answer _ = .done (.took true) from rfl, hcount]
    exact h.toCounts.enter hroom
  · rw [if_neg hroom] at hturn
    rw [step_start hs hturn, decide_eq_false hroom]
    exact ⟨h.put_idle h.toCounts rfl, rfl⟩

theorem step_givesBack (hs : u.seat t = .idle own) (hb : command.givesBack = true)
    (hpos : 0 < u.count (accessOf command)) :
    Tallied (u.step t (.start command)).1 ∧ (u.step t (.start command)).2 = .done .done := by
  rw [step_start hs (start_givesBack hb)]
  refine ⟨h.put_idle ?_ rfl, rfl⟩
  have hcount : u.countAfter t (.start command) (.done .done) = u.returned (accessOf command) :=
    if_pos hb
  rw [show Turn.answer _ = .done .done from rfl, hcount]
  exact h.toCounts.exit hpos

/-- A thread that waits is admitted as soon as there is room for its access. -/
theorem step_resume (hs : u.seat t = .waiting own point) :
    Tallied (u.step t .resume).1 ∧
      (u.step t .resume).2 = if (u.asked t).Room u.count then .done .done else .waiting := by
  obtain rfl := h.point_eq t own point hs
  have hturn : ReadWrite.resume (u.asked t).point u.word own = _ := resume_eq
  simp only [h.toCounts.admits_iff] at hturn
  by_cases hroom : (u.asked t).Room u.count
  · rw [if_pos hroom] at hturn
    rw [Holdings.step_resume hs hturn, if_pos hroom]
    exact ⟨h.put_idle (h.toCounts.enter hroom) rfl, rfl⟩
  · rw [if_neg hroom] at hturn
    rw [Holdings.step_resume hs hturn, if_neg hroom]
    refine ⟨h.put h.toCounts ?_ fun _ _ => rfl, rfl⟩
    rintro own' point ⟨⟩
    rfl

theorem step_start (hs : u.seat t = .idle own) (hp : u.permits (.start command) = true) :
    Tallied (u.step t (.start command)).1 ∧ (u.step t (.start command)).2.faults = false := by
  cases hb : command.givesBack with
  | true =>
    obtain ⟨h', he⟩ := h.step_givesBack hs hb (by simpa [permits, hb] using hp)
    exact ⟨h', by rw [he]; rfl⟩
  | false =>
    cases ha : command.asks with
    | true =>
      obtain ⟨h', he⟩ := h.step_asks hs ha
      refine ⟨h', ?_⟩
      rw [he]
      split <;> rfl
    | false =>
      obtain ⟨h', he⟩ := h.step_attempts hs ha hb
      exact ⟨h', by rw [he]; rfl⟩

theorem step (hp : u.permits action = true) :
    Tallied (u.step t action).1 ∧ (u.step t action).2.faults = false := by
  obtain ⟨cause, hr⟩ | ⟨entry, rfl, hs⟩ | ⟨own, rfl, hs⟩ | ⟨own, command, rfl, hs⟩ |
    ⟨own, point, rfl, hs⟩ := (u.seat t).action_cases action
  · rw [step_refused hr]
    exact ⟨h, rfl⟩
  · rw [step_join hs]
    exact ⟨h.put_idle h.toCounts rfl, rfl⟩
  · rw [step_leave hs]
    exact ⟨h.put_idle h.toCounts rfl, rfl⟩
  · exact h.step_start hs hp
  · obtain ⟨h', he⟩ := h.step_resume hs
    refine ⟨h', ?_⟩
    rw [he]
    split <;> rfl

theorem separated : Separated u where
  toCounts := h.toCounts
  readers_eq := h.toCounts.readers_eq
  isWriteLocked_iff := h.toCounts.isWriteLocked_iff
  isFree_iff := h.toCounts.isFree_iff
  ask_eq _ _ _ hs ha := (h.step_asks hs ha).2
  attempt_eq _ _ _ hs ha hb := (h.step_attempts hs ha hb).2
  resume_eq _ _ _ hs := (h.step_resume hs).2

end Turn

theorem opening (config : Config) (n : Nat) : Tallied (Holdings.opening config n) where
  toCounts := .free
  point_eq := by simp [Holdings.opening, Holdings.seat]

theorem run (h : Tallied u) {schedule : Schedule n} (hp : u.proper schedule = true) :
    Tallied (u.run schedule).1 ∧ ∀ answer ∈ (u.run schedule).2, answer.faults = false := by
  induction schedule generalizing u with
  | nil => exact ⟨h, by simp [Holdings.run]⟩
  | cons step rest ih =>
    obtain ⟨t, action⟩ := step
    rw [proper, Bool.and_eq_true] at hp
    obtain ⟨h', hfaults⟩ := h.step hp.1
    obtain ⟨hlast, hgood⟩ := ih h' hp.2
    exact ⟨hlast, List.forall_mem_cons.mpr ⟨hfaults, hgood⟩⟩

end Tallied

variable {config : Config} {schedule : Schedule n}

theorem separated_run (hp : (opening config n).proper schedule = true) :
    Separated ((opening config n).run schedule).1 ∧
      ∀ answer ∈ ((opening config n).run schedule).2, answer.faults = false := by
  obtain ⟨h, hgood⟩ := (Tallied.opening config n).run hp
  exact ⟨h.separated, hgood⟩

/-- The first thread reads twice, and the second waits to write until it has given both back. -/
theorem separated_twice :
    let schedule : Schedule 2 :=
      [(0, .join ⟨.pair, 0⟩), (1, .join ⟨.pair, 1⟩), (0, .start .acquireRead),
        (0, .start .tryAcquireRead), (1, .start .acquireWrite), (0, .start .releaseRead),
        (1, .resume), (0, .start .releaseRead), (1, .resume), (0, .start .acquireRead),
        (1, .start .releaseWrite)]
    let before : Holdings 2 := opening .pair 2
    before.proper schedule = true ∧ Separated (before.run schedule).1 := by
  intro schedule before
  have hp : before.proper schedule = true := by decide
  exact ⟨hp, (separated_run hp).1⟩

end SpinLocks.ReadWrite
