import SpinLocks.Proofs.Attempts.Custody

namespace SpinLocks

open ReadWrite (Access)

variable {Shared Own Wait Part : Type} {n : Nat}

namespace Custody

section Lock

variable (lock : Lock Shared Own Wait) (accessOf : Command → Access) (part : Shared → Part)

/-- The lock is there for the next thread. -/
structure Passes (g : Custody Shared Own Wait n) : Prop where
  free : (∀ t, g.waits t = false) → lock.isFree g.shared = true
  next : ∀ t, g.waits t = true →
    ∃ s, g.waits s = true ∧ (g.step lock accessOf s .resume).2 = .done .done

/-- The thread has the lock alone, and by its release the lock is given back. The release does not
touch the part of the shared state. -/
structure GivesBack (g : Custody Shared Own Wait n) (t : Fin n) : Prop where
  alone : g.Alone t
  answer_eq : (g.step lock accessOf t (.start .release)).2 = .done .done
  nobody : (g.step lock accessOf t (.start .release)).1.Nobody
  part_eq : part (g.step lock accessOf t (.start .release)).1.shared = part g.shared
  passes : (g.step lock accessOf t (.start .release)).1.Passes lock accessOf

/-- The thread has taken the lock, which nobody had before. Whatever happens until it gives the lock
back, it does so with success. -/
structure Taken (g after : Custody Shared Own Wait n) (t : Fin n) : Prop where
  nobody : g.Nobody
  alone : after.Alone t
  not_free : lock.isFree after.shared = false
  part_eq : part after.shared = part g.shared
  givesBack : ∀ later : Schedule n, after.proper lock accessOf later = true →
    (∀ command, (t, .start command) ∈ later → command.givesBack = false) →
    (after.run lock accessOf later).1.GivesBack lock accessOf part t

/-- An attempt of the thread succeeds where the lock shows as free, and takes it then. Else nothing
changes. -/
structure Sound (g : Custody Shared Own Wait n) (t : Fin n) : Prop where
  answer_eq : (g.step lock accessOf t (.start .tryAcquire)).2 =
    .done (.took (lock.isFree g.shared))
  unchanged : lock.isFree g.shared = false →
    (g.step lock accessOf t (.start .tryAcquire)).1 = g
  taken : lock.isFree g.shared = true →
    g.Taken lock accessOf part (g.step lock accessOf t (.start .tryAcquire)).1 t

end Lock

end Custody

/-- In its turn an attempt takes the lock where that shows as free, and else changes nothing.
Neither the attempt nor the release after it touches the part of the shared state. -/
structure Attempting (lock : Lock Shared Own Wait) (part : Shared → Part) : Prop where
  took : ∀ shared own, lock.isFree shared = true → ∃ shared' own',
    lock.start .tryAcquire shared own = ⟨shared', own', .done (.took true)⟩ ∧
      part shared' = part shared ∧
      ∀ later, part (lock.start .release later own').shared = part later
  failed : ∀ shared own, lock.isFree shared = false →
    lock.start .tryAcquire shared own = ⟨shared, own, .done (.took false)⟩

/-- Each permitted step keeps the invariant. Where it holds, a lock that somebody has does not show
as free, a writer has it alone, and a lock that nobody has is there for the next thread. -/
structure Governs (lock : Lock Shared Own Wait) (accessOf : Command → Access)
    (Inv : Custody Shared Own Wait n → Prop) : Prop where
  attempts_write : accessOf .tryAcquire = .writing
  releases_write : accessOf .release = .writing
  step : ∀ {g}, Inv g → ∀ t action, g.permits accessOf t action = true →
    Inv (g.step lock accessOf t action).1
  not_free : ∀ {g}, Inv g → ∀ t access, 0 < g.held t access → lock.isFree g.shared = false
  alone : ∀ {g}, Inv g → ∀ t, 0 < g.held t .writing → g.Alone t
  tryRead : ∀ {g}, Inv g → ∀ t own, g.seat t = .idle own → 0 < g.held t .writing →
    (g.step lock accessOf t (.start .tryAcquireRead)).1 = g
  release : ∀ {g}, Inv g → ∀ t own, g.seat t = .idle own → 0 < g.held t .writing →
    (lock.start .release g.shared own).answer = .done .done
  passes : ∀ {g}, Inv g → g.Nobody → g.Passes lock accessOf

namespace Governs

open Custody

variable {lock : Lock Shared Own Wait} {accessOf : Command → Access} {part : Shared → Part}
  {Inv : Custody Shared Own Wait n → Prop} {g : Custody Shared Own Wait n} {t : Fin n} {own : Own}

theorem run (hx : Governs lock accessOf Inv) (h : Inv g) {schedule : Schedule n}
    (hp : g.proper lock accessOf schedule = true) : Inv (g.run lock accessOf schedule).1 := by
  induction schedule generalizing g with
  | nil => exact h
  | cons step rest ih =>
    obtain ⟨t, action⟩ := step
    rw [proper, Bool.and_eq_true] at hp
    exact ih (hx.step h t action hp.1) hp.2

section Attempt

variable (ha : Attempting lock part)
include ha

theorem step_failed (hs : g.seat t = .idle own) (hfree : lock.isFree g.shared = false) :
    (g.step lock accessOf t (.start .tryAcquire)).1 = g :=
  step_start_self hs (ha.failed g.shared own hfree) rfl rfl rfl

variable (hx : Governs lock accessOf Inv)
include hx

theorem step_kept (h : Inv g) (hs : g.seat t = .idle own) (hheld : 0 < g.held t .writing)
    (action : Action Entry Command) (hp : g.permits accessOf t action = true)
    (hkept : ∀ command, action = .start command → command.givesBack = false) :
    (g.step lock accessOf t action).1 = g := by
  cases action with
  | join entry =>
    have hrefusal : (g.seat t).refusal? (.join entry) = some .hasLocalState := by rw [hs]; rfl
    exact step_refused hrefusal
  | resume =>
    have hrefusal : (g.seat t).refusal? .resume = some .notWaiting := by rw [hs]; rfl
    exact step_refused hrefusal
  | leave =>
    simp [permits] at hp
    omega
  | start command =>
    have hb := hkept command rfl
    obtain hasks | rfl | rfl := Command.asks_or_attempts hb
    · simp [permits, hb, hasks] at hp
      omega
    · exact step_failed ha hs (hx.not_free h t _ hheld)
    · exact hx.tryRead h t own hs hheld

theorem run_kept (h : Inv g) (hs : g.seat t = .idle own) (hheld : 0 < g.held t .writing)
    {later : Schedule n} (hp : g.proper lock accessOf later = true)
    (hkept : ∀ command, (t, .start command) ∈ later → command.givesBack = false) :
    (g.run lock accessOf later).1.seat t = .idle own ∧
      0 < (g.run lock accessOf later).1.held t .writing := by
  induction later generalizing g with
  | nil => exact ⟨hs, hheld⟩
  | cons step rest ih =>
    obtain ⟨s, action⟩ := step
    rw [proper, Bool.and_eq_true] at hp
    have h' := hx.step h s action hp.1
    have hrest : ∀ command, (t, .start command) ∈ rest → command.givesBack = false :=
      fun command hm => hkept command (List.mem_cons_of_mem _ hm)
    have hstays : (g.step lock accessOf s action).1.seat t = .idle own ∧
        0 < (g.step lock accessOf s action).1.held t .writing := by
      by_cases hst : s = t
      · subst hst
        rw [step_kept ha hx h hs hheld action hp.1 fun command he =>
          hkept command (he ▸ List.mem_cons_self)]
        exact ⟨hs, hheld⟩
      · rw [seat_step_of_ne (Ne.symm hst), held_step_of_ne (Ne.symm hst)]
        exact ⟨hs, hheld⟩
    exact ih h' hstays.1 hstays.2 hp.2 hrest

end Attempt

theorem held_step_start {command : Command} (haccess : accessOf command = .writing)
    (hover : (g.step lock accessOf t (.start command)).2.turnsOver = true) :
    (g.step lock accessOf t (.start command)).1.held = Function.update g.held t
      (Function.update (g.held t) .writing
        (if command.givesBack then g.held t .writing - 1 else g.held t .writing + 1)) := by
  rw [held_step, heldAfter, if_pos hover]
  simp only [access, haccess]
  rfl

section Sound

variable (hx : Governs lock accessOf Inv) (h : Inv g) (hs : g.seat t = .idle own)
include hx h hs

/-- By its release a writer gives the lock back. -/
theorem givesBack (hheld : 0 < g.held t .writing)
    (hpart : ∀ later, part (lock.start .release later own).shared = part later) :
    g.GivesBack lock accessOf part t := by
  have halone := hx.alone h t hheld
  obtain ⟨hsystem, hanswer⟩ := step_start lock accessOf hs .release
  rw [hx.release h t own hs hheld] at hanswer
  have hp : g.permits accessOf t (.start .release) = true := by
    simp [permits, Command.givesBack, hx.releases_write, hheld]
  have hafter := held_step_start (g := g) (t := t) hx.releases_write (by rw [hanswer]; rfl)
  have hnobody : (g.step lock accessOf t (.start .release)).1.Nobody := by
    intro s access
    rw [hafter, Function.update_apply]
    split
    · cases access with
      | reading =>
        rw [Function.update_of_ne (by decide), halone]
        simp
      | writing =>
        rw [Function.update_self, halone]
        simp [Command.givesBack]
    · next hst => rw [halone, if_neg (by simp [hst])]
  refine ⟨halone, hanswer, hnobody, ?_, hx.passes (hx.step h t _ hp) hnobody⟩
  have hshared := congrArg (part ·.shared) hsystem
  exact hshared.trans (hpart g.shared)

variable (ha : Attempting lock part)
include ha

theorem taken (hfree : lock.isFree g.shared = true) :
    (g.step lock accessOf t (.start .tryAcquire)).2 = .done (.took true) ∧
      g.Taken lock accessOf part (g.step lock accessOf t (.start .tryAcquire)).1 t := by
  obtain ⟨shared', own', hturn, hpart, hrelease⟩ := ha.took g.shared own hfree
  obtain ⟨hsystem, hanswer⟩ := step_start lock accessOf hs .tryAcquire
  rw [hturn] at hsystem hanswer
  have hnobody : g.Nobody := by
    intro s access
    by_contra hheld
    have hnot := hx.not_free h s access (Nat.pos_of_ne_zero hheld)
    simp [hfree] at hnot
  have hseat : (g.step lock accessOf t (.start .tryAcquire)).1.seat t = .idle own' := by
    rw [Custody.seat, hsystem, System.seat_place, if_pos rfl]
    rfl
  have hheld : 0 < (g.step lock accessOf t (.start .tryAcquire)).1.held t .writing := by
    rw [held_step_start hx.attempts_write (by rw [hanswer]; rfl), Function.update_self,
      Function.update_self]
    exact Nat.succ_pos _
  have h' := hx.step h t (.start .tryAcquire) rfl
  refine ⟨hanswer, hnobody, hx.alone h' t hheld, hx.not_free h' t .writing hheld, ?_, ?_⟩
  · have hshared := congrArg (part ·.shared) hsystem
    exact hshared.trans hpart
  · intro later hp hkept
    obtain ⟨hs', hheld'⟩ := run_kept ha hx h' hseat hheld hp hkept
    exact hx.givesBack (hx.run h' hp) hs' hheld' hrelease

theorem sound : g.Sound lock accessOf part t := by
  cases hfree : lock.isFree g.shared with
  | true =>
    obtain ⟨hanswer, htaken⟩ := hx.taken h hs ha hfree
    exact ⟨by rw [hanswer, hfree], by simp [hfree], fun _ => htaken⟩
  | false =>
    obtain ⟨-, hanswer⟩ := step_start lock accessOf hs .tryAcquire
    rw [ha.failed g.shared own hfree] at hanswer
    exact ⟨by rw [hanswer, hfree]; rfl, fun _ => step_failed ha hs hfree, by simp [hfree]⟩

end Sound

end Governs

end SpinLocks
