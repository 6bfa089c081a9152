import SpinLocks.Proofs.Line
import SpinLocks.Proofs.ReadWrite.Word

namespace SpinLocks

open Usage
open ReadWrite (Access accessOf)

variable {Shared Own Wait : Type} {n : Nat}

/-- Each permitted step keeps the invariant, which knows how often the lock was asked for, and for
which access each thread asks that waits for the lock or holds it. -/
structure Excludes (lock : Lock Shared Own Wait)
    (Inv : Nat → (Fin n → Access) → Usage Shared Own Wait n → Prop) : Prop where
  holder_idle : ∀ {asked mode u}, Inv asked mode u →
    ∀ t, u.holds t = true → ∃ own, u.seat t = .idle own
  alone : ∀ {asked mode u}, Inv asked mode u →
    ∀ s t, u.holds s = true → u.holds t = true → mode s = .writing → s = t
  choose : ∀ {asked mode u}, Inv asked mode u →
    ∀ t access, ¬ u.Engaged t → Inv asked (Function.update mode t access) u
  release : ∀ {asked mode u}, Inv asked mode u → ∀ t own command, u.seat t = .idle own →
    u.holds t = true → command.givesBack = true → accessOf command = mode t →
    (lock.start command u.shared own).answer = .done .done
  step : ∀ {asked mode u}, Inv asked mode u → asked < 2 ^ 64 → ∀ t action,
    u.permits t action = true → (∀ command, action = .start command → accessOf command = mode t) →
    Inv (asked + (if u.enters lock t action then [t] else []).length) mode (u.step lock t action).1

/-- The same of a lock that knows exclusive access only. -/
structure ExcludesAll (lock : Lock Shared Own Wait) (Inv : Nat → Usage Shared Own Wait n → Prop) :
    Prop where
  holder_idle : ∀ {asked u}, Inv asked u → ∀ t, u.holds t = true → ∃ own, u.seat t = .idle own
  holder_unique : ∀ {asked u}, Inv asked u →
    ∀ s t, u.holds s = true → u.holds t = true → s = t
  release : ∀ {asked u}, Inv asked u → ∀ t own command, u.seat t = .idle own →
    u.holds t = true → command.givesBack = true →
    (lock.start command u.shared own).answer = .done .done
  step : ∀ {asked u}, Inv asked u → asked < 2 ^ 64 → ∀ t action, u.permits t action = true →
    Inv (asked + (if u.enters lock t action then [t] else []).length) (u.step lock t action).1

theorem ExcludesAll.excludes {lock : Lock Shared Own Wait}
    {Inv : Nat → Usage Shared Own Wait n → Prop} (h : ExcludesAll lock Inv) :
    Excludes lock fun asked _ u => Inv asked u where
  holder_idle := h.holder_idle
  alone hinv s t hs ht _ := h.holder_unique hinv s t hs ht
  choose hinv _ _ _ := hinv
  release hinv t own command hs hh hb _ := h.release hinv t own command hs hh hb
  step hinv hfew t action hp _ := h.step hinv hfew t action hp

namespace Excludes

variable {lock : Lock Shared Own Wait}
  {Inv : Nat → (Fin n → Access) → Usage Shared Own Wait n → Prop} {asked : Nat}
  {mode : Fin n → Access} {u : Usage Shared Own Wait n} {t : Fin n}

theorem choose_again (hx : Excludes lock Inv) {access : Access}
    (h : Inv asked (Function.update mode t access) u) (hnot : ¬ u.Engaged t) (access' : Access) :
    Inv asked (Function.update mode t access') u := by
  have h' := hx.choose h t access' hnot
  rwa [Function.update_idem] at h'

theorem give (hx : Excludes lock Inv) (h : Inv asked mode u) (hfew : asked < 2 ^ 64) {own : Own}
    {command : Command} (hs : u.seat t = .idle own) (hh : u.holds t = true)
    (hb : command.givesBack = true) (hmode : accessOf command = mode t) :
    ∃ shared own', lock.start command u.shared own = ⟨shared, own', .done .done⟩ ∧
      u.step lock t (.start command) = (u.put t shared (.idle own') false, .done .done) ∧
      Inv asked mode (u.put t shared (.idle own') false) := by
  have hdone := hx.release h t own command hs hh hb hmode
  have hp : u.permits t (.start command) = true := by simp [permits, hb, hh]
  have hinv := hx.step h hfew t (.start command) hp (by rintro _ ⟨⟩; exact hmode)
  have hstep : u.step lock t (.start command) = _ := step_start hs command
  rcases hturn : lock.start command u.shared own with ⟨shared, own', ending⟩
  cases ending with
  | waiting point => simp [hturn, Turn.answer] at hdone
  | failed why => simp [hturn, Turn.answer] at hdone
  | done reply =>
    obtain rfl : reply = .done := by simpa [hturn, Turn.answer] using hdone
    rw [hturn, settle_done, hh] at hstep
    rw [Lined.enters_of_holds hh, hstep] at hinv
    exact ⟨shared, own', rfl, hstep, hinv⟩

end Excludes

end SpinLocks
