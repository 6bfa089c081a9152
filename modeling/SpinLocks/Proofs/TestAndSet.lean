import SpinLocks.Lock.TestAndSet
import SpinLocks.Proofs.Usage

namespace SpinLocks.TestAndSet

open Usage

variable {Own : Type} {n : Nat}

/-- A lock of one flag, whatever its threads carry along. -/
structure OneFlag (lock : Lock Bool Own Wait) : Prop where
  create : ∀ config, lock.create config = false
  join : ∀ entry raised, ∃ own, lock.join entry raised = (raised, .ok own)
  leave : ∀ raised own, lock.leave raised own = (raised, none)
  start : lock.start = TestAndSet.start
  resume : lock.resume = TestAndSet.resume

theorem oneFlag_tas : OneFlag tas :=
  ⟨fun _ => rfl, fun _ _ => ⟨(), rfl⟩, fun _ _ => rfl, rfl, rfl⟩

theorem oneFlag_ttas : OneFlag ttas :=
  ⟨fun _ => rfl, fun _ _ => ⟨Backoff.initial, rfl⟩, fun _ _ => rfl, rfl, rfl⟩

structure Raised (u : Usage Bool Own Wait n) : Prop where
  holder_idle : ∀ t, u.holds t = true → ∃ own, u.seat t = .idle own
  holder_unique : ∀ s t, u.holds s = true → u.holds t = true → s = t
  raised_iff : u.shared = true ↔ ∃ t, u.holds t = true

variable {lock : Lock Bool Own Wait} {u : Usage Bool Own Wait n} {t : Fin n}

namespace Raised

theorem opening (hl : OneFlag lock) (config : Config) (n : Nat) :
    Raised (Usage.opening lock config n) where
  holder_idle := nofun
  holder_unique := nofun
  raised_iff := by simp [Usage.opening, System.init, hl.create]

theorem lowered (h : Raised u) (hnobody : ∀ t, u.holds t = false) : u.shared = false := by
  by_contra hraised
  obtain ⟨t, hh⟩ := h.raised_iff.mp (by simpa using hraised)
  simp [hnobody] at hh

section Put

variable (h : Raised u)
include h

theorem put_not (hf : u.holds t = false) (seat : Seat Own Wait) :
    Raised (u.put t u.shared seat false) := by
  have hholds : ∀ s, (u.put t u.shared seat false).holds s = u.holds s := by
    intro s
    rw [holds_put]
    split
    · next he => rw [he, hf]
    · rfl
  constructor
  · exact holder_idle_put h.holder_idle (by simp)
  · intro s r hs hr
    exact h.holder_unique s r (hholds s ▸ hs) (hholds r ▸ hr)
  · simp only [hholds]
    exact h.raised_iff

theorem put_take (hlow : u.shared = false) (own : Own) :
    Raised (u.put t true (.idle own) true) := by
  have hfree : ∀ s, u.holds s = false := by
    intro s
    by_contra hh
    have hraised := h.raised_iff.mpr ⟨s, by simpa using hh⟩
    simp [hlow] at hraised
  have hholds : ∀ s, (u.put t true (.idle own) true).holds s = true → s = t := by
    intro s hs
    rw [holds_put] at hs
    split at hs
    · assumption
    · simp [hfree] at hs
  constructor
  · exact holder_idle_put h.holder_idle fun _ => ⟨own, rfl⟩
  · intro s r hs hr
    rw [hholds s hs, hholds r hr]
  · simp only [shared_put, true_iff]
    exact ⟨t, holds_put_self ..⟩

theorem put_give (hh : u.holds t = true) (own : Own) :
    Raised (u.put t false (.idle own) false) := by
  have hholds : ∀ s, (u.put t false (.idle own) false).holds s = false := by
    intro s
    rw [holds_put]
    split
    · rfl
    · next hst =>
      by_contra hs
      exact hst (h.holder_unique s t (by simpa using hs) hh)
  constructor <;> simp [hholds]

theorem settle_acquire (hf : u.holds t = false) (own : Own) :
    Raised (u.settle t (acquire u.shared own)) := by
  cases hlow : u.shared with
  | false =>
    rw [show acquire false own = ⟨true, own, .done .done⟩ from rfl, settle_done, hf]
    exact h.put_take hlow own
  | true =>
    rw [show acquire true own = ⟨true, own, .waiting .lowered⟩ from rfl, settle_waiting, hf, ← hlow]
    exact h.put_not hf _

theorem settle_attempt (hf : u.holds t = false) (own : Own) :
    Raised (u.settle t (tryAcquire u.shared own)) := by
  rw [tryAcquire, settle_took, hf, Bool.false_xor]
  cases hlow : u.shared with
  | false => exact h.put_take hlow own
  | true =>
    have h' := h.put_not hf (.idle own)
    rwa [hlow] at h'

theorem step (hl : OneFlag lock) {action : Action Entry Command}
    (hp : u.permits t action = true) : Raised (u.step lock t action).1 := by
  obtain ⟨cause, -, he⟩ | ⟨entry, rfl, hs⟩ | ⟨own, rfl, hs⟩ | ⟨own, command, rfl, hs⟩ |
    ⟨own, point, rfl, hs⟩ := step_cases lock u t action
  · rwa [he]
  · obtain ⟨own, hj⟩ := hl.join entry u.shared
    have hf := not_holds_vacant h.holder_idle hs
    rw [step_join_ok lock hs hj, hf]
    exact h.put_not hf _
  · have hf : u.holds t = false := by simpa [permits] using hp
    rw [step_leave lock hs (hl.leave ..), hf]
    exact h.put_not hf _
  · have hstart : lock.start command u.shared own =
        command.exclusive u.shared own acquire release tryAcquire := by
      rw [hl.start]
      rfl
    obtain ⟨hh, he⟩ | ⟨hf, ⟨-, he⟩ | ⟨-, he⟩ | he⟩ := start_cases lock hs hstart hp
    · rw [he, release, settle_done, hh]
      exact h.put_give hh own
    · rw [he]
      exact h.settle_acquire hf own
    · rw [he]
      exact h.settle_attempt hf own
    · rwa [he]
  · rw [step_resume hs, hl.resume]
    cases point
    exact h.settle_acquire (not_holds_waiting h.holder_idle hs) own

end Put

end Raised

end SpinLocks.TestAndSet
