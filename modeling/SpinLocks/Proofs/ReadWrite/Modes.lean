import Mathlib.Data.Fintype.Card
import SpinLocks.Proofs.Guarded.Excludes

namespace SpinLocks.ReadWrite

open Usage

variable {n : Nat}

def having (holds : Fin n → Bool) (mode : Fin n → Access) (access : Access) : Nat :=
  (Finset.univ.filter fun t => holds t = true ∧ mode t = access).card

section Having

variable {holds : Fin n → Bool} {mode : Fin n → Access} {t : Fin n}

theorem having_update_of_ne {access : Access} (h : access ≠ mode t) (held : Bool) :
    having (Function.update holds t held) mode access = having holds mode access := by
  rw [having, having]
  congr 1
  ext s
  by_cases hst : s = t <;> simp [hst, h.symm]

theorem having_take (h : holds t = false) :
    having (Function.update holds t true) mode =
      Function.update (having holds mode) (mode t) (having holds mode (mode t) + 1) := by
  funext access
  by_cases ha : access = mode t
  · subst ha
    have hnot : t ∉ Finset.univ.filter fun s => holds s = true ∧ mode s = mode t := by simp [h]
    rw [Function.update_self, having, having, ← Finset.card_insert_of_notMem hnot]
    congr 1
    ext s
    by_cases hst : s = t <;> simp [hst]
  · rw [Function.update_of_ne ha, having_update_of_ne ha]

theorem having_give (h : holds t = true) :
    having (Function.update holds t false) mode =
      Function.update (having holds mode) (mode t) (having holds mode (mode t) - 1) := by
  funext access
  by_cases ha : access = mode t
  · subst ha
    have hmem : t ∈ Finset.univ.filter fun s => holds s = true ∧ mode s = mode t := by simp [h]
    rw [Function.update_self, having, having, ← Finset.card_erase_of_mem hmem]
    congr 1
    ext s
    by_cases hst : s = t <;> simp [hst]
  · rw [Function.update_of_ne ha, having_update_of_ne ha]

/-- For which access a thread asks that does not hold the lock makes no difference. -/
theorem having_choose (h : holds t = false) (access : Access) :
    having holds (Function.update mode t access) = having holds mode := by
  funext access'
  rw [having, having]
  congr 1
  ext s
  by_cases hst : s = t <;> simp [hst, h]

theorem having_pos (mode : Fin n → Access) (h : holds t = true) : 0 < having holds mode (mode t) :=
  Finset.card_pos.mpr ⟨t, by simp [h]⟩

end Having

structure Moded (mode : Fin n → Access) (u : Usage Word Backoff Wait n) : Prop extends
    Counts u.shared (having u.holds mode) where
  point_eq : ∀ t own point, u.seat t = .waiting own point → point = (mode t).point
  holder_idle : ∀ t, u.holds t = true → ∃ own, u.seat t = .idle own

namespace Moded

variable {mode : Fin n → Access} {u : Usage Word Backoff Wait n} {t : Fin n} {own : Backoff}
  {command : Command} {word : Word} {seat : Seat Backoff Wait} {holds : Bool}

theorem opening (mode : Fin n → Access) (config : Config) :
    Moded mode (opening readWrite config n) where
  toCounts := by
    have hnobody : having (Usage.opening readWrite config n).holds mode = fun _ => 0 := by
      funext access
      simp [having, Usage.opening]
    rw [hnobody]
    exact .free
  point_eq := by simp [seat_opening]
  holder_idle := nofun

section Step

variable (h : Moded mode u)
include h

theorem put (hcounts : Counts word (having (Function.update u.holds t holds) mode))
    (hpoint : ∀ own point, seat = .waiting own point → point = (mode t).point)
    (hidle : holds = true → ∃ own, seat = .idle own) : Moded mode (u.put t word seat holds) where
  toCounts := hcounts
  point_eq := by
    intro s own point hs
    rw [seat_put] at hs
    split at hs
    · next he => exact he ▸ hpoint own point hs
    · exact h.point_eq s own point hs
  holder_idle := holder_idle_put h.holder_idle hidle

theorem put_not (hf : u.holds t = false)
    (hpoint : ∀ own point, seat = .waiting own point → point = (mode t).point) :
    Moded mode (u.put t u.shared seat false) := by
  refine h.put ?_ hpoint (by simp)
  rw [← hf, Function.update_eq_self]
  exact h.toCounts

theorem settle_enter {reply : Reply} (hf : u.holds t = false)
    (hadmits : (mode t).admits u.shared = true)
    (hover : Answer.turnsOver (.done reply) = true) :
    Moded mode (u.settle t ⟨(mode t).enter u.shared, own, .done reply⟩) := by
  rw [settle, hf, show Turn.answer _ = .done reply from rfl, hover]
  refine h.put ?_ (by rintro _ _ ⟨⟩) fun _ => ⟨own, rfl⟩
  rw [Bool.false_xor, having_take hf]
  exact h.toCounts.enter (h.toCounts.admits_iff.mp hadmits)

theorem settle_exit (hh : u.holds t = true) :
    Moded mode (u.settle t ⟨(mode t).exit u.shared, own, .done .done⟩) := by
  rw [settle_done, hh]
  refine h.put ?_ (by rintro _ _ ⟨⟩) (by simp)
  rw [Bool.not_true, having_give hh]
  exact h.toCounts.exit (having_pos mode hh)

theorem step_start (hs : u.seat t = .idle own) (hp : u.permits t (.start command) = true)
    (hmode : accessOf command = mode t) : Moded mode (u.step readWrite t (.start command)).1 := by
  have hholds : command.givesBack = u.holds t := by simpa [permits] using hp
  rw [Usage.step_start hs]
  cases hh : u.holds t with
  | true =>
    have hturn : readWrite.start command u.shared own = _ := start_givesBack (hholds.trans hh)
    rw [hturn, hmode]
    exact h.settle_exit hh
  | false =>
    cases hasks : command.asks with
    | true =>
      have hturn : readWrite.start command u.shared own = _ := start_asks hasks
      rw [hturn, hmode]
      split
      · next hadmits => exact h.settle_enter hh hadmits rfl
      · rw [settle_waiting, hh]
        exact h.put_not hh (by rintro _ _ ⟨⟩; rfl)
    | false =>
      have hturn : readWrite.start command u.shared own = _ :=
        start_attempts hasks (hholds.trans hh)
      rw [hturn, hmode]
      split
      · next hadmits => exact h.settle_enter hh hadmits rfl
      · rw [settle_took, hh]
        exact h.put_not hh (by rintro _ _ ⟨⟩)

theorem step {action : Action Entry Command} (hp : u.permits t action = true)
    (hmode : ∀ command, action = .start command → accessOf command = mode t) :
    Moded mode (u.step readWrite t action).1 := by
  obtain ⟨cause, -, he⟩ | ⟨entry, rfl, hs⟩ | ⟨own, rfl, hs⟩ | ⟨own, command, rfl, hs⟩ |
    ⟨own, point, rfl, hs⟩ := step_cases readWrite u t action
  · rwa [he]
  · have hjoin : readWrite.join entry u.shared = (u.shared, .ok Backoff.initial) := rfl
    have hf := not_holds_vacant h.holder_idle hs
    rw [step_join_ok readWrite hs hjoin, hf]
    exact h.put_not hf (by rintro _ _ ⟨⟩)
  · have hleave : readWrite.leave u.shared own = (u.shared, none) := rfl
    have hf : u.holds t = false := by simpa [permits] using hp
    rw [step_leave readWrite hs hleave, hf]
    exact h.put_not hf (by rintro _ _ ⟨⟩)
  · exact h.step_start hs hp (hmode command rfl)
  · obtain rfl := h.point_eq t own point hs
    have hf := not_holds_waiting h.holder_idle hs
    have hturn : readWrite.resume (mode t).point u.shared own = _ := resume_eq
    rw [step_resume hs, hturn]
    split
    · next hadmits => exact h.settle_enter hf hadmits rfl
    · rwa [settle_self hs]

theorem alone {s : Fin n} (hs : u.holds s = true) (ht : u.holds t = true)
    (hw : mode s = .writing) : s = t := by
  have hle := h.writers_le
  have hpos := having_pos mode hs
  rw [hw] at hpos
  have hreaders := h.apart (Nat.le_antisymm hle hpos)
  have htw : mode t = .writing := by
    cases hm : mode t with
    | writing => rfl
    | reading =>
      have hpos' := having_pos mode ht
      rw [hm, hreaders] at hpos'
      cases hpos'
  exact Finset.card_le_one.mp hle s (by simp [hs, hw]) t (by simp [ht, htw])

end Step

theorem excludes : Excludes readWrite fun _ (mode : Fin n → Access) u => Moded mode u where
  holder_idle h := h.holder_idle
  alone h s t hs ht hw := h.alone hs ht hw
  choose := by
    intro _ mode u h t access hnot
    have hf : u.holds t = false := by simpa using (not_or.mp hnot).1
    refine ⟨(having_choose hf access).symm ▸ h.toCounts, ?_, h.holder_idle⟩
    intro s own point hs
    have hst : s ≠ t := by
      rintro rfl
      exact hnot (.inr (waits_iff.mpr ⟨own, point, hs⟩))
    rw [Function.update_of_ne hst]
    exact h.point_eq s own point hs
  release _ _ _ command _ _ hb _ := by
    rw [show readWrite.start command _ _ = _ from start_givesBack hb]
    rfl
  step h _ _ _ hp hmode := h.step hp hmode

end Moded

end SpinLocks.ReadWrite
