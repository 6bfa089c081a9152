import SpinLocks.Lock.ArrayQueue
import SpinLocks.Proofs.Usage

namespace SpinLocks.ArrayQueue

abbrev Threads (n : Nat) := Usage Shared Own Wait n

/-- One flag is raised, that of the slot. -/
structure Raised (flags : List Bool) (slot : Nat) : Prop where
  slot_lt : slot < flags.length
  flag_eq : ∀ i < flags.length, flags[i]? = some (decide (i = slot))

namespace Raised

variable {flags : List Bool} {slot next : Nat}

theorem range {length : Nat} (h : slot < length) :
    Raised ((List.range length).map (· == slot)) slot where
  slot_lt := by simpa using h
  flag_eq := by
    intro i hi
    rw [List.length_map, List.length_range] at hi
    simp [hi, beq_eq_decide]

theorem pass (h : Raised flags slot) (hn : next < flags.length) :
    Raised ((flags.set slot false).set next true) next where
  slot_lt := by simpa using hn
  flag_eq := by
    intro i hi
    rw [List.length_set, List.length_set] at hi
    by_cases hin : i = next
    · rw [hin, List.getElem?_set_self (by simpa using hn), decide_eq_true rfl]
    · rw [List.getElem?_set_ne (Ne.symm hin), decide_eq_false hin]
      by_cases his : i = slot
      · rw [his, List.getElem?_set_self h.slot_lt]
      · rw [List.getElem?_set_ne (Ne.symm his), h.flag_eq i hi, decide_eq_false his]

end Raised

namespace Shared

def nextOwn (shared : Shared) : Own :=
  ⟨shared.tail, shared.tailSlot⟩

def draw (shared : Shared) : Shared :=
  { shared with tail := shared.tail + 1 }

def pass (shared : Shared) (slot : Nat) : Shared :=
  { shared with flags := (shared.flags.set slot false).set (shared.slotOf (slot + 1)) true }

@[simp]
theorem length_pass (shared : Shared) (slot : Nat) :
    (shared.pass slot).flags.length = shared.flags.length := by
  simp [pass]

theorem slotOf_lt {shared : Shared} (h : 0 < shared.flags.length) (ticket : Nat) :
    shared.slotOf ticket < shared.flags.length :=
  Nat.mod_lt _ h

end Shared

variable {shared : Shared} {own : Own} {slot : Nat}

theorem await_eq (h : Raised shared.flags slot) (ho : own.slot < shared.flags.length) :
    await shared own =
      if own.slot = slot then ⟨shared, own, .done .done⟩ else ⟨shared, own, .waiting .flag⟩ := by
  rw [await, h.flag_eq _ ho]
  by_cases hs : own.slot = slot <;> simp [hs]

theorem acquire_eq (h : Raised shared.flags slot) :
    acquire shared own =
      if shared.tailSlot = slot then ⟨shared.draw, shared.nextOwn, .done .done⟩
      else ⟨shared.draw, shared.nextOwn, .waiting .flag⟩ :=
  await_eq (show Raised shared.draw.flags slot from h)
    (Shared.slotOf_lt (Nat.zero_lt_of_lt h.slot_lt) _)

theorem release_eq (ho : own.slot < shared.flags.length) :
    release shared own = ⟨shared.pass own.slot, own, .done .done⟩ :=
  if_pos ho

theorem tail_flag_eq (h : Raised shared.flags slot) :
    shared.flags[shared.tailSlot]? = some (decide (shared.tailSlot = slot)) :=
  h.flag_eq _ (Shared.slotOf_lt (Nat.zero_lt_of_lt h.slot_lt) _)

theorem isFree_eq (h : Raised shared.flags slot) :
    shared.isFree = decide (shared.tailSlot = slot) := by
  rw [Shared.isFree, tail_flag_eq h]
  rfl

theorem tryAcquire_eq (h : Raised shared.flags slot) :
    tryAcquire shared own =
      if shared.tailSlot = slot then ⟨shared.draw, shared.nextOwn, .done (.took true)⟩
      else ⟨shared, own, .done (.took false)⟩ := by
  rw [tryAcquire, tail_flag_eq h]
  by_cases hs : shared.tailSlot = slot <;> simp [hs, Shared.draw, Shared.nextOwn]

section Length

theorem shared_await (shared : Shared) (own : Own) : (await shared own).shared = shared := by
  unfold await
  split <;> rfl

theorem length_flags_acquire (shared : Shared) (own : Own) :
    (acquire shared own).shared.flags.length = shared.flags.length := by
  rw [acquire, shared_await]

theorem length_flags_release (shared : Shared) (own : Own) :
    (release shared own).shared.flags.length = shared.flags.length := by
  unfold release
  split
  · simp
  · rfl

theorem length_flags_tryAcquire (shared : Shared) (own : Own) :
    (tryAcquire shared own).shared.flags.length = shared.flags.length := by
  unfold tryAcquire
  split <;> rfl

theorem length_flags_start (command : Command) (shared : Shared) (own : Own) :
    (start command shared own).shared.flags.length = shared.flags.length := by
  cases command
  case acquire | acquireRead | acquireWrite => exact length_flags_acquire shared own
  case release | releaseRead | releaseWrite => exact length_flags_release shared own
  case tryAcquire => exact length_flags_tryAcquire shared own
  case tryAcquireRead => rfl

open Usage in
theorem length_flags_step {n : Nat} (u : Threads n) (t : Fin n) (action : Action Entry Command) :
    (u.step arrayQueue t action).1.shared.flags.length = u.shared.flags.length := by
  obtain ⟨cause, -, he⟩ | ⟨entry, rfl, hs⟩ | ⟨own, rfl, hs⟩ | ⟨own, command, rfl, hs⟩ |
    ⟨own, point, rfl, hs⟩ := step_cases arrayQueue u t action
  · rw [he]
  · rw [shared_step_join arrayQueue hs]
    show (join entry u.shared).1.flags.length = _
    unfold join
    split <;> rfl
  · rw [shared_step_leave arrayQueue hs]
    rfl
  · rw [step_start hs]
    exact length_flags_start command u.shared own
  · rw [step_resume hs]
    exact congrArg (·.flags.length) (shared_await u.shared own)

theorem length_flags_run {n : Nat} (u : Threads n) (schedule : Schedule n) :
    (u.run arrayQueue schedule).1.shared.flags.length = u.shared.flags.length := by
  induction schedule generalizing u with
  | nil => rfl
  | cons step rest ih =>
    obtain ⟨t, action⟩ := step
    exact (ih _).trans (length_flags_step u t action)

end Length

end SpinLocks.ArrayQueue
