import SpinLocks.Proofs.ArrayQueue.Steps
import SpinLocks.Proofs.Valid

namespace SpinLocks.ArrayQueue

open Usage

variable {n : Nat} {u : Threads n} {first : Nat} {line : List (Fin n)} {t : Fin n} {own : Own}

def Own.drawn (own : Own) : Nat × Nat :=
  (own.ticket.toNat, own.slot)

def RingedIn (length : Nat) (u : Threads n) (first : Nat) (line : List (Fin n)) : Prop :=
  Ringed u first line ∧ u.shared.flags.length = length

theorem RingedIn.ticketed {length : Nat} (h : RingedIn length u first line)
    (hfew : first + line.length < 2 ^ 64) :
    Ticketed Own.drawn (fun i => (i, i % length)) u first line where
  toLined := h.1.toLined
  ticket_eq := by
    intro i hi
    have hlt : first + i < 2 ^ 64 := by omega
    rw [h.1.drawn i hi, Option.map_some, Own.drawn, UInt64.toNat_ofNat_of_lt' hlt, Shared.slotOf,
      h.2]

theorem Ringed.inOrder (h : Ringed u first line) : InOrder arrayQueue u (queue u line) :=
  h.inOrder_of_resume fun _ _ _ hs => (h.settle_resume hs).2

section Idle

variable (h : Ringed u first line) (hfew : first + line.length < 2 ^ 64) (hs : u.seat t = .idle own)
  (hf : u.holds t = false)
include h hfew hs hf

theorem Ringed.enters_of_asks {command : Command} (hasks : command.asks = true) :
    u.enters arrayQueue t (.start command) = true := by
  have hstart : arrayQueue.start command u.shared own = _ := Command.exclusive_of_asks hasks
  have h' : Ringed (u.step arrayQueue t (.start command)).1 first (line ++ [t]) := by
    rw [Usage.step_start hs, hstart]
    exact (h.settle_acquire (h.tailSlot_eq hfew) hs hf).1
  exact h.toLined.enters_enter h'.toLined

theorem Ringed.attempt_iff :
    ∃ taken, (u.step arrayQueue t (.start .tryAcquire)).2 = .done (.took taken) ∧
      (taken = true ↔ ∀ s, ¬ u.Engaged s) := by
  have hcrowded := h.not_crowded (own?_of_idle hs) (h.not_mem_idle hs hf)
  refine ⟨decide (line = []), (h.step_attempt hs (h.tailSlot_eq hfew) hcrowded).2, ?_⟩
  simp only [decide_eq_true_iff, h.engaged_iff, List.eq_nil_iff_forall_not_mem]

end Idle

variable {config : Config} {schedule : Schedule n}

/-- The `i`-th ticket that is drawn, counted from zero, is ticket `i`. -/
theorem in_turn_run (hp : (opening arrayQueue config n).Proper arrayQueue schedule)
    (hfew : ((opening arrayQueue config n).entries arrayQueue schedule).length < 2 ^ 64) :
    let before := opening arrayQueue config n
    let u := (before.run arrayQueue schedule).1
    (∃ waiting, InTurn arrayQueue Own.drawn (fun i => (i, i % max config.maxThreads 2)) before
      schedule waiting) ∧
    u.shared.tail.toNat = (before.entries arrayQueue schedule).length ∧
    (∀ t own, u.seat t = .idle own → u.holds t = false →
      (∀ command, command.asks = true → u.enters arrayQueue t (.start command) = true) ∧
      ∃ taken, (u.step arrayQueue t (.start .tryAcquire)).2 = .done (.took taken) ∧
        (taken = true ↔ ∀ s, ¬ u.Engaged s)) ∧
    ∀ answer ∈ (before.run arrayQueue schedule).2, answer.faults = false := by
  intro before u
  have hopening : RingedIn (max config.maxThreads 2) before 0 [] :=
    ⟨ringed_opening config n, (ringed_opening config n).length_eq⟩
  obtain ⟨first, line, ⟨h, -⟩, hcount, hturn⟩ := inTurn_run arrayQueue
    (fun _ _ _ h hfew => h.ticketed hfew) (fun _ _ _ h _ => h.1.inOrder)
    (fun u first line t action ⟨h, hlength⟩ hfew hp =>
      Draws.mono (h.step hfew (.inl hp)).1 fun _ _ h' =>
        ⟨h', (length_flags_step u t action).trans hlength⟩)
    hopening hp hfew
  have hroom : first + line.length < 2 ^ 64 := hcount ▸ hfew
  have ha : before.Along arrayQueue Allows schedule := hp.mono fun _ _ _ => .inl
  obtain ⟨-, hgood⟩ := (ringed_opening config n).run ha (by simpa using hfew)
  refine ⟨⟨_, hturn⟩, ?_, fun t own hs hf => ⟨fun command hasks => ?_, ?_⟩, hgood⟩
  · rw [h.tail_eq, UInt64.toNat_ofNat_of_lt' hroom, hcount]
  · exact h.enters_of_asks hroom hs hf hasks
  · exact h.attempt_iff hroom hs hf

/-- Both threads wait in turn, and the slots have gone round once when the second draws its second
ticket. -/
theorem in_turn_again :
    let schedule : Schedule 2 :=
      [(0, .join ⟨.pair, 0⟩), (1, .join ⟨.pair, 1⟩), (0, .start .tryAcquire), (1, .start .acquire),
        (0, .start .release), (0, .start .tryAcquire), (0, .start .acquire), (1, .resume),
        (1, .start .release), (1, .start .acquire)]
    let before := opening arrayQueue .pair 2
    before.Proper arrayQueue schedule ∧ (before.entries arrayQueue schedule).length < 2 ^ 64 ∧
      ∃ waiting, InTurn arrayQueue Own.drawn (fun i => (i, i % 2)) before schedule waiting := by
  intro schedule before
  have hp : before.Proper arrayQueue schedule := by decide
  have hfew : (before.entries arrayQueue schedule).length < 2 ^ 64 := by decide
  exact ⟨hp, hfew, (in_turn_run hp hfew).1⟩

end SpinLocks.ArrayQueue
