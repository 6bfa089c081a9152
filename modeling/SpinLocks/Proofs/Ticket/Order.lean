import SpinLocks.Proofs.Ticket.Queue
import SpinLocks.Proofs.Valid

namespace SpinLocks.Ticket

open Usage

variable {n : Nat} {start : UInt32} {u : Threads n} {first : Nat} {line rest : List (Fin n)}
  {t : Fin n} {own : Own} {point : Wait} {action : Action Entry Command}

abbrev Advances (start : UInt32) (u : Threads n) (t : Fin n) (action : Action Entry Command)
    (first : Nat) (line : List (Fin n)) : Prop :=
  Draws ticket (Counted start) u t action first line

theorem Advances.stay (h : Counted start u first line)
    (h' : Counted start (u.step ticket t action).1 first line) :
    Advances start u t action first line :=
  Draws.stay (fun _ _ _ h => h.toLined) h h'

theorem Advances.enter (h : Counted start u first line)
    (h' : Counted start (u.step ticket t action).1 first (line ++ [t])) :
    Advances start u t action first line :=
  Draws.enter (fun _ _ _ h => h.toLined) h h'

namespace Counted

theorem settle_release (h : Counted start u first (t :: rest)) (hh : u.holds t = true) :
    Counted start (u.settle t (release u.shared own)) (first + 1) rest := by
  rw [release, settle_done, hh]
  exact h.call

section Turns

variable (hn : n < 2 ^ 32) (h : Counted start u first line)
include hn h

theorem settle_acquire (hs : u.seat t = .idle own) (hf : u.holds t = false) :
    Counted start (u.settle t (acquire u.shared own)) first (line ++ [t]) ∧
      (acquire u.shared own).answer.faults = false := by
  have ht := h.not_mem_idle hs hf
  rw [acquire, await]
  split
  · next hcalled =>
    rw [Word.head_draw] at hcalled
    rw [settle_done, hf]
    exact ⟨h.draw ht rfl rfl (fun _ => (h.head_eq_tail_iff hn).mp hcalled) fun _ => ⟨_, rfl⟩, rfl⟩
  · rw [settle_waiting, hf]
    exact ⟨h.draw ht rfl rfl (by simp) (by simp), rfl⟩

theorem settle_attempt (hs : u.seat t = .idle own) (hf : u.holds t = false) :
    Counted start (u.settle t (tryAcquire u.shared own)) first (if line = [] then [t] else line) ∧
      (tryAcquire u.shared own).answer = .done (.took (line = [])) := by
  have hdrawn := Word.drawIfFree?_eq u.shared
  simp only [h.head_eq_tail_iff hn] at hdrawn
  rw [tryAcquire, hdrawn]
  by_cases hnil : line = []
  · subst hnil
    simp only [if_true, settle_took, hf, Bool.false_xor]
    exact ⟨h.draw List.not_mem_nil rfl rfl (fun _ => rfl) fun _ => ⟨_, rfl⟩, rfl⟩
  · simp only [if_neg hnil, settle_took, Bool.xor_false, ← hs, put_self]
    exact ⟨h, by simp [Turn.answer, hnil]⟩

theorem settle_resume (hs : u.seat t = .waiting own point) :
    Counted start (u.settle t (resume point u.shared own)) first line ∧
      (resume point u.shared own).answer =
        if line.head? = some t then .done .done else .waiting := by
  have hw : u.waits t = true := waits_iff.mpr ⟨own, point, hs⟩
  have ho := own?_of_waiting hs
  have hcalled := h.head_eq_ticket_iff hn ((h.engaged_iff t).mp (.inr hw)) ho
  cases point
  rw [show resume .called u.shared own = await u.shared own from rfl, await]
  simp only [hcalled]
  by_cases hhead : line.head? = some t
  · obtain ⟨rest, rfl⟩ := List.head?_eq_some_iff.mp hhead
    rw [if_pos hhead, if_pos hhead, settle_done, h.waits_holds t hw]
    exact ⟨h.grant ho, rfl⟩
  · rw [if_neg hhead, if_neg hhead, settle_self hs]
    exact ⟨h, rfl⟩

theorem inOrder : InOrder ticket u (queue u line) :=
  h.inOrder_of_resume fun _ _ _ hs => (h.settle_resume hn hs).2

theorem step_asks (hs : u.seat t = .idle own) (hf : u.holds t = false) {command : Command}
    (hasks : command.asks = true) :
    Counted start (u.step ticket t (.start command)).1 first (line ++ [t]) ∧
      (u.step ticket t (.start command)).2.faults = false := by
  have hstart : ticket.start command u.shared own = acquire u.shared own :=
    Command.exclusive_of_asks hasks
  rw [step_start hs, hstart]
  dsimp only
  exact h.settle_acquire hn hs hf

theorem enters_of_asks (hs : u.seat t = .idle own) (hf : u.holds t = false) {command : Command}
    (hasks : command.asks = true) : u.enters ticket t (.start command) = true :=
  h.toLined.enters_enter (h.step_asks hn hs hf hasks).1.toLined

theorem step_attempt (hs : u.seat t = .idle own) (hf : u.holds t = false) :
    Advances start u t (.start .tryAcquire) first line ∧
      (u.step ticket t (.start .tryAcquire)).2 = .done (.took (line = [])) := by
  have hstep : u.step ticket t (.start .tryAcquire) = _ := step_start hs .tryAcquire
  obtain ⟨h', he⟩ := h.settle_attempt hn hs hf
  refine ⟨?_, by rw [hstep]; exact he⟩
  split at h'
  · next hnil =>
    subst hnil
    exact .enter h (by rwa [hstep])
  · exact .stay h (by rwa [hstep])

theorem attempt_iff (hs : u.seat t = .idle own) (hf : u.holds t = false) :
    ∃ taken, (u.step ticket t (.start .tryAcquire)).2 = .done (.took taken) ∧
      (taken = true ↔ ∀ s, ¬ u.Engaged s) := by
  refine ⟨decide (line = []), (h.step_attempt hn hs hf).2, ?_⟩
  simp only [decide_eq_true_iff, h.engaged_iff, List.eq_nil_iff_forall_not_mem]

theorem step_start {command : Command} (hs : u.seat t = .idle own)
    (hp : u.permits t (.start command) = true) :
    Advances start u t (.start command) first line ∧
      (u.step ticket t (.start command)).2.faults = false := by
  obtain ⟨hh, he⟩ | ⟨hh, ⟨hasks, -⟩ | ⟨rfl, -⟩ | he⟩ := start_cases ticket hs rfl hp
  · obtain ⟨rest, rfl⟩ := h.holder_first t hh
    exact ⟨Draws.leave hh (by rw [he]; exact h.settle_release hh), by rw [he]; rfl⟩
  · obtain ⟨h', hfaults⟩ := h.step_asks hn hs hh hasks
    exact ⟨.enter h h', hfaults⟩
  · obtain ⟨h', he⟩ := h.step_attempt hn hs hh
    exact ⟨h', by rw [he]; rfl⟩
  · exact ⟨.stay h (by rwa [he]), by rw [he]; rfl⟩

theorem step (hp : u.permits t action = true) :
    Advances start u t action first line ∧ (u.step ticket t action).2.faults = false := by
  obtain ⟨cause, -, he⟩ | ⟨entry, rfl, hs⟩ | ⟨own, rfl, hs⟩ | ⟨own, command, rfl, hs⟩ |
    ⟨own, point, rfl, hs⟩ := step_cases ticket u t action
  · exact ⟨.stay h (by rwa [he]), by rw [he]; rfl⟩
  · have hnot := h.not_mem_vacant h.holder_idle hs
    have hjoin : ticket.join entry u.shared = (u.shared, .ok Own.initial) := rfl
    have hstep := step_join_ok ticket hs hjoin
    rw [not_holds_vacant h.holder_idle hs] at hstep
    exact ⟨.stay h (by rw [hstep]; exact h.frame hnot rfl), by rw [hstep]; rfl⟩
  · have hf : u.holds t = false := by simpa [permits] using hp
    have hleave : ticket.leave u.shared own = (u.shared, none) := rfl
    have hstep := step_leave ticket hs hleave
    rw [hf] at hstep
    exact ⟨.stay h (by rw [hstep]; exact h.frame (h.not_mem_idle hs hf) rfl), by rw [hstep]; rfl⟩
  · exact h.step_start hn hs hp
  · obtain ⟨h', he⟩ := h.settle_resume hn hs
    have hstep : u.step ticket t .resume = _ := step_resume hs
    refine ⟨.stay h (by rwa [hstep]), ?_⟩
    rw [hstep]
    show (resume point u.shared own).answer.faults = false
    rw [he]
    split <;> rfl

end Turns

end Counted

theorem counted_fresh {word : Word} (hw : word.head = word.tail) (n : Nat) :
    Counted word.head (fresh word n : Threads n) 0 [] where
  toTicketed := .nil (not_engaged_fresh word n)
  holder_idle t hh := absurd (.inl hh) (not_engaged_fresh word n t)
  head_eq := (number_zero word.head).symm
  tail_eq := hw.symm.trans (number_zero word.head).symm

variable {word : Word} {schedule : Schedule n}

/-- Whatever ticket comes first, all others follow it one by one. -/
theorem wrapping_run (hn : n < 2 ^ 32) (hw : word.head = word.tail)
    (hp : (fresh word n : Threads n).Proper ticket schedule) :
    let before : Threads n := fresh word n
    let u := (before.run ticket schedule).1
    (∃ waiting, InTurn ticket Own.ticket (number word.head) before schedule waiting) ∧
    u.shared.queued.toNat = u.engaged.card ∧
    (ticket.isFree u.shared = true ↔ u.engaged.card = 0) ∧
    (∀ t own, u.seat t = .idle own → u.holds t = false →
      (∀ command, command.asks = true → u.enters ticket t (.start command) = true) ∧
      ∃ taken, (u.step ticket t (.start .tryAcquire)).2 = .done (.took taken) ∧
        (taken = true ↔ ∀ s, ¬ u.Engaged s)) ∧
    ∀ answer ∈ (before.run ticket schedule).2, answer.faults = false := by
  intro before u
  obtain ⟨first, line, h, -, hturn⟩ := inTurn_run ticket
    (fun _ _ _ h _ => h.toTicketed) (fun _ _ _ h _ => h.inOrder hn)
    (fun _ _ _ _ _ h _ hp => (h.step hn hp).1)
    (counted_fresh hw n) hp (Nat.lt_succ_self _)
  obtain ⟨-, hgood⟩ := run_induction (fun u => ∃ first line, Counted word.head u first line)
    (fun answer => answer.faults = false)
    (fun _ _ _ ⟨_, _, h⟩ hp => by
      obtain ⟨⟨first, line, h', -⟩, hfaults⟩ := h.step hn hp
      exact ⟨⟨first, line, h'⟩, hfaults⟩)
    ⟨0, [], counted_fresh hw n⟩ hp
  exact ⟨⟨_, hturn⟩, h.toNat_queued hn, h.isFree_iff hn, fun t own hs hf =>
    ⟨fun _ hasks => h.enters_of_asks hn hs hf hasks, h.attempt_iff hn hs hf⟩, hgood⟩

/-- The first thread has the last ticket but one. The last ticket and ticket zero are drawn before
it gives the lock back. -/
theorem wrapping_zero :
    let word : Word := .ofCounters 0xfffffffe 0xfffffffe
    let schedule : Schedule 3 :=
      [(0, .join ⟨.pair, 0⟩), (1, .join ⟨.pair, 1⟩), (2, .join ⟨.pair, 0⟩),
        (0, .start .tryAcquire), (1, .start .acquire), (2, .start .acquire),
        (0, .start .release), (1, .resume), (0, .start .acquire)]
    let before : Threads 3 := fresh word 3
    3 < 2 ^ 32 ∧ word.head = word.tail ∧ before.Proper ticket schedule ∧
      ∃ waiting, InTurn ticket Own.ticket (number word.head) before schedule waiting := by
  intro word schedule before
  have hn : 3 < 2 ^ 32 := by decide
  have hw : word.head = word.tail := by decide
  have hp : before.Proper ticket schedule := by decide
  exact ⟨hn, hw, hp, (wrapping_run hn hw hp).1⟩

end SpinLocks.Ticket
