import SpinLocks.Proofs.Mcs.Steps
import SpinLocks.Proofs.Valid

namespace SpinLocks.Mcs

open Usage

variable {n : Nat} {u : Threads n} {line : List (Fin n)} {t : Fin n}

theorem Queued.inOrder (h : Queued u line) : InOrder mcs u (queue u line) :=
  h.inOrder_of_resume fun _ _ _ hs => (h.settle_resume hs).2

theorem Queued.isFree_iff (h : Queued u line) :
    mcs.isFree u.shared = true ↔ ∀ t, ¬ u.Engaged t := by
  have hempty : line = [] ↔ ∀ t, ¬ u.Engaged t := by
    simp only [h.engaged_iff, List.eq_nil_iff_forall_not_mem]
  rw [← hempty, ← h.tail_eq_none_iff]
  exact Option.isNone_iff_eq_none

theorem Queued.release_done (h : Queued u line) (hh : u.holds t = true) {command : Command}
    (hb : command.givesBack = true) : (u.step mcs t (.start command)).2 = .done .done := by
  obtain ⟨own, hs⟩ := h.holder_idle t hh
  obtain ⟨rest, rfl⟩ := h.holder_first t hh
  have hstart : mcs.start command u.shared own = _ := Command.exclusive_of_givesBack hb
  rw [step_start hs, hstart]
  exact (h.settle_release hs hh).2

theorem queued_opening (config : Config) (n : Nat) : Queued (opening mcs config n) [] :=
  { Lined.nil (not_engaged_opening mcs config n), Linked.nil _ _ with
    claimed := by simp [own?_opening]
    inj := by simp [own?_opening]
    holder_idle := fun t hh => absurd (.inl hh) (not_engaged_opening mcs config n t)
    point_eq := by simp [seat_opening]
    first := by simp }

variable {config : Config} {schedule : Schedule n}

/-- All who come to the queue get the lock in this order, one at a time, up to those who wait for it
now. -/
theorem in_order_run (hp : (opening mcs config n).Proper mcs schedule) :
    let before := opening mcs config n
    let u := (before.run mcs schedule).1
    (∃ waiting, before.entries mcs schedule = before.grants mcs schedule ++ waiting ∧
      InOrder mcs u waiting) ∧
    (mcs.isFree u.shared = true ↔ ∀ t, ¬ u.Engaged t) ∧
    (∀ t command, u.holds t = true → command.givesBack = true →
      (u.step mcs t (.start command)).2 = .done .done) ∧
    ∀ answer ∈ (before.run mcs schedule).2, answer.faults = false := by
  intro before u
  obtain ⟨line, h, he⟩ := grants_run Queued (fun _ _ h => h.toLined)
    (fun _ _ _ _ h hp => (h.step hp).1) (queued_opening config n) hp
  obtain ⟨-, hgood⟩ := run_induction (fun u => ∃ line, Queued u line)
    (fun answer => answer.faults = false)
    (fun _ _ _ ⟨_, h⟩ hp => ⟨(h.step hp).1.imp fun _ h => h.1, (h.step hp).2⟩)
    ⟨[], queued_opening config n⟩ hp
  exact ⟨⟨queue u line, he, h.inOrder⟩, h.isFree_iff,
    fun t command hh hb => h.release_done hh hb, hgood⟩

/-- The second thread takes the lock in a single attempt and passes it on to the first, which waits
for it. It gives its node back, gets it again, and waits in turn. -/
theorem in_order_again :
    let schedule : Schedule 2 :=
      [(0, .join ⟨.pair, 0⟩), (1, .join ⟨.pair, 1⟩), (1, .start .tryAcquire),
        (0, .start .acquire), (0, .resume), (1, .start .release), (0, .resume), (1, .leave),
        (1, .join ⟨.pair, 1⟩), (1, .start .tryAcquire), (1, .start .acquire)]
    let before := opening mcs .pair 2
    before.Proper mcs schedule ∧
      ∃ waiting, before.entries mcs schedule = before.grants mcs schedule ++ waiting ∧
        InOrder mcs (before.run mcs schedule).1 waiting := by
  intro schedule before
  have hp : before.Proper mcs schedule := by decide
  exact ⟨hp, (in_order_run hp).1⟩

end SpinLocks.Mcs
