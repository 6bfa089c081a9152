import SpinLocks.Guarded
import SpinLocks.Proofs.ArrayQueue.Steps
import SpinLocks.Proofs.Valid

namespace SpinLocks.ArrayQueue

open Usage

variable {n : Nat} {u : Threads n} {first : Nat} {line : List (Fin n)} {t : Fin n} {own : Own}

/-- What is told of a lock that is held: that it is, unless all threads that it may serve are
engaged. -/
structure HeldTest (u : Threads n) : Prop where
  isFree_iff : arrayQueue.isFree u.shared = true ↔ Crowded u
  isLocked_iff : ∀ (Data : Type) (data : Data),
    Guarded.isLocked arrayQueue ⟨u.shared, data⟩ = true ↔ ¬ Crowded u
  attempt : ∀ t own, u.seat t = .idle own →
    (u.step arrayQueue t (.start .tryAcquire)).2 = .done (.took (Crowded u))

section Ringed

variable (h : Ringed u first line) (hfew : first + line.length < 2 ^ 64)
include h hfew

theorem Ringed.isFree_iff :
    arrayQueue.isFree u.shared = true ↔ (∀ t, ¬ u.Engaged t) ∨ Crowded u := by
  have hnil : line = [] ↔ ∀ t, ¬ u.Engaged t := by
    simp only [h.engaged_iff, List.eq_nil_iff_forall_not_mem]
  rw [← hnil, ← h.tailSlot_eq_iff (h.tailSlot_eq hfew)]
  show u.shared.isFree = true ↔ _
  rw [isFree_eq h.raised, decide_eq_true_iff]

theorem Ringed.heldTest (hh : u.holds t = true) : HeldTest u := by
  have hfree : arrayQueue.isFree u.shared = true ↔ Crowded u := by
    rw [h.isFree_iff hfew, or_iff_right]
    exact fun hnone => hnone t (.inl hh)
  refine ⟨hfree, fun Data data => ?_, fun s own hs => ?_⟩
  · rw [← hfree, Guarded.isLocked, Bool.not_eq_true', Bool.not_eq_true]
  · have hslot : u.shared.tailSlot = u.shared.slotOf first ↔ Crowded u := by
      rw [← hfree]
      show _ ↔ u.shared.isFree = true
      rw [isFree_eq h.raised, decide_eq_true_iff]
    have hstart : arrayQueue.start .tryAcquire u.shared own = tryAcquire u.shared own := rfl
    rw [Usage.step_start hs, hstart, tryAcquire_eq h.raised]
    by_cases hcrowded : Crowded u
    · rw [if_pos (hslot.mpr hcrowded), decide_eq_true hcrowded]
      rfl
    · rw [if_neg (mt hslot.mp hcrowded), decide_eq_false hcrowded]
      rfl

end Ringed

variable {config : Config} {schedule : Schedule n}

theorem free_test_run (ha : (opening arrayQueue config n).Along arrayQueue Allows schedule)
    (hfew : ((opening arrayQueue config n).entries arrayQueue schedule).length < 2 ^ 64) :
    let u := ((opening arrayQueue config n).run arrayQueue schedule).1
    (arrayQueue.isFree u.shared = true ↔ (∀ t, ¬ u.Engaged t) ∨ Crowded u) ∧
      ((∃ t, u.holds t = true) → HeldTest u) := by
  intro u
  have hdrawn : 0 + ([] : List (Fin n)).length +
      ((opening arrayQueue config n).entries arrayQueue schedule).length < 2 ^ 64 := by
    rwa [List.length_nil, Nat.add_zero, Nat.zero_add]
  obtain ⟨⟨first, line, h, he⟩, -⟩ := (ringed_opening config n).run ha hdrawn
  rw [← he] at hdrawn
  exact ⟨h.isFree_iff hdrawn, fun ⟨_, hh⟩ => h.heldTest hdrawn hh⟩

/-- The second thread waits for the lock, and has got it when both attempt it. -/
theorem free_test_again :
    let schedule : Schedule 2 :=
      [(0, .join ⟨.pair, 0⟩), (1, .join ⟨.pair, 1⟩), (0, .start .acquire), (1, .start .acquire),
        (0, .start .release), (1, .resume), (1, .start .tryAcquire), (0, .start .tryAcquire)]
    let before := opening arrayQueue .pair 2
    before.Along arrayQueue Allows schedule ∧ (before.entries arrayQueue schedule).length < 2 ^ 64 ∧
      HeldTest (before.run arrayQueue schedule).1 := by
  intro schedule before
  have ha : before.Along arrayQueue Allows schedule := by decide
  have hfew : (before.entries arrayQueue schedule).length < 2 ^ 64 := by decide
  exact ⟨ha, hfew, (free_test_run ha hfew).2 ⟨1, by decide⟩⟩

/-- While one of two threads holds the lock and the other waits, the lock is reported free, and the
holder gets it once more. -/
theorem free_test_misleads :
    let schedule : Schedule 2 :=
      [(0, .join ⟨.pair, 0⟩), (1, .join ⟨.pair, 1⟩), (0, .start .acquire), (1, .start .acquire)]
    let before := opening arrayQueue .pair 2
    let u := (before.run arrayQueue schedule).1
    before.Proper arrayQueue schedule ∧ u.holds 0 = true ∧ u.waits 1 = true ∧
      u.shared.flags[u.shared.tailSlot]? = some true ∧ arrayQueue.isFree u.shared = true ∧
      Guarded.isLocked arrayQueue ⟨u.shared, ()⟩ = false ∧
      (u.step arrayQueue 0 (.start .tryAcquire)).2 = .done (.took true) := by
  decide

end SpinLocks.ArrayQueue
