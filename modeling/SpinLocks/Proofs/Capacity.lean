import SpinLocks.Proofs.ArrayQueue.Turns
import SpinLocks.Proofs.Clh.Steps
import SpinLocks.Proofs.Hclh.Runs
import SpinLocks.Proofs.Mcs.Handover
import SpinLocks.Proofs.Participants

namespace SpinLocks

open Usage

variable {n : Nat} {config : Config} {schedule : Schedule n}

namespace ArrayQueue

variable {u : Threads n} {t : Fin n} {action : Action Entry Command}

structure Attended (capacity : Nat) (u : Threads n) : Prop where
  capacity_eq : u.shared.capacity = capacity
  participants_eq : u.members.card = u.shared.participants
  participants_le : u.shared.participants ≤ u.shared.capacity

theorem attendance_start (command : Command) (shared : Shared) (own : Own) :
    (start command shared own).shared.participants = shared.participants ∧
      (start command shared own).shared.capacity = shared.capacity := by
  cases command
  case acquire | acquireRead | acquireWrite =>
    show (await _ _).shared.participants = _ ∧ (await _ _).shared.capacity = _
    rw [shared_await]
    exact ⟨rfl, rfl⟩
  case release | releaseRead | releaseWrite =>
    show (release shared own).shared.participants = _ ∧ (release shared own).shared.capacity = _
    unfold release
    split <;> exact ⟨rfl, rfl⟩
  case tryAcquire =>
    show (tryAcquire shared own).shared.participants = _ ∧
      (tryAcquire shared own).shared.capacity = _
    unfold tryAcquire
    split <;> exact ⟨rfl, rfl⟩
  case tryAcquireRead => exact ⟨rfl, rfl⟩

theorem Attended.step {capacity : Nat} (h : Attended capacity u) :
    Attended capacity (u.step arrayQueue t action).1 := by
  obtain ⟨cause, -, he⟩ | ⟨entry, rfl, hs⟩ | ⟨own, rfl, hs⟩ | ⟨own, command, rfl, hs⟩ |
    ⟨own, point, rfl, hs⟩ := step_cases arrayQueue u t action
  · rw [he]
    exact h
  · by_cases hlt : u.shared.participants < u.shared.capacity
    · have hjoin : arrayQueue.join entry u.shared = (_, .ok ⟨0, 0⟩) := if_pos hlt
      rw [step_join_ok arrayQueue hs hjoin]
      refine ⟨h.capacity_eq, ?_, hlt⟩
      rw [card_members_join hs rfl, h.participants_eq]
      rfl
    · have hjoin : arrayQueue.join entry u.shared = (u.shared, .error _) := if_neg hlt
      rw [step_join_error arrayQueue hs hjoin, ← hs, put_self]
      exact h
  · have hleave : arrayQueue.leave u.shared own =
        ({ u.shared with participants := u.shared.participants - 1 }, none) := rfl
    rw [step_leave arrayQueue hs hleave]
    refine ⟨h.capacity_eq, ?_, (Nat.sub_le ..).trans h.participants_le⟩
    rw [card_members_leave (own?_of_idle hs), h.participants_eq]
    rfl
  · obtain ⟨hparticipants, hcapacity⟩ := attendance_start command u.shared own
    rw [step_start hs]
    refine ⟨hcapacity.trans h.capacity_eq, ?_, ?_⟩
    · rw [members_settle (own?_of_idle hs)]
      exact h.participants_eq.trans hparticipants.symm
    · exact hparticipants.le.trans (h.participants_le.trans hcapacity.ge)
  · have hshared : (arrayQueue.resume point u.shared own).shared = u.shared := shared_await ..
    rw [step_resume hs]
    refine ⟨?_, ?_, ?_⟩
    · simpa [settle, hshared] using h.capacity_eq
    · rw [members_settle (own?_of_waiting hs)]
      simpa [settle, hshared] using h.participants_eq
    · simpa [settle, hshared] using h.participants_le

theorem Attended.limited {capacity : Nat} (h : Attended capacity u) :
    Limited arrayQueue capacity u where
  card_le := by
    rw [h.participants_eq, ← h.capacity_eq]
    exact h.participants_le
  join_room := by
    intro t entry hs hlt
    rw [h.participants_eq, ← h.capacity_eq] at hlt
    have hjoin : arrayQueue.join entry u.shared = (_, .ok ⟨0, 0⟩) := if_pos hlt
    rw [step_join_ok arrayQueue hs hjoin]
  join_full := by
    intro t entry hs heq
    rw [h.participants_eq] at heq
    have hlt : ¬ u.shared.participants < u.shared.capacity := by rw [heq, h.capacity_eq]; omega
    have hjoin : arrayQueue.join entry u.shared = (u.shared, .error _) := if_neg hlt
    rw [step_join_error arrayQueue hs hjoin, ← hs, put_self, h.capacity_eq]
    rfl

theorem Attended.run {capacity : Nat} (h : Attended capacity u) (schedule : Schedule n) :
    Attended capacity (u.run arrayQueue schedule).1 := by
  induction schedule generalizing u with
  | nil => exact h
  | cons step rest ih => exact ih h.step

end ArrayQueue

namespace Mcs

def claims (shared : Shared) : List Bool :=
  shared.nodes.claims

theorem admits {shared : Shared} {capacity : Nat} (hlength : (claims shared).length = capacity)
    (entry : Entry) : Admits mcs claims capacity shared entry := by
  cases hc : shared.nodes.claim? with
  | none =>
    have hjoin := join_none hc entry
    rw [← Arena.length_claims, show shared.nodes.claims.length = capacity from hlength] at hjoin
    exact .inl ⟨fun _ => Arena.claims_of_claim?_eq_none hc, hjoin⟩
  | some found =>
    obtain ⟨k, nodes⟩ := found
    obtain ⟨hfree, hclaims⟩ := Arena.claims_of_claim? hc
    exact .inr ⟨k, _, _, hfree, join_some hc entry, hclaims⟩

end Mcs

namespace Clh

def claims (shared : Shared) : List Bool :=
  shared.nodes.claims

theorem admits {shared : Shared} {capacity : Nat} (hlength : (claims shared).length = capacity + 1)
    (entry : Entry) : Admits clh claims capacity shared entry := by
  cases hc : shared.nodes.claim? with
  | none =>
    have hcapacity : shared.capacity = capacity := by
      rw [Shared.capacity, ← Arena.length_claims]
      exact Nat.sub_eq_of_eq_add hlength
    have hjoin := join_none hc entry
    rw [hcapacity] at hjoin
    exact .inl ⟨fun _ => Arena.claims_of_claim?_eq_none hc, hjoin⟩
  | some found =>
    obtain ⟨k, nodes⟩ := found
    obtain ⟨hfree, hclaims⟩ := Arena.claims_of_claim? hc
    exact .inr ⟨k, _, _, hfree, join_some hc entry, hclaims⟩

end Clh

namespace Hclh

def claims (shared : Shared) : List Bool :=
  shared.nodes.claims

theorem Seated.admits {u : Threads n} (h : Seated u) {capacity : Nat}
    (hlength : (claims u.shared).length = capacity + 1) (entry : Entry) :
    Admits hclh claims capacity u.shared entry := by
  obtain ⟨hc, hjoin⟩ | ⟨k, cluster, -, -, hc, -, hjoin⟩ :=
    join_cases entry h.clusters_pos h.clusters_le
  · have hcapacity : u.shared.capacity = capacity := by
      rw [Shared.capacity, ← Arena.length_claims]
      exact Nat.sub_eq_of_eq_add hlength
    rw [hcapacity] at hjoin
    exact .inl ⟨fun _ => Arena.claims_of_claim?_eq_none hc, hjoin⟩
  · obtain ⟨hfree, hclaims⟩ := Arena.claims_of_claim? hc
    exact .inr ⟨k, _, _, hfree, hjoin, (Arena.claims_modify ..).trans hclaims⟩

end Hclh

end SpinLocks
