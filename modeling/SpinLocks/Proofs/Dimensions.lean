import SpinLocks.Proofs.Clh.Turns
import SpinLocks.Proofs.Hclh.Turns
import SpinLocks.Proofs.Usage

namespace SpinLocks

section Locks

variable {Shared Own Wait View : Type} {n : Nat}

/-- Nothing that a thread does changes what is seen of the shared state. -/
structure Keeps (lock : Lock Shared Own Wait) (view : Shared → View) : Prop where
  join : ∀ entry shared, view (lock.join entry shared).1 = view shared
  leave : ∀ shared own, view (lock.leave shared own).1 = view shared
  start : ∀ command shared own, view (lock.start command shared own).shared = view shared
  resume : ∀ point shared own, view (lock.resume point shared own).shared = view shared

namespace Keeps

variable {lock : Lock Shared Own Wait} {view : Shared → View} (h : Keeps lock view)
include h

theorem step (s : System Shared Own Wait n) (t : Fin n) (action : Action Entry Command) :
    view (s.step lock.protocol t action).1.shared = view s.shared := by
  obtain ⟨cause, hr⟩ | ⟨entry, rfl, hs⟩ | ⟨own, rfl, hs⟩ | ⟨own, command, rfl, hs⟩ |
    ⟨own, point, rfl, hs⟩ := (s.seat t).action_cases action
  · rw [System.step_refused lock.protocol hr]
  · simp only [System.step, System.join, hs, Lock.protocol]
    split <;> next he => exact (congrArg (view ∘ Prod.fst) he).symm.trans (h.join entry s.shared)
  · simp only [System.step, System.leave, hs, Lock.protocol]
    split <;> next he => exact (congrArg (view ∘ Prod.fst) he).symm.trans (h.leave s.shared own)
  · simp only [System.step, System.start, hs, System.settle_eq]
    exact h.start command s.shared own
  · simp only [System.step, System.resume, hs, System.settle_eq]
    exact h.resume point s.shared own

theorem run (s : System Shared Own Wait n) (schedule : List (Fin n × Action Entry Command)) :
    view (s.run lock.protocol schedule).1.shared = view s.shared := by
  induction schedule generalizing s with
  | nil => rfl
  | cons step rest ih =>
    obtain ⟨t, action⟩ := step
    exact (ih _).trans (h.step s t action)

end Keeps

end Locks

theorem Arena.size_eq_of_claims {α β : Type} {arena : Arena α} {arena' : Arena β}
    (h : arena.claims = arena'.claims) : arena.size = arena'.size := by
  rw [← length_claims, h, length_claims]

theorem Clh.keeps_size : Keeps clh fun shared => shared.nodes.size where
  join := size_join
  leave := size_leave
  start command shared own := Arena.size_eq_of_claims (claims_start command shared own)
  resume point shared own := Arena.size_eq_of_claims (claims_resume point shared own)

namespace Hclh

theorem size_join (entry : Entry) (shared : Shared) :
    (join entry shared).1.nodes.size = shared.nodes.size := by
  simp only [join]
  split
  · rfl
  cases hc : shared.nodes.claim? with
  | none => rfl
  | some found =>
    obtain ⟨k, nodes⟩ := found
    obtain ⟨-, -, rfl⟩ := Arena.isClaimed_of_claim? hc
    simp

theorem queues_join (entry : Entry) (shared : Shared) :
    (join entry shared).1.queues = shared.queues := by
  simp only [join]
  split
  · rfl
  · split <;> rfl

theorem size_leave (shared : Shared) (own : Own) :
    (leave shared own).1.nodes.size = shared.nodes.size := by
  simp only [leave, Arena.unclaim]
  by_cases h : own.node.index < shared.nodes.size <;> simp [h]

theorem queues_leave (shared : Shared) (own : Own) :
    (leave shared own).1.queues = shared.queues := by
  unfold leave
  split <;> rfl

section Queues

theorem shared_awaitGlobal (pred : Link) (shared : Shared) (own : Own) :
    (awaitGlobal pred shared own).shared = shared := by
  unfold awaitGlobal
  split
  · rfl
  · split <;> rfl

theorem queues_splice (shared : Shared) (own : Own) :
    (splice shared own).shared.queues = shared.queues := by
  unfold splice
  split
  · rfl
  · dsimp only
    split
    · rfl
    · rw [shared_awaitGlobal]

theorem queues_awaitLocal (pred : Link) (shared : Shared) (own : Own) :
    (awaitLocal pred shared own).shared.queues = shared.queues := by
  unfold awaitLocal
  split
  · rfl
  · split
    · exact queues_splice shared own
    · split <;> rfl

theorem length_queues_acquire (shared : Shared) (own : Own) :
    (acquire shared own).shared.queues.length = shared.queues.length := by
  unfold acquire
  split
  · rfl
  · dsimp only
    split
    · rw [queues_splice, List.length_set]
    · rw [queues_awaitLocal, List.length_set]

theorem queues_release (shared : Shared) (own : Own) :
    (release shared own).shared.queues = shared.queues := by
  unfold release
  split
  · rfl
  · split <;> rfl

end Queues

theorem keeps_size : Keeps hclh fun shared => shared.nodes.size where
  join := size_join
  leave := size_leave
  start command shared own := Arena.size_eq_of_claims (claims_start command shared own)
  resume point shared own := Arena.size_eq_of_claims (claims_resume point shared own)

theorem keeps_clusters : Keeps hclh fun shared => shared.queues.length where
  join entry shared := congrArg List.length (queues_join entry shared)
  leave shared own := congrArg List.length (queues_leave shared own)
  start command shared own := by
    cases command
    case acquire | acquireRead | acquireWrite => exact length_queues_acquire shared own
    case release | releaseRead | releaseWrite =>
      exact congrArg List.length (queues_release shared own)
    case tryAcquire | tryAcquireRead => rfl
  resume point shared own := by
    cases point with
    | localPred pred => exact congrArg List.length (queues_awaitLocal pred shared own)
    | globalPred pred =>
      show (awaitGlobal pred shared own).shared.queues.length = _
      rw [shared_awaitGlobal]

end Hclh

end SpinLocks
