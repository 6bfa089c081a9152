import SpinLocks.Lock.Clh
import SpinLocks.Proofs.Claims
import SpinLocks.Proofs.Usage

namespace SpinLocks.Clh

abbrev Threads (n : Nat) := Usage Shared Own Wait n

namespace Shared

def enqueue (shared : Shared) (k : Nat) : Shared where
  tail := some k
  nodes := shared.nodes.modify k fun _ => true

def pass (shared : Shared) (k : Nat) : Shared :=
  { shared with nodes := shared.nodes.modify k fun _ => false }

section Nodes

variable {shared : Shared} {j k : Nat}

theorem node?_enqueue_self (hk : k < shared.nodes.size) :
    (shared.enqueue k).nodes.node? k = some true := by
  obtain ⟨busy, hbusy⟩ := Arena.exists_node? hk
  simp [enqueue, Arena.node?_modify, hbusy]

theorem node?_enqueue_of_ne (h : j ≠ k) :
    (shared.enqueue k).nodes.node? j = shared.nodes.node? j := by
  simp [enqueue, Arena.node?_modify, h.symm]

theorem node?_pass_self (hk : k < shared.nodes.size) :
    (shared.pass k).nodes.node? k = some false := by
  obtain ⟨busy, hbusy⟩ := Arena.exists_node? hk
  simp [pass, Arena.node?_modify, hbusy]

theorem node?_pass_of_ne (h : j ≠ k) :
    (shared.pass k).nodes.node? j = shared.nodes.node? j := by
  simp [pass, Arena.node?_modify, h.symm]

theorem isClaimed_enqueue : (shared.enqueue k).nodes.isClaimed = shared.nodes.isClaimed :=
  funext fun _ => Arena.isClaimed_modify ..

theorem isClaimed_pass : (shared.pass k).nodes.isClaimed = shared.nodes.isClaimed :=
  funext fun _ => Arena.isClaimed_modify ..

end Nodes

end Shared

variable {shared : Shared} {own : Own} {k : Nat} {busy : Bool}

theorem isFree_eq (ht : shared.tail = some k) (hk : shared.nodes.node? k = some busy) :
    shared.isFree = !busy := by
  simp [Shared.isFree, ht, Link.index, Arena.load_eq_ok_iff.mpr hk]

theorem await_eq (hp : own.pred = some k) (hk : shared.nodes.node? k = some busy) :
    await shared own =
      if busy then ⟨shared, own, .waiting .pred⟩ else ⟨shared, own, .done .done⟩ := by
  cases busy <;> simp [await, hp, Link.index, Arena.load_eq_ok_iff.mpr hk]

theorem acquire_eq (hn : own.node = some k) (hk : k < shared.nodes.size) :
    acquire shared own = await (shared.enqueue k) { own with pred := shared.tail } := by
  simp [acquire, hn, Link.index, Arena.store, Arena.update, hk, Shared.enqueue]

theorem release_eq (hn : own.node = some k) (hk : k < shared.nodes.size) :
    release shared own = ⟨shared.pass k, { own with node := own.pred }, .done .done⟩ := by
  simp [release, hn, Link.index, Arena.store, Arena.update, hk, Shared.pass]

theorem leave_eq (hn : own.node = some k) (hk : k < shared.nodes.size) :
    leave shared own = ({ shared with nodes := shared.nodes.setClaimed k false }, none) := by
  simp [leave, hn, Link.index, Arena.unclaim, hk]

theorem join_none (h : shared.nodes.claim? = none) (entry : Entry) :
    join entry shared = (shared, lackOfCapacity "clh" shared.capacity) := by
  simp [join, h]

theorem join_some {nodes : Arena Bool} (h : shared.nodes.claim? = some (k, nodes))
    (entry : Entry) : join entry shared = ({ shared with nodes }, .ok ⟨some k, none⟩) := by
  simp [join, h]

section Claims

theorem shared_await (shared : Shared) (own : Own) : (await shared own).shared = shared := by
  unfold await
  split <;> rfl

theorem claims_acquire (shared : Shared) (own : Own) :
    (acquire shared own).shared.nodes.claims = shared.nodes.claims := by
  unfold acquire
  split
  · next he =>
    rw [shared_await]
    exact Arena.claims_of_store he
  · rfl

theorem claims_release (shared : Shared) (own : Own) :
    (release shared own).shared.nodes.claims = shared.nodes.claims := by
  unfold release
  split
  · next he => exact Arena.claims_of_store he
  · rfl

theorem claims_start (command : Command) (shared : Shared) (own : Own) :
    (start command shared own).shared.nodes.claims = shared.nodes.claims := by
  cases command
  case acquire | acquireRead | acquireWrite => exact claims_acquire shared own
  case release | releaseRead | releaseWrite => exact claims_release shared own
  case tryAcquire | tryAcquireRead => rfl

theorem claims_resume (point : Wait) (shared : Shared) (own : Own) :
    (resume point shared own).shared.nodes.claims = shared.nodes.claims := by
  cases point
  show (await shared own).shared.nodes.claims = _
  rw [shared_await]

theorem size_join (entry : Entry) (shared : Shared) :
    (join entry shared).1.nodes.size = shared.nodes.size := by
  cases hc : shared.nodes.claim? with
  | none => rw [join_none hc]
  | some found =>
    obtain ⟨k, nodes⟩ := found
    rw [join_some hc, (Arena.isClaimed_of_claim? hc).2.2]
    exact Arena.size_setClaimed ..

theorem size_leave (shared : Shared) (own : Own) :
    (leave shared own).1.nodes.size = shared.nodes.size := by
  simp only [leave, Arena.unclaim]
  split
  · next he =>
    split at he
    · cases he
      exact Arena.size_setClaimed ..
    · cases he
  · rfl

end Claims

section Commands

open Usage

variable {n : Nat} {u : Threads n} {t : Fin n} {command : Command}

theorem step_asks (hs : u.seat t = .idle own) (hc : command.asks = true) :
    u.step clh t (.start command) =
      (u.settle t (acquire u.shared own), (acquire u.shared own).answer) := by
  have hstart : clh.start command u.shared own = _ := Command.exclusive_of_asks hc
  rw [step_start hs, hstart]

theorem step_givesBack (hs : u.seat t = .idle own) (hb : command.givesBack = true) :
    u.step clh t (.start command) =
      (u.settle t (release u.shared own), (release u.shared own).answer) := by
  have hstart : clh.start command u.shared own = _ := Command.exclusive_of_givesBack hb
  rw [step_start hs, hstart]

theorem attempt_eq (hs : u.seat t = .idle own) (hb : command.givesBack = false)
    (hc : command.asks = false) :
    u.step clh t (.start command) = (u, command.rejection "clh") :=
  step_attempt hs rfl hb hc

end Commands

end SpinLocks.Clh
