import SpinLocks.Lock.Mcs
import SpinLocks.Proofs.Claims
import SpinLocks.Proofs.Usage

namespace SpinLocks.Mcs

abbrev Threads (n : Nat) := Usage Shared Own Wait n

namespace Shared

def prepare (shared : Shared) (k : Nat) : Shared :=
  { shared with nodes := shared.nodes.modify k fun _ => .queued }

def enqueue (shared : Shared) (k : Nat) : Shared :=
  { shared.prepare k with tail := some k }

def link (shared : Shared) (pred next : Nat) : Shared :=
  { shared with nodes := shared.nodes.modify pred ({ · with next := some next }) }

def pass (shared : Shared) (k : Nat) : Shared :=
  { shared with nodes := shared.nodes.modify k ({ · with waiting := false }) }

def empty (shared : Shared) : Shared :=
  { shared with tail := none }

end Shared

variable {shared : Shared} {own : Own} {node : Node} {pred next : Nat}

theorem awaitGrant_eq (h : shared.nodes.node? own.node = some node) :
    awaitGrant shared own =
      if node.waiting then ⟨shared, own, .waiting .grant⟩ else ⟨shared, own, .done .done⟩ := by
  simp [awaitGrant, Arena.load_eq_ok_iff.mpr h]

theorem acquire_of_none (h : own.node < shared.nodes.size) (ht : shared.tail = none) :
    acquire shared own = ⟨shared.enqueue own.node, own, .done .done⟩ := by
  simp [acquire, ht, Arena.store, Arena.update, h, Shared.enqueue, Shared.prepare]

theorem acquire_link (h : own.node < shared.nodes.size) (ht : shared.tail = some pred)
    (hp : pred < shared.nodes.size) :
    acquire shared own = awaitGrant ((shared.enqueue own.node).link pred own.node) own := by
  simp [acquire, ht, Arena.store, Arena.update, h, hp, Shared.enqueue, Shared.prepare, Shared.link]

theorem acquire_of_some (h : own.node < shared.nodes.size) (ht : shared.tail = some pred)
    (hp : pred < shared.nodes.size) (hne : pred ≠ own.node) :
    acquire shared own =
      ⟨(shared.enqueue own.node).link pred own.node, own, .waiting .grant⟩ := by
  have hnode : ((shared.enqueue own.node).link pred own.node).nodes.node? own.node =
      some .queued := by
    obtain ⟨node, hn⟩ := Option.ne_none_iff_exists'.mp
      (mt Arena.node?_eq_none_iff.mp (Nat.not_le.mpr h))
    simp [Shared.link, Shared.enqueue, Shared.prepare, Arena.node?_modify, hne, hn]
  rw [acquire_link h ht hp, awaitGrant_eq hnode]
  rfl

theorem awaitSuccessor_of_none (h : shared.nodes.node? own.node = some node)
    (hn : node.next = none) : awaitSuccessor shared own = ⟨shared, own, .waiting .successor⟩ := by
  obtain ⟨link, waiting⟩ := node
  cases hn
  simp [awaitSuccessor, Arena.load_eq_ok_iff.mpr h]

theorem awaitSuccessor_of_some (h : shared.nodes.node? own.node = some node)
    (hn : node.next = some next) (hlt : next < shared.nodes.size) :
    awaitSuccessor shared own = ⟨shared.pass next, own, .done .done⟩ := by
  obtain ⟨link, waiting⟩ := node
  cases hn
  simp [awaitSuccessor, grant, Arena.load_eq_ok_iff.mpr h, Arena.update, hlt, Shared.pass]

theorem release_of_none (h : shared.nodes.node? own.node = some node) (hn : node.next = none)
    (ht : shared.tail = some own.node) :
    release shared own = ⟨shared.empty, own, .done .done⟩ := by
  obtain ⟨link, waiting⟩ := node
  cases hn
  simp [release, Arena.load_eq_ok_iff.mpr h, ht, Shared.empty]

theorem release_of_ne (h : shared.nodes.node? own.node = some node)
    (hne : node.next = none → shared.tail ≠ some own.node) :
    release shared own = awaitSuccessor shared own := by
  obtain ⟨link, waiting⟩ := node
  cases link with
  | none => simp [release, Arena.load_eq_ok_iff.mpr h, hne rfl]
  | some next => simp [release, Arena.load_eq_ok_iff.mpr h]

theorem release_of_some (h : shared.nodes.node? own.node = some node)
    (hn : node.next = some next) (hlt : next < shared.nodes.size) :
    release shared own = ⟨shared.pass next, own, .done .done⟩ := by
  rw [release_of_ne h (by simp [hn]), awaitSuccessor_of_some h hn hlt]

theorem tryAcquire_eq (h : own.node < shared.nodes.size) :
    tryAcquire shared own =
      if shared.tail.isNone then ⟨shared.enqueue own.node, own, .done (.took true)⟩
      else ⟨shared.prepare own.node, own, .done (.took false)⟩ := by
  simp [tryAcquire, Arena.store, Arena.update, h, Shared.enqueue, Shared.prepare]

theorem leave_eq (h : own.node < shared.nodes.size) :
    leave shared own = ({ shared with nodes := shared.nodes.setClaimed own.node false }, none) := by
  simp [leave, Arena.unclaim, h]

theorem join_none (h : shared.nodes.claim? = none) (entry : Entry) :
    join entry shared = (shared, lackOfCapacity "mcs" shared.nodes.size) := by
  simp [join, h]

theorem join_some {nodes : Arena Node} {k : Nat} (h : shared.nodes.claim? = some (k, nodes))
    (entry : Entry) : join entry shared = ({ shared with nodes }, .ok ⟨k⟩) := by
  simp [join, h]

section Claims

theorem claims_awaitGrant (shared : Shared) (own : Own) :
    (awaitGrant shared own).shared.nodes.claims = shared.nodes.claims := by
  unfold awaitGrant
  split
  · split <;> rfl
  · rfl

theorem claims_acquire (shared : Shared) (own : Own) :
    (acquire shared own).shared.nodes.claims = shared.nodes.claims := by
  unfold acquire
  split
  · rfl
  · next hprepared =>
    have hclaims := Arena.claims_of_store hprepared
    dsimp only
    split
    · exact hclaims
    · split
      · next hlinked =>
        rw [claims_awaitGrant]
        exact (Arena.claims_of_update hlinked).trans hclaims
      · exact hclaims

theorem claims_awaitSuccessor (shared : Shared) (own : Own) :
    (awaitSuccessor shared own).shared.nodes.claims = shared.nodes.claims := by
  unfold awaitSuccessor
  split
  · unfold grant
    split
    · next hpassed => exact Arena.claims_of_update hpassed
    · rfl
  · rfl
  · rfl

theorem claims_release (shared : Shared) (own : Own) :
    (release shared own).shared.nodes.claims = shared.nodes.claims := by
  unfold release
  split
  · split
    · rfl
    · exact claims_awaitSuccessor shared own
  · exact claims_awaitSuccessor shared own

theorem claims_tryAcquire (shared : Shared) (own : Own) :
    (tryAcquire shared own).shared.nodes.claims = shared.nodes.claims := by
  unfold tryAcquire
  split
  · next hprepared =>
    have hclaims := Arena.claims_of_store hprepared
    split <;> exact hclaims
  · rfl

theorem claims_start (command : Command) (shared : Shared) (own : Own) :
    (start command shared own).shared.nodes.claims = shared.nodes.claims := by
  cases command
  case acquire | acquireRead | acquireWrite => exact claims_acquire shared own
  case release | releaseRead | releaseWrite => exact claims_release shared own
  case tryAcquire => exact claims_tryAcquire shared own
  case tryAcquireRead => rfl

theorem claims_resume (point : Wait) (shared : Shared) (own : Own) :
    (resume point shared own).shared.nodes.claims = shared.nodes.claims := by
  cases point with
  | grant => exact claims_awaitGrant shared own
  | successor => exact claims_awaitSuccessor shared own

end Claims

end SpinLocks.Mcs
