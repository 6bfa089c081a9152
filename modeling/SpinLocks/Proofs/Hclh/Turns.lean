import Mathlib.Tactic.ByContra
import SpinLocks.Lock.Hclh
import SpinLocks.Proofs.Claims
import SpinLocks.Proofs.Hclh.NodeState

namespace SpinLocks.Hclh

namespace Shared

def Shut (shared : Shared) (k : Nat) : Prop :=
  ∃ state, shared.nodes.node? k = some state ∧ state.mustWait = true

def Open (shared : Shared) (k : Nat) : Prop :=
  ∃ state, shared.nodes.node? k = some state ∧ state.mustWait = false

/-- A thread of the cluster that finds the node at the end of its queue takes it for that of a
thread of its own cluster, which will let it go. -/
def Local (shared : Shared) (cluster : UInt8) (k : Nat) : Prop :=
  ∃ state, shared.nodes.node? k = some state ∧ state.spliced = false ∧ state.cluster = cluster

def tail (shared : Shared) (cluster : UInt8) : Link :=
  shared.queues[cluster.toNat]?.join

def enqueue (shared : Shared) (cluster : UInt8) (node : Link) : Shared :=
  { shared with queues := shared.queues.set cluster.toNat node }

def spliceTo (shared : Shared) (last : Nat) : Shared :=
  { shared with
    global := some last
    nodes := shared.nodes.modify last .markSpliced }

def pass (shared : Shared) (cluster : UInt8) (k pred : Nat) : Shared :=
  { shared with nodes := (shared.nodes.modify k .granted).modify pred fun _ => .fresh cluster }

def claim (shared : Shared) (cluster : UInt8) (k : Nat) : Shared :=
  { shared with nodes := (shared.nodes.setClaimed k true).modify k fun _ => .fresh cluster }

def unclaim (shared : Shared) (k : Nat) : Shared :=
  { shared with nodes := shared.nodes.setClaimed k false }

end Shared

open Shared

variable {shared : Shared} {own : Own} {k : Nat}

theorem Shared.Shut.lt (h : shared.Shut k) : k < shared.nodes.size := by
  obtain ⟨state, hs, -⟩ := h
  by_contra hk
  simp [Arena.node?_eq_none_iff.mpr (by omega : shared.nodes.size ≤ k)] at hs

theorem Shared.Open.lt (h : shared.Open k) : k < shared.nodes.size := by
  obtain ⟨state, hs, -⟩ := h
  by_contra hk
  simp [Arena.node?_eq_none_iff.mpr (by omega : shared.nodes.size ≤ k)] at hs

section Frame

variable {cluster c : UInt8} {node : Link} {pred last : Nat}

theorem size_spliceTo : (shared.spliceTo last).nodes.size = shared.nodes.size :=
  Arena.size_modify ..

theorem size_pass : (shared.pass cluster k pred).nodes.size = shared.nodes.size := by
  simp [Shared.pass]

theorem size_claim : (shared.claim cluster k).nodes.size = shared.nodes.size := by
  simp [claim]

theorem size_unclaim : (shared.unclaim k).nodes.size = shared.nodes.size :=
  Arena.size_setClaimed ..

theorem isClaimed_spliceTo (j : Nat) :
    (shared.spliceTo last).nodes.isClaimed j = shared.nodes.isClaimed j :=
  Arena.isClaimed_modify ..

theorem isClaimed_pass (j : Nat) :
    (shared.pass cluster k pred).nodes.isClaimed j = shared.nodes.isClaimed j := by
  simp [Shared.pass, Arena.isClaimed_modify]

end Frame

theorem shut_spliceTo {last : Nat} : (shared.spliceTo last).Shut k ↔ shared.Shut k := by
  simp only [Shut, spliceTo, Arena.node?_modify]
  by_cases h : last = k <;> cases shared.nodes.node? k <;> simp [h]

theorem open_spliceTo {last : Nat} : (shared.spliceTo last).Open k ↔ shared.Open k := by
  simp only [Open, spliceTo, Arena.node?_modify]
  by_cases h : last = k <;> cases shared.nodes.node? k <;> simp [h]

theorem local_spliceTo {last : Nat} {cluster : UInt8} :
    (shared.spliceTo last).Local cluster k ↔ k ≠ last ∧ shared.Local cluster k := by
  simp only [Local, spliceTo, Arena.node?_modify]
  by_cases h : last = k
  · cases shared.nodes.node? k <;> simp [h]
  · simp [h, Ne.symm h]

section Pass

variable {cluster : UInt8} {pred j : Nat}

theorem node?_pass_pred (h : pred < shared.nodes.size) :
    (shared.pass cluster k pred).nodes.node? pred = some (.fresh cluster) := by
  obtain ⟨state, hs⟩ := Arena.exists_node? h
  by_cases hk : k = pred <;> simp [Shared.pass, Arena.node?_modify, hs, hk]

theorem node?_pass_node (h : k ≠ pred) :
    (shared.pass cluster k pred).nodes.node? k = (shared.nodes.node? k).map .granted := by
  simp [Shared.pass, Arena.node?_modify, Ne.symm h]

theorem node?_pass_of_ne (hk : j ≠ k) (hp : j ≠ pred) :
    (shared.pass cluster k pred).nodes.node? j = shared.nodes.node? j := by
  simp [Shared.pass, Arena.node?_modify, Ne.symm hk, Ne.symm hp]

theorem open_pass (hk : k < shared.nodes.size) (h : k ≠ pred) :
    (shared.pass cluster k pred).Open k := by
  obtain ⟨state, hs⟩ := Arena.exists_node? hk
  exact ⟨state.granted, by simp [node?_pass_node h, hs], by simp⟩

theorem shut_pass_pred (h : pred < shared.nodes.size) :
    (shared.pass cluster k pred).Shut pred :=
  ⟨_, node?_pass_pred h, by simp⟩

theorem local_pass_pred (h : pred < shared.nodes.size) {c : UInt8} :
    (shared.pass cluster k pred).Local c pred ↔ cluster = c := by
  simp [Local, node?_pass_pred h]

theorem shut_pass_of_ne (hk : j ≠ k) (hp : j ≠ pred) :
    (shared.pass cluster k pred).Shut j ↔ shared.Shut j := by
  simp only [Shut, node?_pass_of_ne hk hp]

theorem local_pass_of_ne (hp : j ≠ pred) {c : UInt8} :
    (shared.pass cluster k pred).Local c j ↔ shared.Local c j := by
  by_cases hk : j = k
  · subst hk
    simp only [Local, node?_pass_node hp]
    cases shared.nodes.node? j <;> simp
  · simp only [Local, node?_pass_of_ne hk hp]

end Pass

section Claim

variable {cluster : UInt8} {j : Nat}

theorem node?_claim (h : k < shared.nodes.size) (j : Nat) :
    (shared.claim cluster k).nodes.node? j =
      if j = k then some (.fresh cluster) else shared.nodes.node? j := by
  obtain ⟨state, hs⟩ := Arena.exists_node? h
  simp only [claim, Arena.node?_modify, Arena.node?_setClaimed, eq_comm (a := j)]
  by_cases hj : k = j
  · subst hj; simp [hs]
  · simp [hj]

theorem isClaimed_claim (h : k < shared.nodes.size) (j : Nat) :
    (shared.claim cluster k).nodes.isClaimed j =
      if j = k then true else shared.nodes.isClaimed j := by
  simp only [claim, Arena.isClaimed_modify, Arena.isClaimed_setClaimed h, eq_comm (a := j)]

theorem shut_claim (h : k < shared.nodes.size) :
    (shared.claim cluster k).Shut j ↔ j = k ∨ shared.Shut j := by
  simp only [Shut, node?_claim h]
  by_cases hj : j = k <;> simp [hj]

theorem open_claim (h : k < shared.nodes.size) :
    (shared.claim cluster k).Open j ↔ j ≠ k ∧ shared.Open j := by
  simp only [Open, node?_claim h]
  by_cases hj : j = k <;> simp [hj]

theorem local_claim (h : k < shared.nodes.size) {c : UInt8} :
    (shared.claim cluster k).Local c j ↔ if j = k then cluster = c else shared.Local c j := by
  simp only [Local, node?_claim h]
  by_cases hj : j = k <;> simp [hj]

theorem isClaimed_unclaim (h : k < shared.nodes.size) (j : Nat) :
    (shared.unclaim k).nodes.isClaimed j =
      if j = k then false else shared.nodes.isClaimed j := by
  simp only [unclaim, Arena.isClaimed_setClaimed h, eq_comm (a := j)]

theorem node?_unclaim (k j : Nat) : (shared.unclaim k).nodes.node? j = shared.nodes.node? j :=
  Arena.node?_setClaimed ..

theorem shut_unclaim : (shared.unclaim k).Shut j ↔ shared.Shut j := by
  simp only [Shut, node?_unclaim]

theorem open_unclaim : (shared.unclaim k).Open j ↔ shared.Open j := by
  simp only [Open, node?_unclaim]

theorem local_unclaim {c : UInt8} : (shared.unclaim k).Local c j ↔ shared.Local c j := by
  simp only [Local, node?_unclaim]

end Claim

theorem length_enqueue {cluster : UInt8} {node : Link} :
    (shared.enqueue cluster node).queues.length = shared.queues.length := by
  simp [enqueue]

theorem tail_enqueue {cluster : UInt8} (h : cluster.toNat < shared.queues.length) (node : Link)
    (c : UInt8) :
    (shared.enqueue cluster node).tail c = if c = cluster then node else shared.tail c := by
  simp only [tail, enqueue, List.getElem?_set]
  by_cases hc : c = cluster
  · simp [hc, h]
  · have hne : cluster.toNat ≠ c.toNat := fun he => hc (UInt8.toNat_inj.mp he.symm)
    simp [hc, hne]

theorem isFree_eq_false (hg : shared.global = some k) (h : shared.Shut k) :
    shared.isFree = false := by
  obtain ⟨state, hs, hw⟩ := h
  simp [isFree, hg, Link.index, Arena.load_eq_ok_iff.mpr hs, hw]

theorem isFree_eq_true (hg : shared.global = some k) (h : shared.Open k) :
    shared.isFree = true := by
  obtain ⟨state, hs, hw⟩ := h
  simp [isFree, hg, Link.index, Arena.load_eq_ok_iff.mpr hs, hw]

theorem awaitGlobal_of_shut (h : shared.Shut k) :
    awaitGlobal (some k) shared own = ⟨shared, own, .waiting (.globalPred (some k))⟩ := by
  obtain ⟨state, hs, hw⟩ := h
  simp [awaitGlobal, Link.index, Arena.load_eq_ok_iff.mpr hs, hw]

theorem awaitGlobal_of_open (h : shared.Open k) :
    awaitGlobal (some k) shared own = ⟨shared, { own with pred := some k }, .done .done⟩ := by
  obtain ⟨state, hs, hw⟩ := h
  simp [awaitGlobal, Link.index, Arena.load_eq_ok_iff.mpr hs, hw]

theorem awaitLocal_of_shut (hl : shared.Local own.cluster k) (h : shared.Shut k) :
    awaitLocal (some k) shared own = ⟨shared, own, .waiting (.localPred (some k))⟩ := by
  obtain ⟨state, hs, hspliced, hc⟩ := hl
  obtain ⟨state', hs', hw⟩ := h
  cases hs.symm.trans hs'
  simp [awaitLocal, Link.index, Arena.load_eq_ok_iff.mpr hs, hspliced, hc, hw]

theorem awaitLocal_of_open (hl : shared.Local own.cluster k) (h : shared.Open k) :
    awaitLocal (some k) shared own = ⟨shared, { own with pred := some k }, .done .done⟩ := by
  obtain ⟨state, hs, hspliced, hc⟩ := hl
  obtain ⟨state', hs', hw⟩ := h
  cases hs.symm.trans hs'
  simp [awaitLocal, Link.index, Arena.load_eq_ok_iff.mpr hs, hspliced, hc, hw]

theorem awaitLocal_of_not_local (hk : k < shared.nodes.size) (h : ¬ shared.Local own.cluster k) :
    awaitLocal (some k) shared own = splice shared own := by
  cases hn : shared.nodes.node? k with
  | none => exact absurd (Arena.node?_eq_none_iff.mp hn) (by omega)
  | some state =>
    have hm : (state.spliced || state.cluster != own.cluster) = true := by
      by_contra hm
      simp only [Bool.or_eq_true, bne_iff_ne, not_or, Bool.not_eq_true, not_not] at hm
      exact h ⟨state, hn, hm⟩
    simp [awaitLocal, Link.index, Arena.load_eq_ok_iff.mpr hn, hm]

theorem splice_eq {last : Nat} (hc : own.cluster.toNat < shared.queues.length)
    (ht : shared.tail own.cluster = some last) (hl : last < shared.nodes.size) :
    splice shared own = awaitGlobal shared.global (shared.spliceTo last) own := by
  have hq : shared.queues[own.cluster.toNat]? = some (some last) := by
    simpa [tail, List.getElem?_eq_getElem hc] using ht
  simp [splice, hq, Link.index, Arena.update, hl, spliceTo]

theorem acquire_of_none (hc : own.cluster.toNat < shared.queues.length)
    (ht : shared.tail own.cluster = none) :
    acquire shared own = splice (shared.enqueue own.cluster own.node) own := by
  have hq : shared.queues[own.cluster.toNat]? = some none := by
    simpa [tail, List.getElem?_eq_getElem hc] using ht
  simp [acquire, hq, enqueue]

theorem acquire_of_some (hc : own.cluster.toNat < shared.queues.length)
    (ht : shared.tail own.cluster = some k) :
    acquire shared own = awaitLocal (some k) (shared.enqueue own.cluster own.node) own := by
  have hq : shared.queues[own.cluster.toNat]? = some (some k) := by
    simpa [tail, List.getElem?_eq_getElem hc] using ht
  simp [acquire, hq, enqueue]

theorem release_eq {pred : Nat} (hn : own.node = some k) (hp : own.pred = some pred)
    (hk : k < shared.nodes.size) (hpred : pred < shared.nodes.size) :
    release shared own =
      ⟨shared.pass own.cluster k pred, { own with node := some pred }, .done .done⟩ := by
  simp [release, hn, hp, Link.index, Arena.update, Arena.store, hk, hpred, Shared.pass]

theorem leave_eq (hn : own.node = some k) (hk : k < shared.nodes.size) :
    leave shared own = (shared.unclaim k, none) := by
  simp [leave, hn, Link.index, Arena.unclaim, hk, unclaim]

theorem join_cases (entry : Entry) (hq : 0 < shared.queues.length)
    (hq' : shared.queues.length ≤ 256) :
    (shared.nodes.claim? = none ∧
        join entry shared = (shared, lackOfCapacity "hclh" shared.capacity)) ∨
      ∃ k cluster, k < shared.nodes.size ∧ shared.nodes.isClaimed k = false ∧
        shared.nodes.claim? = some (k, shared.nodes.setClaimed k true) ∧
        cluster.toNat < shared.queues.length ∧
        join entry shared = (shared.claim cluster k, .ok ⟨some k, none, cluster⟩) := by
  have hlt := Nat.mod_lt (entry.config.topology.clusterFor entry.core) hq
  have hc : ¬ 256 ≤ entry.config.topology.clusterFor entry.core % shared.queues.length := by omega
  cases h : shared.nodes.claim? with
  | none => exact .inl ⟨rfl, by simp [join, hc, h]⟩
  | some found =>
    obtain ⟨k, nodes⟩ := found
    obtain ⟨hk, hfree, rfl⟩ := Arena.isClaimed_of_claim? h
    refine .inr ⟨k, .ofNat (entry.config.topology.clusterFor entry.core % shared.queues.length),
      hk, hfree, rfl, ?_, by simp [join, hc, h, claim]⟩
    rw [UInt8.toNat_ofNat_of_lt' (by simpa using hc)]
    exact hlt

/-- The cluster of a thread is the one that its own configuration gives to its core, counted off
among those of the lock. -/
theorem toNat_cluster_join {entry : Entry} (hq : 0 < shared.queues.length)
    (hq' : shared.queues.length ≤ 256) (h : (join entry shared).2 = .ok own) :
    own.cluster.toNat =
      entry.config.topology.clusterFor entry.core % shared.queues.length := by
  have hlt := Nat.mod_lt (entry.config.topology.clusterFor entry.core) hq
  have hc : ¬ 256 ≤ entry.config.topology.clusterFor entry.core % shared.queues.length := by omega
  simp only [join, if_neg hc] at h
  split at h
  · cases h
  · cases h
    exact UInt8.toNat_ofNat_of_lt' (by simpa using hc)

section Claims

theorem claims_awaitGlobal (pred : Link) (shared : Shared) (own : Own) :
    (awaitGlobal pred shared own).shared.nodes.claims = shared.nodes.claims := by
  unfold awaitGlobal
  split
  · rfl
  · split <;> rfl

theorem claims_splice (shared : Shared) (own : Own) :
    (Hclh.splice shared own).shared.nodes.claims = shared.nodes.claims := by
  unfold Hclh.splice
  split
  · rfl
  · dsimp only
    split
    · rfl
    · next hmarked =>
      rw [claims_awaitGlobal]
      exact Arena.claims_of_update hmarked

theorem claims_awaitLocal (pred : Link) (shared : Shared) (own : Own) :
    (awaitLocal pred shared own).shared.nodes.claims = shared.nodes.claims := by
  unfold awaitLocal
  split
  · rfl
  · split
    · exact claims_splice shared own
    · split <;> rfl

theorem claims_acquire (shared : Shared) (own : Own) :
    (acquire shared own).shared.nodes.claims = shared.nodes.claims := by
  unfold acquire
  split
  · rfl
  · dsimp only
    split
    · exact claims_splice _ own
    · exact claims_awaitLocal _ _ own

theorem claims_release (shared : Shared) (own : Own) :
    (release shared own).shared.nodes.claims = shared.nodes.claims := by
  unfold release
  split
  · rfl
  · next hgranted =>
    have hclaims := Arena.claims_of_update hgranted
    split
    · exact hclaims
    · next hfresh => exact (Arena.claims_of_store hfresh).trans hclaims

theorem claims_start (command : Command) (shared : Shared) (own : Own) :
    (start command shared own).shared.nodes.claims = shared.nodes.claims := by
  cases command
  case acquire | acquireRead | acquireWrite => exact claims_acquire shared own
  case release | releaseRead | releaseWrite => exact claims_release shared own
  case tryAcquire | tryAcquireRead => rfl

theorem claims_resume (point : Wait) (shared : Shared) (own : Own) :
    (resume point shared own).shared.nodes.claims = shared.nodes.claims := by
  cases point with
  | localPred pred => exact claims_awaitLocal pred shared own
  | globalPred pred => exact claims_awaitGlobal pred shared own

end Claims

end SpinLocks.Hclh
