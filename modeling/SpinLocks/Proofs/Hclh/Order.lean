import Mathlib.Data.List.Nodup
import SpinLocks.Proofs.Chain
import SpinLocks.Proofs.Usage
import SpinLocks.Proofs.Hclh.Turns

namespace SpinLocks.Hclh

open Shared

abbrev Threads (n : Nat) := Usage Shared Own Wait n

variable {n : Nat}

def node (u : Threads n) (t : Fin n) : Link :=
  (u.own? t).bind Own.node

def aheadOf : Seat Own Wait → Link
  | .vacant => none
  | .idle own => own.pred
  | .waiting _ (.localPred pred) | .waiting _ (.globalPred pred) => pred

def ahead (u : Threads n) (t : Fin n) : Link := aheadOf (u.seat t)

theorem node_put (u : Threads n) (t : Fin n) (shared : Shared) (seat : Seat Own Wait)
    (holds : Bool) (s : Fin n) :
    node (u.put t shared seat holds) s = if s = t then seat.own?.bind Own.node else node u s := by
  simp only [node, Usage.own?_put, apply_ite (Option.bind · Own.node)]

theorem ahead_put (u : Threads n) (t : Fin n) (shared : Shared) (seat : Seat Own Wait)
    (holds : Bool) (s : Fin n) :
    ahead (u.put t shared seat holds) s = if s = t then aheadOf seat else ahead u s := by
  simp only [ahead, Usage.seat_put, apply_ite aheadOf]

theorem node_of_own? {u : Threads n} {t : Fin n} {own : Own} (h : u.own? t = some own) :
    node u t = own.node := by
  simp [node, h]

theorem chain_put {u : Threads n} {t : Fin n} {first last : Link} {line : List (Fin n)}
    (h : Chain (ahead u) (node u) first line last) (ht : t ∉ line) (shared : Shared)
    (seat : Seat Own Wait) (holds : Bool) :
    Chain (ahead (u.put t shared seat holds)) (node (u.put t shared seat holds)) first line last :=
  h.congr fun s hs => by
    have hne : s ≠ t := fun he => ht (he ▸ hs)
    simp [ahead_put, node_put, hne]

structure Order (n : Nat) where
  gate : Nat
  line : List (Fin n)
  apart : UInt8 → List (Fin n)
  base : UInt8 → Link

namespace Order

def Has (q : Order n) (t : Fin n) : Prop :=
  t ∈ q.line ∨ ∃ c, t ∈ q.apart c

/-- A thread queues behind those that wait apart in its cluster. -/
def enqueue (q : Order n) (cluster : UInt8) (t : Fin n) : Order n :=
  { q with apart := Function.update q.apart cluster (q.apart cluster ++ [t]) }

/-- Those that wait apart in a cluster, the last of them with the node `last`, follow the line. -/
def splice (q : Order n) (cluster : UInt8) (last : Nat) : Order n :=
  { q with
    line := q.line ++ q.apart cluster
    apart := Function.update q.apart cluster []
    base := Function.update q.base cluster (some last) }

/-- The first of the line leaves it, and its node becomes the gate. -/
def pass (q : Order n) (k : Nat) : Order n :=
  { q with gate := k, line := q.line.tail }

theorem apart_enqueue (q : Order n) (cluster c : UInt8) (t : Fin n) :
    (q.enqueue cluster t).apart c = if c = cluster then q.apart cluster ++ [t] else q.apart c :=
  Function.update_apply ..

theorem apart_splice (q : Order n) (cluster c : UInt8) (last : Nat) :
    (q.splice cluster last).apart c = if c = cluster then [] else q.apart c :=
  Function.update_apply ..

theorem base_splice (q : Order n) (cluster c : UInt8) (last : Nat) :
    (q.splice cluster last).base c = if c = cluster then some last else q.base c :=
  Function.update_apply ..

@[simp]
theorem base_enqueue (q : Order n) (cluster : UInt8) (t : Fin n) :
    (q.enqueue cluster t).base = q.base := rfl

@[simp]
theorem line_enqueue (q : Order n) (cluster : UInt8) (t : Fin n) :
    (q.enqueue cluster t).line = q.line := rfl

@[simp]
theorem line_splice (q : Order n) (cluster : UInt8) (last : Nat) :
    (q.splice cluster last).line = q.line ++ q.apart cluster := rfl

theorem mem_apart_enqueue {q : Order n} {cluster c : UInt8} {t s : Fin n} :
    s ∈ (q.enqueue cluster t).apart c ↔ s ∈ q.apart c ∨ c = cluster ∧ s = t := by
  rw [apart_enqueue]
  by_cases hc : c = cluster <;> simp [hc]

theorem mem_apart_splice {q : Order n} {cluster c : UInt8} {last : Nat} {t : Fin n} :
    t ∈ (q.splice cluster last).apart c ↔ c ≠ cluster ∧ t ∈ q.apart c := by
  rw [apart_splice]
  by_cases hc : c = cluster <;> simp [hc]

theorem has_enqueue {q : Order n} {cluster : UInt8} {t s : Fin n} :
    (q.enqueue cluster t).Has s ↔ s = t ∨ q.Has s := by
  simp only [Has, line_enqueue, mem_apart_enqueue]
  constructor
  · rintro (hm | ⟨c, hm | ⟨-, rfl⟩⟩)
    · exact .inr (.inl hm)
    · exact .inr (.inr ⟨c, hm⟩)
    · exact .inl rfl
  · rintro (rfl | hm | ⟨c, hm⟩)
    · exact .inr ⟨cluster, .inr ⟨rfl, rfl⟩⟩
    · exact .inl hm
    · exact .inr ⟨c, .inl hm⟩

theorem has_splice {q : Order n} {cluster : UInt8} {last : Nat} {t : Fin n} :
    (q.splice cluster last).Has t ↔ q.Has t := by
  simp only [Has, line_splice, apart_splice, List.mem_append]
  constructor
  · rintro ((hm | hm) | ⟨c, hm⟩)
    · exact .inl hm
    · exact .inr ⟨cluster, hm⟩
    · split at hm
      · cases hm
      · exact .inr ⟨c, hm⟩
  · rintro (hm | ⟨c, hm⟩)
    · exact .inl (.inl hm)
    · by_cases hc : c = cluster
      · exact .inl (.inr (hc ▸ hm))
      · exact .inr ⟨c, by simpa [hc] using hm⟩

end Order

structure Seated (u : Threads n) : Prop where
  clusters_pos : 0 < u.shared.queues.length
  clusters_le : u.shared.queues.length ≤ 256
  cluster_lt : ∀ t own, u.own? t = some own → own.cluster.toNat < u.shared.queues.length
  holder_idle : ∀ t, u.holds t = true → ∃ own, u.seat t = .idle own

/-- Each claimed node has one place: it is the gate, or the node of one thread. -/
structure Owned (u : Threads n) (gate : Nat) : Prop where
  gate_claimed : u.shared.nodes.isClaimed gate = true
  gate_unowned : ∀ t, node u t ≠ some gate
  node_claimed : ∀ t own, u.own? t = some own →
    ∃ k, node u t = some k ∧ u.shared.nodes.isClaimed k = true
  node_inj : ∀ s t k, node u s = some k → node u t = some k → s = t

/-- What the states of the nodes say. A node that nobody waits behind is fresh. -/
structure Marked (u : Threads n) (gate : Nat) : Prop where
  gate_open : u.shared.Open gate
  node_shut : ∀ t k, node u t = some k → u.shared.Shut k
  node_local : ∀ t own k c, u.own? t = some own → node u t = some k → u.shared.Local c k →
    c = own.cluster
  node_fresh : ∀ t own k, u.seat t = .idle own → u.holds t = false → node u t = some k →
    u.shared.Local own.cluster k

structure Linked (u : Threads n) : Prop where
  tail_lt : ∀ c k, u.shared.tail c = some k → k < u.shared.nodes.size
  ahead_lt : ∀ t k, ahead u t = some k → k < u.shared.nodes.size
  pred_lt : ∀ t own k, u.own? t = some own → own.pred = some k → k < u.shared.nodes.size

structure Placed (u : Threads n) (gate : Nat) : Prop
    extends Seated u, Owned u gate, Marked u gate, Linked u

structure Ordered (u : Threads n) (q : Order n) : Prop extends Placed u q.gate where
  line_chain : Chain (ahead u) (node u) (some q.gate) q.line u.shared.global
  apart_chain : ∀ c, Chain (ahead u) (node u) (q.base c) (q.apart c) (u.shared.tail c)
  line_nodup : q.line.Nodup
  apart_nodup : ∀ c, (q.apart c).Nodup
  engaged_iff : ∀ t, u.Engaged t ↔ q.Has t
  apart_out : ∀ c t, t ∈ q.apart c → t ∉ q.line
  apart_waits : ∀ c t, t ∈ q.apart c →
    ∃ own pred, u.seat t = .waiting own (.localPred pred) ∧ own.cluster = c
  apart_local : ∀ c t k, t ∈ q.apart c → node u t = some k → u.shared.Local c k
  holder_first : ∀ t, u.holds t = true → ∃ rest, q.line = t :: rest
  line_local : ∀ t ∈ q.line, ∀ own k, u.seat t = .waiting own (.localPred (some k)) →
    u.shared.Local own.cluster k
  base_shut : ∀ c k, q.base c = some k → u.shared.Local c k →
    u.shared.Shut k ∧ ∀ t ∈ q.line, node u t ≠ some k

end SpinLocks.Hclh
