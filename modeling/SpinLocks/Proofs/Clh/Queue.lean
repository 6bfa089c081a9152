import SpinLocks.Proofs.Allotment
import SpinLocks.Proofs.Chain
import SpinLocks.Proofs.Clh.Turns
import SpinLocks.Proofs.Line

namespace SpinLocks.Clh

open Shared Usage

variable {n : Nat}

def node (u : Threads n) (t : Fin n) : Link :=
  (u.own? t).bind Own.node

/-- The link to the node that a thread waits for, or that it waited for last. -/
def ahead (u : Threads n) (t : Fin n) : Link :=
  (u.own? t).bind Own.pred

structure Queued (u : Threads n) (spare : Nat) (line : List (Fin n)) : Prop extends
    Lined u line where
  holder_idle : ∀ t, u.holds t = true → ∃ own, u.seat t = .idle own
  exists_node : ∀ t own, u.own? t = some own → ∃ k, own.node = some k
  allotted : Allotted u.shared.nodes.isClaimed (node u) (some spare)
  chain : Chain (ahead u) (node u) (some spare) line u.shared.tail
  busy : ∀ t ∈ line, ∀ k, node u t = some k → u.shared.nodes.node? k = some true
  spare_idle : u.shared.nodes.node? spare = some false

variable {u : Threads n} {spare k : Nat} {line rest : List (Fin n)} {s t : Fin n}
  {own own' : Own} {point : Wait} {shared : Shared} {seat : Seat Own Wait} {holds : Bool}

theorem node_of_own? (ho : u.own? t = some own) : node u t = own.node := by
  rw [node, ho, Option.bind_some]

theorem ahead_of_own? (ho : u.own? t = some own) : ahead u t = own.pred := by
  rw [ahead, ho, Option.bind_some]

theorem node_put : node (u.put t shared seat holds) =
    Function.update (node u) t (seat.own?.bind Own.node) := by
  funext s
  rw [Function.update_apply, node, own?_put]
  split <;> rfl

theorem ahead_put : ahead (u.put t shared seat holds) =
    Function.update (ahead u) t (seat.own?.bind Own.pred) := by
  funext s
  rw [Function.update_apply, ahead, own?_put]
  split <;> rfl

theorem node_put_eq (ho : u.own? t = some own) (hseat : seat.own? = some own')
    (hn : own'.node = own.node) : node (u.put t shared seat holds) = node u := by
  rw [node_put, hseat, Option.bind_some, hn, ← node_of_own? ho, Function.update_eq_self]

theorem exists_node_put (h : Queued u spare line)
    (hseat : ∀ own, seat.own? = some own → ∃ k, own.node = some k) (s : Fin n) (own : Own)
    (ho : (u.put t shared seat holds).own? s = some own) : ∃ k, own.node = some k := by
  rw [own?_put] at ho
  split at ho
  · exact hseat own ho
  · exact h.exists_node s own ho

namespace Queued

section Places

variable (h : Queued u spare line)
include h

theorem exists_node_of_mem (ht : t ∈ line) : ∃ k, node u t = some k := by
  obtain ⟨own, ho⟩ := h.exists_own h.holder_idle ht
  obtain ⟨k, hk⟩ := h.exists_node t own ho
  exact ⟨k, (node_of_own? ho).trans hk⟩

theorem node_lt (hk : node u t = some k) : k < u.shared.nodes.size :=
  Arena.lt_of_isClaimed (h.allotted.claimed_of_node hk)

theorem spare_lt : spare < u.shared.nodes.size :=
  Arena.lt_of_isClaimed (h.allotted.claimed_of_spare rfl)

theorem node_ne_spare (hk : node u t = some k) : k ≠ spare := by
  rintro rfl
  exact h.allotted.spare_ne t k rfl hk

theorem node_ne (hk : node u t = some k) (ht : t ∉ line) (hs : s ∈ line) {j : Nat}
    (hj : node u s = some j) : j ≠ k := by
  rintro rfl
  exact ht (h.allotted.inj s t j hj hk ▸ hs)

theorem tail_cases : line = [] ∧ u.shared.tail = some spare ∨
    ∃ s ∈ line, ∃ k, node u s = some k ∧ u.shared.tail = some k := by
  by_cases hl : line = []
  · subst hl
    exact .inl ⟨rfl, h.chain.symm⟩
  · obtain ⟨s, hs, hlast⟩ := h.chain.last_mem hl
    obtain ⟨k, hk⟩ := h.exists_node_of_mem hs
    exact .inr ⟨s, hs, k, hk, hlast.symm.trans hk⟩

/-- Ahead of all but the first of the line is a node that is busy. -/
theorem ahead_busy (ht : t ∈ line) (hne : line.head? ≠ some t) :
    ∃ k, ahead u t = some k ∧ u.shared.nodes.node? k = some true := by
  obtain ⟨s, hs, he⟩ := h.chain.ahead_mem_of_ne_head ht hne
  obtain ⟨k, hk⟩ := h.exists_node_of_mem hs
  exact ⟨k, he.symm.trans hk, h.busy s hs k hk⟩

theorem ahead_inj (hs : s ∈ line) (ht : t ∈ line) (he : ahead u s = ahead u t) : s = t := by
  refine h.chain.ahead_inj h.nodup ?_ ?_ hs ht he
  · intro a ha b _ hab
    obtain ⟨k, hk⟩ := h.exists_node_of_mem ha
    exact h.allotted.inj a b k hk (hab.symm.trans hk)
  · intro a _
    exact h.allotted.spare_ne a spare rfl

end Places

theorem ahead_first (h : Queued u spare (t :: rest)) : ahead u t = some spare :=
  h.chain.1

/-- A thread puts its node at the tail, with the lock where nobody stands in line. -/
theorem enqueue (h : Queued u spare line) (hs : u.seat t = .idle own) (hf : u.holds t = false)
    (hk : own.node = some k) (hseat : seat.own? = some { own with pred := u.shared.tail })
    (hw : seat.waits = !holds) (hnil : holds = true → line = [])
    (hidle : holds = true → ∃ own, seat = .idle own) :
    Queued (u.put t (u.shared.enqueue k) seat holds) spare (line ++ [t]) := by
  have ho := own?_of_idle hs
  have ht := h.not_mem_idle hs hf
  have hnode : node u t = some k := (node_of_own? ho).trans hk
  have hkeep : node (u.put t (u.shared.enqueue k) seat holds) = node u := node_put_eq ho hseat rfl
  refine ⟨h.toLined.enter ht hnil hw, holder_idle_put h.holder_idle hidle,
    exists_node_put h ?_, ?_, ?_, ?_, ?_⟩
  · rw [hseat]
    rintro own' ⟨⟩
    exact ⟨k, hk⟩
  · rw [hkeep]
    simp only [shared_put, isClaimed_enqueue]
    exact h.allotted
  · rw [ahead_put, node_put, hseat]
    refine (h.chain.update ht _ _).append ⟨Function.update_self .., ?_⟩
    show Function.update (node u) t own.node t = some k
    rw [Function.update_self, hk]
  · intro s hm j hj
    rw [hkeep] at hj
    obtain hm | hm := List.mem_append.mp hm
    · exact (node?_enqueue_of_ne (h.node_ne hnode ht hm hj)).trans (h.busy s hm j hj)
    · rw [List.mem_singleton.mp hm, hnode] at hj
      cases hj
      exact node?_enqueue_self (h.node_lt hnode)
  · exact (node?_enqueue_of_ne (h.node_ne_spare hnode).symm).trans h.spare_idle

theorem grant (h : Queued u spare (t :: rest)) (hs : u.seat t = .waiting own point) :
    Queued (u.put t u.shared (.idle own) true) spare (t :: rest) := by
  have ho := own?_of_waiting hs
  have hkeep : node (u.put t u.shared (.idle own) true) = node u := node_put_eq ho rfl rfl
  have hahead : ahead (u.put t u.shared (.idle own) true) = ahead u := by
    rw [ahead_put, show (Seat.idle own : Seat Own Wait).own?.bind Own.pred = own.pred from rfl,
      ← ahead_of_own? ho, Function.update_eq_self]
  refine ⟨h.toLined.grant, holder_idle_put h.holder_idle fun _ => ⟨own, rfl⟩,
    exists_node_put h ?_, ?_, ?_, ?_, h.spare_idle⟩
  · rintro own' ⟨⟩
    exact h.exists_node t own ho
  · rw [hkeep]
    exact h.allotted
  · rw [hkeep, hahead]
    exact h.chain
  · rw [hkeep]
    exact h.busy

/-- The holder lets the next thread go, and takes the spare node for its own, which is now spare. -/
theorem pass (h : Queued u spare (t :: rest)) (hs : u.seat t = .idle own) (hk : own.node = some k) :
    Queued (u.put t (u.shared.pass k) (.idle { own with node := own.pred }) false) k rest := by
  have ho := own?_of_idle hs
  have hnode : node u t = some k := (node_of_own? ho).trans hk
  have hpred : own.pred = some spare := (ahead_of_own? ho).symm.trans h.ahead_first
  have hnot := (List.nodup_cons.mp h.nodup).1
  refine ⟨h.toLined.leave, holder_idle_put h.holder_idle (by simp), exists_node_put h ?_,
    ?_, ?_, ?_, node?_pass_self (h.node_lt hnode)⟩
  · rintro own' ⟨⟩
    exact ⟨spare, hpred⟩
  · rw [node_put]
    simp only [shared_put, isClaimed_pass]
    have hexchange := h.allotted.exchange hnode
    rwa [← hpred] at hexchange
  · have hchain := h.chain.2
    rw [hnode] at hchain
    rw [ahead_put, node_put]
    exact hchain.update hnot _ _
  · intro s hm j hj
    have hst : s ≠ t := fun he => hnot (he ▸ hm)
    rw [node_put, Function.update_of_ne hst] at hj
    have hjk : j ≠ k := fun he => hst (h.allotted.inj s t k (he ▸ hj) hnode)
    exact (node?_pass_of_ne hjk).trans (h.busy s (List.mem_cons_of_mem t hm) j hj)

theorem frame (h : Queued u spare line) (ht : t ∉ line) (hw : seat.waits = false)
    (hseat : ∀ own, seat.own? = some own → ∃ k, own.node = some k)
    (hnode : ∀ k, shared.nodes.node? k = u.shared.nodes.node? k)
    (htail : shared.tail = u.shared.tail)
    (hallotted : Allotted shared.nodes.isClaimed (node (u.put t shared seat false)) (some spare)) :
    Queued (u.put t shared seat false) spare line := by
  refine ⟨h.toLined.frame ht hw, holder_idle_put h.holder_idle (by simp),
    exists_node_put h hseat, hallotted, ?_, ?_, (hnode spare).trans h.spare_idle⟩
  · rw [ahead_put, node_put]
    simp only [shared_put, htail]
    exact h.chain.update ht _ _
  · intro s hm k hk
    have hst : s ≠ t := fun he => ht (he ▸ hm)
    rw [node_put, Function.update_of_ne hst] at hk
    exact (hnode k).trans (h.busy s hm k hk)

theorem join (h : Queued u spare line) (hs : u.seat t = .vacant) (hk : k < u.shared.nodes.size)
    (hfree : u.shared.nodes.isClaimed k = false) :
    Queued (u.put t { u.shared with nodes := u.shared.nodes.setClaimed k true }
      (.idle ⟨some k, none⟩) false) spare line := by
  have hnone : node u t = none := by rw [node, own?, hs]; rfl
  refine h.frame (h.not_mem_vacant h.holder_idle hs) rfl ?_
    (Arena.node?_setClaimed _ _ · _) rfl ?_
  · rintro own ⟨⟩
    exact ⟨k, rfl⟩
  · rw [node_put]
    exact h.allotted.claim hnone hfree fun i => Arena.isClaimed_setClaimed hk i true

theorem leave (h : Queued u spare line) (hs : u.seat t = .idle own) (hf : u.holds t = false)
    (hk : own.node = some k) :
    Queued (u.put t { u.shared with nodes := u.shared.nodes.setClaimed k false } .vacant false)
      spare line := by
  have hnode : node u t = some k := (node_of_own? (own?_of_idle hs)).trans hk
  refine h.frame (h.not_mem_idle hs hf) rfl ?_ (Arena.node?_setClaimed _ _ · _) rfl ?_
  · rintro own' ⟨⟩
  · rw [node_put]
    exact h.allotted.unclaim hnode fun i => Arena.isClaimed_setClaimed (h.node_lt hnode) i false

end Queued

end SpinLocks.Clh
