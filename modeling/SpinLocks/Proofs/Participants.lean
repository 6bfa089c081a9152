import Mathlib.Data.List.Count
import SpinLocks.Proofs.Claims
import SpinLocks.Proofs.Members

namespace SpinLocks

open Usage

variable {Shared Own Wait : Type} {n : Nat}

/-- As many threads may join as the lock has room for. The next is told so, and changes nothing. -/
structure Limited (lock : Lock Shared Own Wait) (capacity : Nat) (u : Usage Shared Own Wait n) :
    Prop where
  card_le : u.members.card ≤ capacity
  join_room : ∀ t entry, u.seat t = .vacant → u.members.card < capacity →
    (u.step lock t (.join entry)).2 = .joined
  join_full : ∀ t entry, u.seat t = .vacant → u.members.card = capacity →
    u.step lock t (.join entry) = (u, .failed (.error (.capacity lock.name capacity)))

structure Tenanted (claims : Shared → List Bool) (node : Own → Link) (u : Usage Shared Own Wait n) :
    Prop where
  node_inj : ∀ s t own own', u.own? s = some own → u.own? t = some own' → node own = node own' →
    s = t
  node_claimed : ∀ t own, u.own? t = some own →
    ∃ k, node own = some k ∧ (claims u.shared)[k]? = some true

/-- Beside the nodes of the threads, as many are claimed as the lock keeps. -/
structure Lent (claims : Shared → List Bool) (node : Own → Link) (kept : Nat)
    (u : Usage Shared Own Wait n) : Prop extends Tenanted claims node u where
  count_claims : (claims u.shared).count true = u.members.card + kept

/-- Whoever joins claims a node that was free, where there is one. -/
def Admits (lock : Lock Shared Own Wait) (claims : Shared → List Bool) (capacity : Nat)
    (shared : Shared) (entry : Entry) : Prop :=
  (∀ claimed ∈ claims shared, claimed = true) ∧
      lock.join entry shared = (shared, lackOfCapacity lock.name capacity) ∨
    ∃ (k : Nat) (shared' : Shared) (own : Own), (claims shared)[k]? = some false ∧
      lock.join entry shared = (shared', .ok own) ∧ claims shared' = (claims shared).set k true

/-- Whoever leaves gives its node back. No command claims a node or gives one back. -/
structure Lends (lock : Lock Shared Own Wait) (claims : Shared → List Bool) (node : Own → Link) :
    Prop where
  leave : ∀ shared own k, node own = some k → (claims shared)[k]? = some true →
    ∃ shared', lock.leave shared own = (shared', none) ∧
      claims shared' = (claims shared).set k false
  start : ∀ command shared own, claims (lock.start command shared own).shared = claims shared
  resume : ∀ point shared own, claims (lock.resume point shared own).shared = claims shared

theorem count_claim {claims : List Bool} {k : Nat} (h : claims[k]? = some false) :
    (claims.set k true).count true = claims.count true + 1 := by
  obtain ⟨hk, he⟩ := List.getElem?_eq_some_iff.mp h
  simp [List.count_set hk, he]

theorem count_unclaim {claims : List Bool} {k : Nat} (h : claims[k]? = some true) :
    (claims.set k false).count true = claims.count true - 1 := by
  obtain ⟨hk, he⟩ := List.getElem?_eq_some_iff.mp h
  simp [List.count_set hk, he]

variable {lock : Lock Shared Own Wait} {claims : Shared → List Bool} {node : Own → Link}
  {u : Usage Shared Own Wait n} {t : Fin n} {action : Action Entry Command} {capacity kept : Nat}

section Lends

variable (hl : Lends lock claims node)
include hl

variable (t action) in
theorem Lends.step
    (ha : ∀ entry, Admits lock claims capacity u.shared entry) (h : Lent claims node kept u) :
    (claims (u.step lock t action).1.shared).length = (claims u.shared).length ∧
      (claims (u.step lock t action).1.shared).count true =
        (u.step lock t action).1.members.card + kept := by
  obtain ⟨cause, -, he⟩ | ⟨entry, rfl, hs⟩ | ⟨own, rfl, hs⟩ | ⟨own, command, rfl, hs⟩ |
    ⟨own, point, rfl, hs⟩ := step_cases lock u t action
  · rw [he]
    exact ⟨rfl, h.count_claims⟩
  · obtain ⟨-, hj⟩ | ⟨k, shared, own, hfree, hj, hclaims⟩ := ha entry
    · rw [step_join_error lock hs hj, ← hs, put_self]
      exact ⟨rfl, h.count_claims⟩
    · rw [step_join_ok lock hs hj, card_members_join hs rfl]
      simp only [shared_put, hclaims, List.length_set, count_claim hfree, h.count_claims]
      exact ⟨trivial, Nat.add_right_comm ..⟩
  · have ho := own?_of_idle hs
    obtain ⟨k, hk, hclaimed⟩ := h.node_claimed t own ho
    obtain ⟨shared, hleave, hclaims⟩ := hl.leave u.shared own k hk hclaimed
    have hpos : 0 < u.members.card := Finset.card_pos.mpr ⟨t, mem_members.mpr (by rw [ho]; rfl)⟩
    rw [step_leave lock hs hleave, card_members_leave ho]
    simp only [shared_put, hclaims, List.length_set, count_unclaim hclaimed, h.count_claims]
    exact ⟨trivial, Nat.sub_add_comm hpos⟩
  · have hclaims := hl.start command u.shared own
    rw [step_start hs, members_settle (own?_of_idle hs)]
    simp only [settle, shared_put, hclaims, h.count_claims, and_self]
  · have hclaims := hl.resume point u.shared own
    rw [step_resume hs, members_settle (own?_of_waiting hs)]
    simp only [settle, shared_put, hclaims, h.count_claims, and_self]

end Lends

theorem Lent.limited (h : Lent claims node kept u)
    (ha : ∀ entry, Admits lock claims capacity u.shared entry)
    (hlength : (claims u.shared).length = capacity + kept) : Limited lock capacity u where
  card_le := by
    have hle := List.count_le_length (a := true) (l := claims u.shared)
    rw [h.count_claims, hlength] at hle
    omega
  join_room := by
    intro t entry hs hlt
    obtain ⟨hall, -⟩ | ⟨k, shared, own, -, hj, -⟩ := ha entry
    · have he := List.count_eq_length.mpr fun claimed hc => (hall claimed hc).symm
      rw [h.count_claims, hlength] at he
      omega
    · rw [step_join_ok lock hs hj]
  join_full := by
    intro t entry hs heq
    obtain ⟨-, hj⟩ | ⟨k, -, -, hfree, -, -⟩ := ha entry
    · rw [step_join_error lock hs hj, ← hs, put_self]
    · have he : (claims u.shared).count true = (claims u.shared).length := by
        rw [h.count_claims, hlength, heq]
      have hall := List.count_eq_length.mp he false (List.mem_of_getElem? hfree)
      cases hall

/-- What each step keeps that the threads have to do with their nodes, and what it takes for a
thread to join, holds after every proper schedule. -/
theorem Lends.run (hl : Lends lock claims node) (Inv : Usage Shared Own Wait n → Prop)
    (hstep : ∀ u t action, Inv u → u.permits t action = true → Inv (u.step lock t action).1)
    (htenanted : ∀ u, Inv u → Tenanted claims node u)
    (hadmits : ∀ u, Inv u → (claims u.shared).length = capacity + kept →
      ∀ entry, Admits lock claims capacity u.shared entry)
    {config : Config} (hopening : Inv (opening lock config n))
    (hlength : (claims (lock.create config)).length = capacity + kept)
    (hcount : (claims (lock.create config)).count true = kept)
    {schedule : Schedule n} (hp : (opening lock config n).Proper lock schedule) :
    let u := ((opening lock config n).run lock schedule).1
    Limited lock capacity u ∧ Lent claims node kept u := by
  intro u
  have hnobody : (opening lock config n).members.card = 0 :=
    Finset.card_eq_zero.mpr (members_eq_empty (own?_opening lock config n))
  obtain ⟨⟨hinv, hlast, h⟩, -⟩ := run_induction
    (fun u => Inv u ∧ (claims u.shared).length = capacity + kept ∧ Lent claims node kept u)
    (fun _ => True)
    (fun u t action ⟨hinv, hlength, h⟩ hp => by
      obtain ⟨hlength', hcount'⟩ := hl.step t action (hadmits u hinv hlength) h
      have hinv' := hstep u t action hinv hp
      exact ⟨⟨hinv', hlength'.trans hlength, htenanted _ hinv', hcount'⟩, trivial⟩)
    ⟨hopening, hlength, htenanted _ hopening, by rw [hnobody, Nat.zero_add]; exact hcount⟩ hp
  exact ⟨h.limited (hadmits _ hinv hlast) hlast, h⟩

end SpinLocks
