import Mathlib.Algebra.BigOperators.Group.Finset.Piecewise
import Mathlib.Data.Fintype.Basic
import SpinLocks.Proofs.Line

namespace SpinLocks

variable {Shared Own Wait : Type} {n : Nat}

namespace Usage

def members (u : Usage Shared Own Wait n) : Finset (Fin n) :=
  Finset.univ.filter fun t => (u.own? t).isSome

def engaged (u : Usage Shared Own Wait n) : Finset (Fin n) :=
  Finset.univ.filter fun t => u.Engaged t

variable {u : Usage Shared Own Wait n} {t : Fin n} {shared : Shared} {seat : Seat Own Wait}
  {holds : Bool} {own : Own}

theorem mem_members : t ∈ u.members ↔ (u.own? t).isSome = true := by
  simp [members]

theorem mem_engaged : t ∈ u.engaged ↔ u.Engaged t := by
  simp [engaged]

theorem members_eq_empty (h : ∀ t, u.own? t = none) : u.members = ∅ := by
  ext t
  simp [mem_members, h]

theorem members_put_of_own? (ho : u.own? t = some own) (hseat : seat.own?.isSome = true) :
    (u.put t shared seat holds).members = u.members := by
  ext s
  rw [mem_members, mem_members, own?_put]
  split
  · next he => simp [he, ho, hseat]
  · rfl

theorem members_settle (ho : u.own? t = some own) (turn : LockTurn Shared Own Wait) :
    (u.settle t turn).members = u.members := by
  obtain ⟨shared, own', ending⟩ := turn
  refine members_put_of_own? ho ?_
  cases ending <;> rfl

theorem card_members_join (hs : u.seat t = .vacant) (hseat : seat.own?.isSome = true) :
    (u.put t shared seat holds).members.card = u.members.card + 1 := by
  have hnot : t ∉ u.members := by
    rw [mem_members, own?, hs]
    exact Bool.false_ne_true
  have hmembers : (u.put t shared seat holds).members = insert t u.members := by
    ext s
    rw [Finset.mem_insert, mem_members, mem_members, own?_put]
    split
    · next he => simp [he, hseat]
    · next hst => simp [hst]
  rw [hmembers, Finset.card_insert_of_notMem hnot]

theorem card_members_leave (ho : u.own? t = some own) :
    (u.put t shared .vacant holds).members.card = u.members.card - 1 := by
  have hmem : t ∈ u.members := by
    rw [mem_members, ho]
    rfl
  have hmembers : (u.put t shared .vacant holds).members = u.members.erase t := by
    ext s
    rw [Finset.mem_erase, mem_members, mem_members, own?_put]
    split
    · next he => simp [he, Seat.own?]
    · next hst => simp [hst]
  rw [hmembers, Finset.card_erase_of_mem hmem]

def total (f : Seat Own Wait → Nat) (u : Usage Shared Own Wait n) : Nat :=
  ∑ t, f (u.seat t)

theorem total_eq_zero {f : Seat Own Wait → Nat} (h : ∀ t, f (u.seat t) = 0) : u.total f = 0 :=
  Finset.sum_eq_zero fun t _ => h t

theorem total_put (f : Seat Own Wait → Nat) (shared : Shared) (seat : Seat Own Wait)
    (holds : Bool) :
    (u.put t shared seat holds).total f + f (u.seat t) = u.total f + f seat := by
  have hseat : ∀ s, f ((u.put t shared seat holds).seat s) =
      Function.update (fun s => f (u.seat s)) t (f seat) s := by
    intro s
    rw [Function.update_apply, seat_put]
    split <;> rfl
  simp only [total, hseat]
  rw [Finset.sum_update_of_mem (Finset.mem_univ t),
    Finset.sum_eq_sum_sdiff_singleton_add (Finset.mem_univ t) fun s => f (u.seat s)]
  omega

end Usage

open Usage

namespace Lined

variable {u : Usage Shared Own Wait n} {line : List (Fin n)} {t : Fin n} {own : Own}

section Engaged

variable (h : Lined u line)
include h

theorem engaged_eq : u.engaged = line.toFinset := by
  ext t
  rw [mem_engaged, h.engaged_iff, List.mem_toFinset]

theorem card_engaged : u.engaged.card = line.length := by
  rw [h.engaged_eq, List.toFinset_card_of_nodup h.nodup]

end Engaged

/-- No more threads stand in line than have joined. -/
theorem length_le (h : Lined u line) (hown : ∀ t ∈ line, (u.own? t).isSome = true) :
    line.length ≤ u.members.card := by
  rw [← h.card_engaged, h.engaged_eq]
  refine Finset.card_le_card fun t ht => ?_
  rw [mem_members]
  exact hown t (List.mem_toFinset.mp ht)

theorem length_lt (h : Lined u line) (hown : ∀ t ∈ line, (u.own? t).isSome = true)
    (ho : u.own? t = some own) (ht : t ∉ line) : line.length < u.members.card := by
  rw [← h.card_engaged, h.engaged_eq]
  refine Finset.card_lt_card (Finset.ssubset_iff_of_subset ?_ |>.mpr ⟨t, ?_, ?_⟩)
  · intro s hs
    rw [mem_members]
    exact hown s (List.mem_toFinset.mp hs)
  · rw [mem_members, ho]
    rfl
  · rwa [List.mem_toFinset]

end Lined

end SpinLocks
