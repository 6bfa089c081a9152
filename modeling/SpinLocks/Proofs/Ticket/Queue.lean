import Mathlib.Data.Fintype.Card
import SpinLocks.Lock.Ticket
import SpinLocks.Proofs.Members
import SpinLocks.Proofs.Ticket.Word
import SpinLocks.Proofs.Tickets

namespace SpinLocks.Ticket

open Usage

abbrev Threads (n : Nat) := Usage Word Own Wait n

variable {n : Nat}

structure Counted (start : UInt32) (u : Threads n) (first : Nat) (line : List (Fin n)) :
    Prop extends Ticketed Own.ticket (number start) u first line where
  holder_idle : ∀ t, u.holds t = true → ∃ own, u.seat t = .idle own
  head_eq : u.shared.head = number start first
  tail_eq : u.shared.tail = number start (first + line.length)

variable {start : UInt32} {u : Threads n} {first : Nat} {line rest : List (Fin n)} {t : Fin n}
  {own : Own} {seat : Seat Own Wait} {holds : Bool}

namespace Counted

section Lengths

variable (h : Counted start u first line) (hn : n < 2 ^ 32)
include h hn

theorem length_lt : line.length < UInt32.size := by
  -- each thread stands in line once at most
  have hle := u.engaged.card_le_univ
  rw [h.card_engaged, Fintype.card_fin] at hle
  exact hle.trans_lt hn

theorem head_eq_tail_iff : u.shared.head = u.shared.tail ↔ line = [] := by
  rw [h.head_eq, h.tail_eq, number_add, number_eq_self_iff (h.length_lt hn),
    List.length_eq_zero_iff]

/-- The ticket of the first of the line is called, and no other ticket in line. -/
theorem head_eq_ticket_iff (ht : t ∈ line) (ho : u.own? t = some own) :
    u.shared.head = own.ticket ↔ line.head? = some t := by
  obtain ⟨i, hi, hhead, hticket⟩ := h.exists_place ht ho
  rw [h.head_eq, hticket, number_add, number_eq_self_iff (hi.trans (h.length_lt hn)), hhead]

theorem toNat_queued : u.shared.queued.toNat = u.engaged.card := by
  rw [Word.queued, h.tail_eq, h.head_eq, number_add, toNat_number_sub (h.length_lt hn),
    h.card_engaged]

theorem isFree_iff : ticket.isFree u.shared = true ↔ u.engaged.card = 0 := by
  rw [h.card_engaged, List.length_eq_zero_iff, ← h.head_eq_tail_iff hn]
  exact Word.isFree_iff u.shared

end Lengths

theorem frame (h : Counted start u first line) (ht : t ∉ line) (hw : seat.waits = false) :
    Counted start (u.put t u.shared seat false) first line where
  toTicketed := h.toTicketed.frame ht hw
  holder_idle := holder_idle_put h.holder_idle (by simp)
  head_eq := h.head_eq
  tail_eq := h.tail_eq

theorem draw (h : Counted start u first line) (ht : t ∉ line)
    (hseat : seat.own?.map Own.ticket = some u.shared.tail) (hw : seat.waits = !holds)
    (hnil : holds = true → line = []) (hidle : holds = true → ∃ own, seat = .idle own) :
    Counted start (u.put t u.shared.draw seat holds) first (line ++ [t]) where
  toTicketed := h.toTicketed.enter ht hnil hw (hseat.trans (congrArg some h.tail_eq))
  holder_idle := holder_idle_put h.holder_idle hidle
  head_eq := (Word.head_draw u.shared).trans h.head_eq
  tail_eq := by
    rw [List.length_append, List.length_singleton, ← Nat.add_assoc, number_succ, ← h.tail_eq]
    exact Word.tail_draw u.shared

theorem grant (h : Counted start u first (t :: rest)) (ho : u.own? t = some own) :
    Counted start (u.put t u.shared (.idle own) true) first (t :: rest) where
  toTicketed := h.toTicketed.grant ho
  holder_idle := holder_idle_put h.holder_idle fun _ => ⟨own, rfl⟩
  head_eq := h.head_eq
  tail_eq := h.tail_eq

theorem call (h : Counted start u first (t :: rest)) :
    Counted start (u.put t u.shared.call (.idle own) false) (first + 1) rest where
  toTicketed := h.toTicketed.leave
  holder_idle := holder_idle_put h.holder_idle (by simp)
  head_eq := by
    rw [number_succ, ← h.head_eq]
    exact Word.head_call u.shared
  tail_eq := by
    have htail := h.tail_eq
    rw [List.length_cons, ← Nat.add_assoc, Nat.add_right_comm] at htail
    exact (Word.tail_call u.shared).trans htail

end Counted

end SpinLocks.Ticket
