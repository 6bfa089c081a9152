import Mathlib.Data.Nat.ModEq
import SpinLocks.Proofs.ArrayQueue.Turns
import SpinLocks.Proofs.Members
import SpinLocks.Proofs.Tickets

namespace SpinLocks.ArrayQueue

open Usage

variable {n : Nat}

/-- The tickets that were drawn from a certain one on, in the hands of the threads in line. -/
def Drawn (u : Threads n) (first : Nat) (line : List (Fin n)) : Prop :=
  ∀ i (hi : i < line.length),
    u.own? (line)[i] = some ⟨.ofNat (first + i), u.shared.slotOf (first + i)⟩

structure Ringed (u : Threads n) (first : Nat) (line : List (Fin n)) : Prop extends
    Lined u line where
  holder_idle : ∀ t, u.holds t = true → ∃ own, u.seat t = .idle own
  raised : Raised u.shared.flags (u.shared.slotOf first)
  tail_eq : u.shared.tail = .ofNat (first + line.length)
  drawn : Drawn u first line
  participants_eq : u.members.card = u.shared.participants
  participants_le : u.shared.participants ≤ u.shared.capacity
  length_eq : u.shared.flags.length = max u.shared.capacity 2

/-- All the threads that the lock may serve are engaged, and they are more than one. -/
def Crowded (u : Threads n) : Prop :=
  1 < u.shared.capacity ∧ u.engaged.card = u.shared.capacity

instance Crowded.decidable (u : Threads n) : Decidable (Crowded u) :=
  inferInstanceAs (Decidable (_ ∧ _))

variable {u : Threads n} {first : Nat} {line rest : List (Fin n)} {t : Fin n} {own : Own}
  {shared : Shared} {seat : Seat Own Wait} {holds : Bool}

/-- Two tickets less than a round apart have one slot where they are the same. -/
theorem slotOf_add_eq_iff {k : Nat} (hk : k ≤ shared.flags.length) :
    shared.slotOf (first + k) = shared.slotOf first ↔ k = 0 ∨ k = shared.flags.length := by
  have hdvd : shared.slotOf (first + k) = shared.slotOf first ↔ shared.flags.length ∣ k := by
    rw [← Nat.modEq_zero_iff_dvd]
    exact ⟨fun h => Nat.ModEq.add_left_cancel' first h, fun h => h.add_left first⟩
  rw [hdvd]
  constructor
  · intro h
    obtain hz | hpos := Nat.eq_zero_or_pos k
    · exact .inl hz
    · exact .inr (Nat.le_antisymm hk (Nat.le_of_dvd hpos h))
  · rintro (rfl | rfl)
    · exact Nat.dvd_zero _
    · exact Nat.dvd_refl _

def Shared.drawn (shared : Shared) (i : Nat) : Own :=
  ⟨.ofNat i, shared.slotOf i⟩

theorem Drawn.of_ticketed (h : Ticketed id shared.drawn u first line)
    (hlength : u.shared.flags.length = shared.flags.length) : Drawn u first line := by
  intro i hi
  have hticket := h.ticket_eq i hi
  rw [Option.map_id, id] at hticket
  rw [hticket, Shared.drawn, Shared.slotOf, Shared.slotOf, hlength]

section Ringed

variable (h : Ringed u first line)
include h

theorem Ringed.ticketed : Ticketed id u.shared.drawn u first line where
  toLined := h.toLined
  ticket_eq := by
    intro i hi
    rw [h.drawn i hi]
    rfl

theorem Ringed.isSome_own? (t : Fin n) (ht : t ∈ line) : (u.own? t).isSome = true := by
  obtain ⟨own, ho⟩ := h.exists_own h.holder_idle ht
  rw [ho]
  rfl

theorem Ringed.length_le : line.length ≤ u.shared.capacity :=
  (h.toLined.length_le h.isSome_own?).trans (h.participants_eq.le.trans h.participants_le)

theorem Ringed.length_lt (ho : u.own? t = some own) (ht : t ∉ line) :
    line.length < u.shared.capacity :=
  (h.toLined.length_lt h.isSome_own? ho ht).trans_le
    (h.participants_eq.le.trans h.participants_le)

theorem Ringed.capacity_le : u.shared.capacity ≤ u.shared.flags.length := by
  rw [h.length_eq]
  exact Nat.le_max_left ..

theorem Ringed.crowded_iff : Crowded u ↔ line.length = u.shared.flags.length := by
  have hle := h.length_le
  rw [Crowded, h.card_engaged, h.length_eq]
  omega

theorem Ringed.not_crowded (ho : u.own? t = some own) (ht : t ∉ line) : ¬ Crowded u := by
  have hlt := h.length_lt ho ht
  rw [← h.card_engaged] at hlt
  exact fun hcrowded => hlt.ne hcrowded.2

theorem Ringed.tailSlot_eq (hfew : first + line.length < 2 ^ 64) :
    u.shared.tailSlot = u.shared.slotOf (first + line.length) := by
  rw [Shared.tailSlot, h.tail_eq, UInt64.toNat_ofNat_of_lt' hfew]

theorem Ringed.tailSlot_eq_iff
    (hslot : u.shared.tailSlot = u.shared.slotOf (first + line.length)) :
    u.shared.tailSlot = u.shared.slotOf first ↔ line = [] ∨ Crowded u := by
  rw [hslot, slotOf_add_eq_iff (h.length_le.trans h.capacity_le),
    List.length_eq_zero_iff, h.crowded_iff]

/-- Of those in line, the first alone finds the flag of its slot raised. -/
theorem Ringed.slot_eq_iff (ht : t ∈ line) (ho : u.own? t = some own) :
    own.slot = u.shared.slotOf first ↔ line.head? = some t := by
  obtain ⟨i, hi, hhead, hticket⟩ := h.ticketed.exists_place ht ho
  have hlt := Nat.lt_of_lt_of_le hi (h.length_le.trans h.capacity_le)
  rw [show own.slot = u.shared.slotOf (first + i) from congrArg Own.slot hticket,
    slotOf_add_eq_iff hlt.le, or_iff_left hlt.ne, hhead]

theorem Ringed.slot_lt (ht : t ∈ line) (ho : u.own? t = some own) :
    own.slot < u.shared.flags.length := by
  obtain ⟨i, -, -, hticket⟩ := h.ticketed.exists_place ht ho
  rw [show own.slot = u.shared.slotOf (first + i) from congrArg Own.slot hticket]
  exact Shared.slotOf_lt (Nat.zero_lt_of_lt h.raised.slot_lt) _

theorem Ringed.frame (ht : t ∉ line) (hw : seat.waits = false) {participants : Nat}
    (hp : (u.put t { u.shared with participants } seat false).members.card = participants)
    (hle : participants ≤ u.shared.capacity) :
    Ringed (u.put t { u.shared with participants } seat false) first line where
  toLined := h.toLined.frame ht hw
  holder_idle := holder_idle_put h.holder_idle (by simp)
  raised := h.raised
  tail_eq := h.tail_eq
  drawn := .of_ticketed (h.ticketed.frame ht hw) rfl
  participants_eq := hp
  participants_le := hle
  length_eq := h.length_eq

/-- A thread draws the next ticket, and has the lock with it where nobody stands in line. -/
theorem Ringed.draw (ho : u.own? t = some own) (ht : t ∉ line)
    (hslot : u.shared.tailSlot = u.shared.slotOf (first + line.length))
    (hseat : seat.own? = some u.shared.nextOwn)
    (hw : seat.waits = !holds) (hnil : holds = true → line = [])
    (hidle : holds = true → ∃ own, seat = .idle own) :
    Ringed (u.put t u.shared.draw seat holds) first (line ++ [t]) where
  toLined := h.toLined.enter ht hnil hw
  holder_idle := holder_idle_put h.holder_idle hidle
  raised := h.raised
  tail_eq := by
    rw [List.length_append, ← Nat.add_assoc, UInt64.ofNat_add, ← h.tail_eq]
    rfl
  drawn := by
    refine .of_ticketed (h.ticketed.enter ht hnil hw ?_) rfl
    rw [hseat, Shared.nextOwn, hslot, h.tail_eq]
    rfl
  participants_eq := by
    rw [members_put_of_own? ho (by rw [hseat]; rfl)]
    exact h.participants_eq
  participants_le := h.participants_le
  length_eq := h.length_eq

end Ringed

theorem Ringed.grant (h : Ringed u first (t :: rest)) (ho : u.own? t = some own) :
    Ringed (u.put t u.shared (.idle own) true) first (t :: rest) where
  toLined := h.toLined.grant
  holder_idle := holder_idle_put h.holder_idle fun _ => ⟨own, rfl⟩
  raised := h.raised
  tail_eq := h.tail_eq
  drawn := .of_ticketed (h.ticketed.grant ho) rfl
  participants_eq := by
    rw [members_put_of_own? ho rfl]
    exact h.participants_eq
  participants_le := h.participants_le
  length_eq := h.length_eq

theorem Ringed.pass (h : Ringed u first (t :: rest)) (ho : u.own? t = some own) :
    Ringed (u.put t (u.shared.pass own.slot) (.idle own) false) (first + 1) rest where
  toLined := h.toLined.leave
  holder_idle := holder_idle_put h.holder_idle (by simp)
  raised := by
    have hslot : own.slot = u.shared.slotOf first := (h.slot_eq_iff List.mem_cons_self ho).mpr rfl
    have hnext : u.shared.slotOf (own.slot + 1) = u.shared.slotOf (first + 1) := by
      rw [hslot]
      exact Nat.mod_add_mod ..
    simp only [shared_put, Shared.slotOf, Shared.length_pass]
    have hraised :=
      h.raised.pass (Shared.slotOf_lt (Nat.zero_lt_of_lt h.raised.slot_lt) (first + 1))
    rw [Shared.pass, hnext, hslot]
    exact hraised
  tail_eq := by
    refine h.tail_eq.trans ?_
    rw [List.length_cons, Nat.add_assoc, Nat.add_comm 1]
  drawn := .of_ticketed h.ticketed.leave (by simp)
  participants_eq := by
    rw [members_put_of_own? ho rfl]
    exact h.participants_eq
  participants_le := h.participants_le
  length_eq := by
    simp only [shared_put, Shared.length_pass]
    exact h.length_eq

end SpinLocks.ArrayQueue
