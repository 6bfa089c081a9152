import SpinLocks.Proofs.ArrayQueue.Ring
import SpinLocks.Proofs.Tickets

namespace SpinLocks.ArrayQueue

open Usage

variable {n : Nat} {u : Threads n} {first : Nat} {line rest : List (Fin n)} {t : Fin n} {own : Own}
  {point : Wait} {action : Action Entry Command}

/-- Whoever holds the lock may attempt it too, unless it is crowded. -/
def Allows (u : Threads n) (t : Fin n) (action : Action Entry Command) : Prop :=
  u.permits t action = true ∨ action = .start .tryAcquire ∧ ¬ Crowded u

instance Allows.decidable (u : Threads n) (t : Fin n) (action : Action Entry Command) :
    Decidable (Allows u t action) :=
  inferInstanceAs (Decidable (_ ∨ _))

/-- After the step the threads are in the ring, and a ticket has been drawn where the thread came to
be engaged. -/
def Advances (u : Threads n) (t : Fin n) (action : Action Entry Command) (first : Nat)
    (line : List (Fin n)) : Prop :=
  ∃ first' line', Ringed (u.step arrayQueue t action).1 first' line' ∧ Moves u t line line' ∧
    first' + line'.length =
      first + line.length + (if u.enters arrayQueue t action then [t] else []).length

theorem Advances.stay (h : Ringed u first line)
    (h' : Ringed (u.step arrayQueue t action).1 first line) : Advances u t action first line :=
  Draws.stay (fun _ _ _ h => h.toLined) h h'

theorem Advances.enter (h : Ringed u first line)
    (h' : Ringed (u.step arrayQueue t action).1 first (line ++ [t])) :
    Advances u t action first line :=
  Draws.enter (fun _ _ _ h => h.toLined) h h'

theorem Advances.leave (hh : u.holds t = true)
    (h' : Ringed (u.step arrayQueue t action).1 (first + 1) rest) :
    Advances u t action first (t :: rest) :=
  Draws.leave hh h'

section Turn

variable (hslot : u.shared.tailSlot = u.shared.slotOf (first + line.length))
include hslot

theorem Ringed.settle_acquire (h : Ringed u first line) (hs : u.seat t = .idle own)
    (hf : u.holds t = false) :
    Ringed (u.settle t (acquire u.shared own)) first (line ++ [t]) ∧
      (acquire u.shared own).answer.faults = false := by
  have ho := own?_of_idle hs
  have ht := h.not_mem_idle hs hf
  rw [acquire_eq h.raised]
  split
  · next he =>
    have hnil := ((h.tailSlot_eq_iff hslot).mp he).resolve_right (h.not_crowded ho ht)
    rw [settle_done, hf]
    exact ⟨h.draw ho ht hslot rfl rfl (fun _ => hnil) fun _ => ⟨_, rfl⟩, rfl⟩
  · rw [settle_waiting, hf]
    exact ⟨h.draw ho ht hslot rfl rfl (by simp) (by simp), rfl⟩

theorem Ringed.settle_attempt (h : Ringed u first line) (hs : u.seat t = .idle own)
    (hcrowded : ¬ Crowded u) :
    Ringed (u.settle t (tryAcquire u.shared own)) first (if line = [] then [t] else line) ∧
      (tryAcquire u.shared own).answer = .done (.took (line = [])) := by
  have ho := own?_of_idle hs
  rw [tryAcquire_eq h.raised]
  by_cases hnil : line = []
  · subst hnil
    have hf := h.not_holds_of_not_mem (List.not_mem_nil (a := t))
    rw [if_pos ((h.tailSlot_eq_iff hslot).mpr (.inl rfl)), settle_took, hf]
    exact ⟨h.draw ho List.not_mem_nil hslot rfl rfl (fun _ => rfl) fun _ => ⟨_, rfl⟩, rfl⟩
  · have hne : u.shared.tailSlot ≠ u.shared.slotOf first := by
      rw [Ne, h.tailSlot_eq_iff hslot]
      exact not_or.mpr ⟨hnil, hcrowded⟩
    rw [if_neg hne, settle_took, Bool.xor_false, ← hs, put_self, if_neg hnil]
    simp [hnil, h, Turn.answer]

end Turn

theorem Ringed.settle_release (h : Ringed u first (t :: rest)) (hs : u.seat t = .idle own)
    (hh : u.holds t = true) :
    Ringed (u.settle t (release u.shared own)) (first + 1) rest ∧
      (release u.shared own).answer = .done .done := by
  have ho := own?_of_idle hs
  rw [release_eq (h.slot_lt List.mem_cons_self ho), settle_done, hh]
  exact ⟨h.pass ho, rfl⟩

theorem Ringed.settle_resume (h : Ringed u first line) (hs : u.seat t = .waiting own point) :
    Ringed (u.settle t (resume point u.shared own)) first line ∧
      (resume point u.shared own).answer =
        if line.head? = some t then .done .done else .waiting := by
  have hw : u.waits t = true := waits_iff.mpr ⟨own, point, hs⟩
  have ho := own?_of_waiting hs
  have hm := (h.engaged_iff t).mp (.inr hw)
  rw [show resume point u.shared own = await u.shared own from rfl,
    await_eq h.raised (h.slot_lt hm ho)]
  by_cases hhead : line.head? = some t
  · obtain ⟨rest, rfl⟩ : ∃ rest, line = t :: rest := List.head?_eq_some_iff.mp hhead
    rw [if_pos ((h.slot_eq_iff hm ho).mpr hhead), if_pos hhead, settle_done, h.waits_holds t hw]
    exact ⟨h.grant ho, rfl⟩
  · rw [if_neg (mt (h.slot_eq_iff hm ho).mp hhead), if_neg hhead, settle_self hs]
    exact ⟨h, rfl⟩

theorem Ringed.step_join (h : Ringed u first line) (hs : u.seat t = .vacant) (entry : Entry) :
    Ringed (u.step arrayQueue t (.join entry)).1 first line ∧
      (u.step arrayQueue t (.join entry)).2.faults = false := by
  have ht : t ∉ line := by
    intro hm
    have hown := h.isSome_own? t hm
    rw [Usage.own?, hs] at hown
    cases hown
  by_cases hlt : u.shared.participants < u.shared.capacity
  · have hjoin : arrayQueue.join entry u.shared = (_, .ok ⟨0, 0⟩) := if_pos hlt
    rw [step_join_ok arrayQueue hs hjoin, h.not_holds_of_not_mem ht]
    refine ⟨h.frame ht rfl ?_ hlt, rfl⟩
    rw [card_members_join hs rfl, h.participants_eq]
  · have hjoin : arrayQueue.join entry u.shared = (u.shared, .error _) := if_neg hlt
    rw [step_join_error arrayQueue hs hjoin, ← hs, put_self]
    exact ⟨h, rfl⟩

theorem Ringed.step_leave (h : Ringed u first line) (hs : u.seat t = .idle own)
    (hf : u.holds t = false) :
    Ringed (u.step arrayQueue t .leave).1 first line ∧
      (u.step arrayQueue t .leave).2 = .left := by
  have hleave : arrayQueue.leave u.shared own =
      ({ u.shared with participants := u.shared.participants - 1 }, none) := rfl
  rw [Usage.step_leave arrayQueue hs hleave, hf]
  refine ⟨h.frame (h.not_mem_idle hs hf) rfl ?_ ((Nat.sub_le ..).trans h.participants_le), rfl⟩
  rw [card_members_leave (own?_of_idle hs), h.participants_eq]

section Start

variable (h : Ringed u first line) (hs : u.seat t = .idle own)
  (hslot : u.shared.tailSlot = u.shared.slotOf (first + line.length))
include h hs hslot

theorem Ringed.step_attempt (hcrowded : ¬ Crowded u) :
    Advances u t (.start .tryAcquire) first line ∧
      (u.step arrayQueue t (.start .tryAcquire)).2 = .done (.took (line = [])) := by
  have hstep : u.step arrayQueue t (.start .tryAcquire) = _ := step_start hs .tryAcquire
  obtain ⟨h', he⟩ := h.settle_attempt hslot hs hcrowded
  refine ⟨?_, by rw [hstep]; exact he⟩
  split at h'
  · next hnil =>
    subst hnil
    exact .enter h (by rwa [hstep])
  · exact .stay h (by rwa [hstep])

theorem Ringed.step_start {command : Command} (ha : Allows u t (.start command)) :
    Advances u t (.start command) first line ∧
      (u.step arrayQueue t (.start command)).2.faults = false := by
  obtain hp | ⟨hcommand, hcrowded⟩ := ha
  · obtain ⟨hh, he⟩ | ⟨hh, ⟨-, he⟩ | ⟨rfl, -⟩ | he⟩ := start_cases arrayQueue hs rfl hp
    · obtain ⟨rest, rfl⟩ := h.holder_first t hh
      obtain ⟨h', hdone⟩ := h.settle_release hs hh
      exact ⟨.leave hh (by rwa [he]), by rw [he, hdone]; rfl⟩
    · obtain ⟨h', hfaults⟩ := h.settle_acquire hslot hs hh
      exact ⟨.enter h (by rwa [he]), by rwa [he]⟩
    · have hcrowded := h.not_crowded (own?_of_idle hs) (h.not_mem_idle hs hh)
      obtain ⟨h', he⟩ := h.step_attempt hs hslot hcrowded
      exact ⟨h', by rw [he]; rfl⟩
    · exact ⟨.stay h (by rwa [he]), by rw [he]; rfl⟩
  · cases hcommand
    obtain ⟨h', he⟩ := h.step_attempt hs hslot hcrowded
    exact ⟨h', by rw [he]; rfl⟩

end Start

/-- Each step keeps the threads in the ring, and none fails a check, where the next ticket has the
next slot. -/
theorem Ringed.step_of_slot (h : Ringed u first line)
    (hslot : u.shared.tailSlot = u.shared.slotOf (first + line.length)) (ha : Allows u t action) :
    Advances u t action first line ∧ (u.step arrayQueue t action).2.faults = false := by
  obtain ⟨cause, -, he⟩ | ⟨entry, rfl, hs⟩ | ⟨own, rfl, hs⟩ | ⟨own, command, rfl, hs⟩ |
    ⟨own, point, rfl, hs⟩ := step_cases arrayQueue u t action
  · exact ⟨.stay h (by rwa [he]), by rw [he]; rfl⟩
  · obtain ⟨h', hfaults⟩ := h.step_join hs entry
    exact ⟨.stay h h', hfaults⟩
  · have hp := ha.resolve_right (by simp)
    obtain ⟨h', he⟩ := h.step_leave hs (by simpa [permits] using hp)
    exact ⟨.stay h h', by rw [he]; rfl⟩
  · exact h.step_start hs hslot ha
  · obtain ⟨h', he⟩ := h.settle_resume hs
    have hstep : u.step arrayQueue t .resume = _ := step_resume hs
    refine ⟨.stay h (by rwa [hstep]), ?_⟩
    rw [hstep]
    show (resume point u.shared own).answer.faults = false
    rw [he]
    split <;> rfl

theorem Ringed.step (h : Ringed u first line) (hfew : first + line.length < 2 ^ 64)
    (ha : Allows u t action) :
    Advances u t action first line ∧ (u.step arrayQueue t action).2.faults = false :=
  h.step_of_slot (h.tailSlot_eq hfew) ha

theorem ringed_opening (config : Config) (n : Nat) :
    Ringed (opening arrayQueue config n) 0 [] where
  toLined := .nil (not_engaged_opening arrayQueue config n)
  holder_idle t hh := absurd (.inl hh) (not_engaged_opening arrayQueue config n t)
  raised := by
    have hpos : 0 < max config.maxThreads 2 := Nat.lt_of_lt_of_le Nat.two_pos (Nat.le_max_right ..)
    have hslot : (opening arrayQueue config n).shared.slotOf 0 = 0 := Nat.zero_mod _
    rw [hslot]
    exact .range hpos
  tail_eq := rfl
  drawn i hi := absurd hi (Nat.not_lt_zero i)
  participants_eq := by
    rw [members_eq_empty (own?_opening arrayQueue config n)]
    rfl
  participants_le := Nat.zero_le _
  length_eq := by
    show ((List.range (max config.maxThreads 2)).map (· == 0)).length = max config.maxThreads 2
    rw [List.length_map, List.length_range]

/-- As many tickets are drawn in all as threads come to be engaged. -/
theorem Ringed.run (h : Ringed u first line) {schedule : Schedule n}
    (ha : u.Along arrayQueue Allows schedule)
    (hfew : first + line.length + (u.entries arrayQueue schedule).length < 2 ^ 64) :
    (∃ first' line', Ringed (u.run arrayQueue schedule).1 first' line' ∧
      first' + line'.length = first + line.length + (u.entries arrayQueue schedule).length) ∧
      ∀ answer ∈ (u.run arrayQueue schedule).2, answer.faults = false := by
  induction schedule generalizing u first line with
  | nil => exact ⟨⟨first, line, h, rfl⟩, by simp [Usage.run]⟩
  | cons step rest ih =>
    obtain ⟨t, action⟩ := step
    rw [entries, List.length_append, ← Nat.add_assoc] at hfew ⊢
    obtain ⟨⟨first₁, line₁, h₁, -, he⟩, hfaults⟩ := h.step (by omega) ha.1
    rw [← he] at hfew ⊢
    obtain ⟨hlast, hgood⟩ := ih h₁ ha.2 hfew
    exact ⟨hlast, List.forall_mem_cons.mpr ⟨hfaults, hgood⟩⟩

end SpinLocks.ArrayQueue
