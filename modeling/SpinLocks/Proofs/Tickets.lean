import Mathlib.Data.List.Nodup
import SpinLocks.Proofs.Line

namespace SpinLocks

variable {Shared Own Wait Ticket : Type} {n : Nat}

/-- The tickets of those in line follow one another, from a certain one on. -/
structure Ticketed (ticket : Own → Ticket) (number : Nat → Ticket) (u : Usage Shared Own Wait n)
    (first : Nat) (line : List (Fin n)) : Prop extends Lined u line where
  ticket_eq : ∀ i (hi : i < line.length),
    (u.own? (line)[i]).map ticket = some (number (first + i))

def called (u : Usage Shared Own Wait n) (first : Nat) (line : List (Fin n)) : Nat :=
  first + (line.length - (queue u line).length)

def Draws (lock : Lock Shared Own Wait)
    (Inv : Usage Shared Own Wait n → Nat → List (Fin n) → Prop) (u : Usage Shared Own Wait n)
    (t : Fin n) (action : Action Entry Command) (first : Nat) (line : List (Fin n)) : Prop :=
  ∃ first' line', Inv (u.step lock t action).1 first' line' ∧ Moves u t line line' ∧
    first' + line'.length =
      first + line.length + (if u.enters lock t action then [t] else []).length

/-- The lock is granted to all who come to be engaged, up to those who wait for it now, in the order
of their tickets. The `i`-th that is drawn is `number i`. -/
structure InTurn (lock : Lock Shared Own Wait) (ticket : Own → Ticket) (number : Nat → Ticket)
    (before : Usage Shared Own Wait n) (schedule : Schedule n) (waiting : List (Fin n)) :
    Prop where
  entries_eq : before.entries lock schedule = before.grants lock schedule ++ waiting
  inOrder : InOrder lock (before.run lock schedule).1 waiting
  granted : (before.takings lock (fun _ => false) schedule).map (fun taking => ticket taking.own) =
    (List.range (before.grants lock schedule).length).map number
  awaited : waiting.map (fun t => ((before.run lock schedule).1.own? t).map ticket) =
    (List.range' (before.grants lock schedule).length waiting.length).map fun i => some (number i)

open Usage

variable {lock : Lock Shared Own Wait} {ticket : Own → Ticket} {number : Nat → Ticket}
  {u : Usage Shared Own Wait n} {t : Fin n} {first first' : Nat} {line line' rest : List (Fin n)}
  {action : Action Entry Command} {Inv : Usage Shared Own Wait n → Nat → List (Fin n) → Prop}

theorem Draws.mono {Inv' : Usage Shared Own Wait n → Nat → List (Fin n) → Prop}
    (h : Draws lock Inv u t action first line)
    (hinv : ∀ first line, Inv (u.step lock t action).1 first line →
      Inv' (u.step lock t action).1 first line) : Draws lock Inv' u t action first line := by
  obtain ⟨first', line', h', hm⟩ := h
  exact ⟨first', line', hinv first' line' h', hm⟩

section Step

variable (hlined : ∀ u first line, Inv u first line → Lined u line)
include hlined

theorem Draws.stay (h : Inv u first line) (h' : Inv (u.step lock t action).1 first line) :
    Draws lock Inv u t action first line := by
  refine ⟨first, line, h', .inl rfl, ?_⟩
  rw [(hlined u first line h).enters_stay (hlined _ first line h')]
  rfl

theorem Draws.enter (h : Inv u first line)
    (h' : Inv (u.step lock t action).1 first (line ++ [t])) :
    Draws lock Inv u t action first line := by
  refine ⟨first, line ++ [t], h', .inr (.inl rfl), ?_⟩
  rw [(hlined u first line h).enters_enter (hlined _ first _ h'), List.length_append,
    ← Nat.add_assoc]
  rfl

omit hlined in
theorem Draws.leave (hh : u.holds t = true)
    (h' : Inv (u.step lock t action).1 (first + 1) rest) :
    Draws lock Inv u t action first (t :: rest) := by
  refine ⟨first + 1, rest, h', .inr (.inr ⟨hh, rfl⟩), ?_⟩
  rw [Lined.enters_of_holds hh, List.length_cons, Nat.add_assoc, Nat.add_comm 1]
  rfl

end Step

theorem length_queue_le (u : Usage Shared Own Wait n) (line : List (Fin n)) :
    (queue u line).length ≤ line.length :=
  List.length_filter_le ..

theorem called_of_holds (h : Lined u (t :: rest)) (hh : u.holds t = true) :
    called u first (t :: rest) = first + 1 := by
  rw [called, h.queue_eq_tail hh, List.length_cons, Nat.add_sub_cancel_left]

theorem called_of_free (hf : ∀ s, u.holds s = false) : called u first line = first := by
  rw [called, Lined.queue_eq_self hf, Nat.sub_self, Nat.add_zero]

namespace Ticketed

theorem nil (h : ∀ t, ¬ u.Engaged t) : Ticketed ticket number u first [] :=
  ⟨.nil h, fun i hi => absurd hi (Nat.not_lt_zero i)⟩

theorem map_ticket (h : Ticketed ticket number u first line) :
    line.map (fun t => (u.own? t).map ticket) =
      (List.range' first line.length).map fun i => some (number i) := by
  apply List.ext_getElem
  · simp
  · intro i hi _
    rw [List.length_map] at hi
    simpa using h.ticket_eq i hi

theorem exists_place (h : Ticketed ticket number u first line) (ht : t ∈ line) {own : Own}
    (ho : u.own? t = some own) :
    ∃ i < line.length, (i = 0 ↔ line.head? = some t) ∧ ticket own = number (first + i) := by
  obtain ⟨i, hi, rfl⟩ := List.mem_iff_getElem.mp ht
  have hticket := h.ticket_eq i hi
  rw [ho] at hticket
  have hpos : 0 < line.length := Nat.zero_lt_of_lt hi
  refine ⟨i, hi, ?_, Option.some.inj hticket⟩
  rw [List.head?_eq_getElem?, List.getElem?_eq_getElem hpos, Option.some_inj,
    h.nodup.getElem_inj_iff, eq_comm]

/-- Those who do not hold the lock yet have the tickets that were not called yet. -/
theorem map_queue (h : Ticketed ticket number u first line) :
    (queue u line).map (fun t => (u.own? t).map ticket) =
      (List.range' (called u first line) (queue u line).length).map fun i => some (number i) := by
  cases line with
  | nil => rfl
  | cons t rest =>
    cases hh : u.holds t with
    | true =>
      have htail := congrArg List.tail h.map_ticket
      rw [h.queue_eq_tail hh, called_of_holds h.toLined hh]
      simpa [List.range'_succ] using htail
    | false =>
      have hf := h.not_holds hh
      rw [Lined.queue_eq_self hf, called_of_free hf]
      exact h.map_ticket

section Put

variable {shared : Shared} {seat : Seat Own Wait} {holds : Bool} {own : Own}

theorem frame (h : Ticketed ticket number u first line) (ht : t ∉ line) (hw : seat.waits = false) :
    Ticketed ticket number (u.put t shared seat false) first line where
  toLined := h.toLined.frame ht hw
  ticket_eq := by
    intro i hi
    have hne : (line)[i] ≠ t := fun he => ht (he ▸ List.getElem_mem hi)
    rw [own?_put, if_neg hne]
    exact h.ticket_eq i hi

theorem enter (h : Ticketed ticket number u first line) (ht : t ∉ line)
    (hnil : holds = true → line = []) (hw : seat.waits = !holds)
    (hseat : seat.own?.map ticket = some (number (first + line.length))) :
    Ticketed ticket number (u.put t shared seat holds) first (line ++ [t]) where
  toLined := h.toLined.enter ht hnil hw
  ticket_eq := by
    intro i hi
    rw [own?_put]
    obtain hlt | rfl : i < line.length ∨ i = line.length :=
      Nat.lt_succ_iff_lt_or_eq.mp (by simpa using hi)
    · have hne : (line)[i] ≠ t := fun he => ht (he ▸ List.getElem_mem hlt)
      rw [List.getElem_append_left hlt, if_neg hne]
      exact h.ticket_eq i hlt
    · rw [List.getElem_concat_length rfl, if_pos rfl, hseat]

theorem grant (h : Ticketed ticket number u first (t :: rest)) (ho : u.own? t = some own) :
    Ticketed ticket number (u.put t shared (.idle own) true) first (t :: rest) where
  toLined := h.toLined.grant
  ticket_eq := by
    intro i hi
    have hticket := h.ticket_eq i hi
    rw [own?_put]
    split
    · next he =>
      rw [he, ho] at hticket
      exact hticket
    · exact hticket

theorem leave (h : Ticketed ticket number u first (t :: rest)) :
    Ticketed ticket number (u.put t shared (.idle own) false) (first + 1) rest where
  toLined := h.toLined.leave
  ticket_eq := by
    intro i hi
    have hticket := h.ticket_eq (i + 1) (Nat.succ_lt_succ hi)
    have hne : rest[i] ≠ t := fun he =>
      (List.nodup_cons.mp h.nodup).1 (he ▸ List.getElem_mem hi)
    rw [own?_put, if_neg hne, Nat.add_assoc, Nat.add_comm 1 i]
    exact hticket

end Put

theorem map_taking? (h' : Ticketed ticket number (u.step lock t action).1 first' line')
    (recent : Fin n → Bool)
    (hcalled : called (u.step lock t action).1 first' line' =
      called u first line + (if u.takes lock t action then [t] else []).length) :
    (u.taking? lock recent t action).toList.map (fun taking => ticket taking.own) =
      (List.range' (called u first line) (if u.takes lock t action then [t] else []).length).map
        number := by
  rw [taking?]
  split
  · next htakes =>
    have hh : (u.step lock t action).1.holds t = true := by
      rw [takes, Bool.and_eq_true] at htakes
      exact htakes.2
    obtain ⟨rest, rfl⟩ := h'.holder_first t hh
    rw [called_of_holds h'.toLined hh, if_pos htakes, List.length_singleton] at hcalled
    have hown := h'.ticket_eq 0 (by simp)
    rw [List.getElem_cons_zero, Nat.add_zero, Nat.add_right_cancel hcalled] at hown
    obtain ⟨own, ho, hticket⟩ := Option.map_eq_some_iff.mp hown
    simp [ho, hticket]
  · rfl

end Ticketed

/-- The numbers of the tickets called and drawn follow each other in each step. -/
theorem called_step (h : Lined u line) (h' : Lined (u.step lock t action).1 line')
    (hm : Moves u t line line')
    (hcount : first' + line'.length =
      first + line.length + (if u.enters lock t action then [t] else []).length) :
    called (u.step lock t action).1 first' line' =
      called u first line + (if u.takes lock t action then [t] else []).length := by
  have hlength := congrArg List.length (h.queue_step h' hm)
  have hle := length_queue_le u line
  have hle' := length_queue_le (u.step lock t action).1 line'
  rw [List.length_append, List.length_append] at hlength
  rw [called, called]
  omega

/-- All tickets drawn in the run are called one after the other, up to those of the threads that
wait when it ends. Fewer are drawn than the limit allows. -/
theorem tickets_run {P : Usage Shared Own Wait n → Fin n → Action Entry Command → Prop}
    {limit : Nat}
    (hticketed : ∀ u first line, Inv u first line → first + line.length < limit →
      Ticketed ticket number u first line)
    (hstep : ∀ u first line t action, Inv u first line → first + line.length < limit →
      P u t action → Draws lock Inv u t action first line)
    (h : Inv u first line) {schedule : Schedule n} (hp : u.Along lock P schedule)
    (hfew : first + line.length + (u.entries lock schedule).length < limit)
    (recent : Fin n → Bool) :
    ∃ first' line', Inv (u.run lock schedule).1 first' line' ∧
      first' + line'.length = first + line.length + (u.entries lock schedule).length ∧
      queue u line ++ u.entries lock schedule =
        u.grants lock schedule ++ queue (u.run lock schedule).1 line' ∧
      called (u.run lock schedule).1 first' line' =
        called u first line + (u.grants lock schedule).length ∧
      (u.takings lock recent schedule).map (fun taking => ticket taking.own) =
        (List.range' (called u first line) (u.grants lock schedule).length).map number := by
  induction schedule generalizing u first line recent with
  | nil => exact ⟨first, line, h, rfl, List.append_nil _, rfl, rfl⟩
  | cons step rest ih =>
    obtain ⟨t, action⟩ := step
    rw [entries, List.length_append, ← Nat.add_assoc] at hfew
    have hroom : first + line.length < limit := by omega
    obtain ⟨first₁, line₁, h₁, hm, hcount⟩ := hstep u first line t action h hroom hp.1
    rw [← hcount] at hfew
    have hline := hticketed u first line h hroom
    have hline₁ := hticketed _ first₁ line₁ h₁ (by omega)
    -- what the first step has called and drawn is where the rest of the run begins
    have hcalled := called_step hline.toLined hline₁.toLined hm hcount
    obtain ⟨first₂, line₂, h₂, hcount₂, hqueue, hcalled₂, htickets⟩ :=
      ih h₁ hp.2 hfew (u.remember lock recent t action)
    refine ⟨first₂, line₂, h₂, ?_, ?_, ?_, ?_⟩
    · rw [entries, List.length_append, ← Nat.add_assoc, ← hcount]
      exact hcount₂
    · have hfirst := hline.queue_step hline₁.toLined hm
      rw [entries, grants_cons, ← List.append_assoc, hfirst, List.append_assoc, hqueue,
        ← List.append_assoc]
      rfl
    · rw [grants_cons, List.length_append, ← Nat.add_assoc, ← hcalled]
      exact hcalled₂
    · rw [takings, List.map_append, grants_cons, List.length_append, ← List.range'_append_1,
        List.map_append, ← hcalled]
      exact congrArg₂ _ (hline₁.map_taking? _ hcalled) htickets

variable (lock) in
/-- Where nobody is engaged at first, the tickets are numbered from zero on. -/
theorem inTurn_run {P : Usage Shared Own Wait n → Fin n → Action Entry Command → Prop}
    {limit : Nat}
    (hticketed : ∀ u first line, Inv u first line → first + line.length < limit →
      Ticketed ticket number u first line)
    (horder : ∀ u first line, Inv u first line → first + line.length < limit →
      InOrder lock u (queue u line))
    (hstep : ∀ u first line t action, Inv u first line → first + line.length < limit →
      P u t action → Draws lock Inv u t action first line)
    (h : Inv u 0 []) {schedule : Schedule n} (hp : u.Along lock P schedule)
    (hfew : (u.entries lock schedule).length < limit) :
    ∃ first line, Inv (u.run lock schedule).1 first line ∧
      first + line.length = (u.entries lock schedule).length ∧
      InTurn lock ticket number u schedule (queue (u.run lock schedule).1 line) := by
  obtain ⟨first, line, hlast, hcount, hqueue, hcalled, htickets⟩ :=
    tickets_run hticketed hstep h hp (by simpa using hfew) fun _ => false
  rw [show (0 : Nat) + ([] : List (Fin n)).length = 0 from rfl, Nat.zero_add] at hcount
  rw [show called u 0 [] = 0 from rfl, Nat.zero_add] at hcalled
  have hroom : first + line.length < limit := hcount ▸ hfew
  have hawaited := (hticketed _ first line hlast hroom).map_queue
  rw [hcalled] at hawaited
  rw [show called u 0 [] = 0 from rfl, ← List.range_eq_range'] at htickets
  exact ⟨first, line, hlast, hcount, hqueue, horder _ first line hlast hroom, htickets, hawaited⟩

end SpinLocks
