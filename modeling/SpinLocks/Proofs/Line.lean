import SpinLocks.Proofs.History

namespace SpinLocks

variable {Shared Own Wait : Type} {n : Nat}

structure Lined (u : Usage Shared Own Wait n) (line : List (Fin n)) : Prop where
  nodup : line.Nodup
  engaged_iff : ∀ t, u.Engaged t ↔ t ∈ line
  holder_first : ∀ t, u.holds t = true → ∃ rest, line = t :: rest
  waits_holds : ∀ t, u.waits t = true → u.holds t = false

/-- The line goes over to another by a step of the thread. -/
def Moves (u : Usage Shared Own Wait n) (t : Fin n) (line line' : List (Fin n)) : Prop :=
  line' = line ∨ line' = line ++ [t] ∨ u.holds t = true ∧ line = t :: line'

def queue (u : Usage Shared Own Wait n) (line : List (Fin n)) : List (Fin n) :=
  line.filter fun t => !u.holds t

/-- The threads that wait get the lock one at a time, in the order of the list. -/
structure InOrder (lock : Lock Shared Own Wait) (u : Usage Shared Own Wait n)
    (waiting : List (Fin n)) : Prop where
  nodup : waiting.Nodup
  mem_iff : ∀ t, t ∈ waiting ↔ u.waits t = true
  holder_unique : ∀ s t, u.holds s = true → u.holds t = true → s = t
  held_waits : ∀ s t, u.holds s = true → u.waits t = true →
    (u.step lock t .resume).2 = .waiting
  free_done_iff : (∀ s, u.holds s = false) → ∀ t, u.waits t = true →
    ((u.step lock t .resume).2 = .done .done ↔ waiting.head? = some t)
  free_waits : (∀ s, u.holds s = false) → ∀ t, u.waits t = true → waiting.head? ≠ some t →
    (u.step lock t .resume).2 = .waiting

open Usage

variable {lock : Lock Shared Own Wait} {u : Usage Shared Own Wait n} {t : Fin n}
  {line line' : List (Fin n)} {action : Action Entry Command}

namespace Lined

theorem nil (h : ∀ t, ¬ u.Engaged t) : Lined u [] where
  nodup := List.nodup_nil
  engaged_iff := by simp [h]
  holder_first := fun t hh => absurd (.inl hh) (h t)
  waits_holds := fun t hw => absurd (.inr hw) (h t)

theorem queue_eq_tail {rest : List (Fin n)} (h : Lined u (t :: rest)) (hh : u.holds t = true) :
    queue u (t :: rest) = rest := by
  rw [queue, List.filter_cons_of_neg (by simp [hh]), List.filter_eq_self]
  intro s hs
  -- only the first of the line may hold the lock
  by_contra hholds
  obtain ⟨rest', he⟩ := h.holder_first s (by simpa using hholds)
  obtain ⟨rfl, -⟩ := List.cons.inj he
  exact (List.nodup_cons.mp h.nodup).1 hs

theorem queue_eq_self (hf : ∀ s, u.holds s = false) (line : List (Fin n)) :
    queue u line = line :=
  List.filter_eq_self.mpr fun s _ => by simp [hf s]

theorem not_holds {rest : List (Fin n)} (h : Lined u (t :: rest)) (hf : u.holds t = false)
    (s : Fin n) : u.holds s = false := by
  by_contra hh
  obtain ⟨rest', he⟩ := h.holder_first s (by simpa using hh)
  obtain ⟨rfl, -⟩ := List.cons.inj he
  exact hh hf

theorem holder_unique (h : Lined u line) (s t : Fin n) (hs : u.holds s = true)
    (ht : u.holds t = true) : s = t := by
  obtain ⟨rest, he⟩ := h.holder_first s hs
  obtain ⟨rest', he'⟩ := h.holder_first t ht
  exact (List.cons.inj (he.symm.trans he')).1

theorem inOrder (h : Lined u line)
    (hresume : ∀ t, u.waits t = true → (u.step lock t .resume).2 =
      if line.head? = some t then .done .done else .waiting) :
    InOrder lock u (queue u line) where
  nodup := h.nodup.filter _
  mem_iff := by
    intro t
    rw [queue, List.mem_filter, ← h.engaged_iff]
    constructor
    · rintro ⟨hh | hw, hf⟩
      · simp [hh] at hf
      · exact hw
    · intro hw
      exact ⟨.inr hw, by simp [h.waits_holds t hw]⟩
  holder_unique := h.holder_unique
  held_waits := by
    intro s t hs hw
    obtain ⟨rest, rfl⟩ := h.holder_first s hs
    have hne : s ≠ t := by
      rintro rfl
      simp [h.waits_holds s hw] at hs
    rw [hresume t hw, List.head?_cons, if_neg (by simpa using hne)]
  free_done_iff := by
    intro hf t hw
    rw [hresume t hw, queue_eq_self hf]
    split <;> simp [*]
  free_waits := by
    intro hf t hw hne
    rw [queue_eq_self hf] at hne
    rw [hresume t hw, if_neg hne]

theorem inOrder_of_resume (h : Lined u line)
    (hresume : ∀ t own point, u.seat t = .waiting own point →
      (lock.resume point u.shared own).answer =
        if line.head? = some t then .done .done else .waiting) :
    InOrder lock u (queue u line) := by
  refine h.inOrder fun t hw => ?_
  obtain ⟨own, point, hs⟩ := waits_iff.mp hw
  rw [step_resume hs]
  exact hresume t own point hs

theorem not_mem_idle (h : Lined u line) {own : Own} (hs : u.seat t = .idle own)
    (hf : u.holds t = false) : t ∉ line :=
  mt (h.engaged_iff t).mpr (not_engaged_idle hs hf)

theorem not_mem_vacant (h : Lined u line)
    (hidle : ∀ s, u.holds s = true → ∃ own, u.seat s = .idle own) (hs : u.seat t = .vacant) :
    t ∉ line :=
  mt (h.engaged_iff t).mpr (not_engaged_vacant hidle hs)

theorem exists_own (h : Lined u line)
    (hidle : ∀ s, u.holds s = true → ∃ own, u.seat s = .idle own) (ht : t ∈ line) :
    ∃ own, u.own? t = some own :=
  exists_own_of_engaged hidle ((h.engaged_iff t).mpr ht)

theorem not_holds_of_not_mem (h : Lined u line) (ht : t ∉ line) : u.holds t = false := by
  by_contra hh
  exact ht ((h.engaged_iff t).mp (.inl (by simpa using hh)))

/-- The other threads hold the lock, or do not, as before. -/
theorem queue_step_of_not_mem (ht : t ∉ line) :
    queue (u.step lock t action).1 line = queue u line := by
  refine List.filter_congr fun s hs => ?_
  rw [holds_step_of_ne]
  rintro rfl
  exact ht hs

theorem not_mem_of_concat (h : Lined u (line ++ [t])) : t ∉ line :=
  fun hm => (List.nodup_append.mp h.nodup).2.2 t hm t (by simp) rfl

section Step

variable (h : Lined u line)
include h

theorem enters_stay (h' : Lined (u.step lock t action).1 line) :
    u.enters lock t action = false := by
  simp [enters, h.engaged_iff, h'.engaged_iff]

theorem enters_enter (h' : Lined (u.step lock t action).1 (line ++ [t])) :
    u.enters lock t action = true := by
  simp [enters, h.engaged_iff, h'.engaged_iff, h'.not_mem_of_concat]

theorem queue_stay (h' : Lined (u.step lock t action).1 line) :
    queue u line ++ (if u.enters lock t action then [t] else []) =
      (if u.takes lock t action then [t] else []) ++ queue (u.step lock t action).1 line := by
  rw [h.enters_stay h']
  by_cases heq : (u.step lock t action).1.holds t = u.holds t
  · have hqueue : queue (u.step lock t action).1 line = queue u line := by
      refine List.filter_congr fun s _ => ?_
      by_cases hst : s = t
      · rw [hst, heq]
      · rw [holds_step_of_ne hst]
    simp [takes, heq, hqueue]
  · -- whoever stays in line and comes to hold the lock stands in front
    have hw := not_waits_of_holds_ne heq
    cases hf : u.holds t with
    | true =>
      have hmem := (h.engaged_iff t).mp (.inl hf)
      have hholds := ((h'.engaged_iff t).mpr hmem).resolve_right (by simp [hw])
      exact absurd (hholds.trans hf.symm) heq
    | false =>
      have hholds : (u.step lock t action).1.holds t = true := by simpa [hf] using heq
      obtain ⟨rest, rfl⟩ := h'.holder_first t hholds
      have htakes : u.takes lock t action = true := by simp [takes, hf, hholds]
      rw [htakes, h'.queue_eq_tail hholds, queue_eq_self (h.not_holds hf)]
      simp

theorem queue_enter (h' : Lined (u.step lock t action).1 (line ++ [t])) :
    queue u line ++ (if u.enters lock t action then [t] else []) =
      (if u.takes lock t action then [t] else []) ++
        queue (u.step lock t action).1 (line ++ [t]) := by
  have hnot := h'.not_mem_of_concat
  have hf := h.not_holds_of_not_mem hnot
  have hqueue : queue (u.step lock t action).1 (line ++ [t]) =
      queue u line ++ queue (u.step lock t action).1 [t] := by
    rw [← queue_step_of_not_mem hnot, queue, List.filter_append]
    rfl
  rw [h.enters_enter h', hqueue]
  cases hholds : (u.step lock t action).1.holds t with
  | false => simp [takes, queue, hholds]
  | true =>
    -- the line that the thread enters with the lock is empty
    obtain ⟨rest, he⟩ := h'.holder_first t hholds
    cases line with
    | nil => simp [takes, queue, hf, hholds]
    | cons s line =>
      obtain ⟨rfl, -⟩ := List.cons.inj he
      exact absurd List.mem_cons_self hnot

end Step

theorem enters_of_holds (hh : u.holds t = true) : u.enters lock t action = false := by
  simp [enters, Engaged, hh]

theorem queue_leave (h : Lined u (t :: line)) (hh : u.holds t = true) :
    queue u (t :: line) ++ (if u.enters lock t action then [t] else []) =
      (if u.takes lock t action then [t] else []) ++ queue (u.step lock t action).1 line := by
  have hnot := (List.nodup_cons.mp h.nodup).1
  have hqueue : queue (u.step lock t action).1 line = line := by
    rw [queue, List.filter_eq_self]
    intro s hs
    have hst : s ≠ t := fun he => hnot (he ▸ hs)
    rw [holds_step_of_ne hst]
    by_contra hholds
    obtain ⟨rest, he⟩ := h.holder_first s (by simpa using hholds)
    exact hst (List.cons.inj he).1.symm
  rw [h.queue_eq_tail hh, hqueue]
  simp [takes, enters_of_holds hh, hh]

/-- In a step a thread enters the queue at its end, or the lock is granted to the first of it. -/
theorem queue_step (h : Lined u line) (h' : Lined (u.step lock t action).1 line')
    (hm : Moves u t line line') :
    queue u line ++ (if u.enters lock t action then [t] else []) =
      (if u.takes lock t action then [t] else []) ++ queue (u.step lock t action).1 line' := by
  obtain rfl | rfl | ⟨hh, rfl⟩ := hm
  · exact h.queue_stay h'
  · exact h.queue_enter h'
  · exact h.queue_leave hh

section Put

variable {shared : Shared} {seat : Seat Own Wait} {own : Own} {holds : Bool} {rest : List (Fin n)}

theorem waits_holds_put (h : Lined u line) (hw : seat.waits = true → holds = false) (s : Fin n)
    (hs : (u.put t shared seat holds).waits s = true) :
    (u.put t shared seat holds).holds s = false := by
  rw [waits_put] at hs
  rw [holds_put]
  split
  · next he => exact hw (by simpa [he] using hs)
  · next hst => exact h.waits_holds s (by simpa [hst] using hs)

theorem frame (h : Lined u line) (ht : t ∉ line) (hw : seat.waits = false) :
    Lined (u.put t shared seat false) line where
  nodup := h.nodup
  engaged_iff := by
    intro s
    rw [engaged_put]
    split
    · next he => simp [he, hw, ht]
    · exact h.engaged_iff s
  holder_first := by
    intro s hs
    rw [holds_put] at hs
    split at hs
    · cases hs
    · exact h.holder_first s hs
  waits_holds := h.waits_holds_put fun _ => rfl

theorem enter (h : Lined u line) (ht : t ∉ line) (hnil : holds = true → line = [])
    (hw : seat.waits = !holds) : Lined (u.put t shared seat holds) (line ++ [t]) where
  nodup := List.nodup_append.mpr ⟨h.nodup, by simp, by
    rintro s hs r hr rfl
    exact ht (List.mem_singleton.mp hr ▸ hs)⟩
  engaged_iff := by
    intro s
    rw [engaged_put, List.mem_append, List.mem_singleton]
    split
    · next he => cases holds <;> simp_all
    · next hst => simp [h.engaged_iff, hst]
  holder_first := by
    intro s hs
    rw [holds_put] at hs
    split at hs
    · next he => exact ⟨[], by rw [hnil hs, he, List.nil_append]⟩
    · obtain ⟨rest, he⟩ := h.holder_first s hs
      exact ⟨rest ++ [t], by rw [he, List.cons_append]⟩
  waits_holds := h.waits_holds_put (by simp [hw])

theorem grant (h : Lined u (t :: rest)) : Lined (u.put t shared (.idle own) true) (t :: rest) where
  nodup := h.nodup
  engaged_iff := by
    intro s
    rw [engaged_put]
    split
    · next he => simp [he]
    · exact h.engaged_iff s
  holder_first := by
    intro s hs
    rw [holds_put] at hs
    split at hs
    · next he => exact ⟨rest, by rw [he]⟩
    · exact h.holder_first s hs
  waits_holds := h.waits_holds_put fun hw => by cases hw

theorem leave (h : Lined u (t :: rest)) :
    Lined (u.put t shared (.idle own) false) rest where
  nodup := (List.nodup_cons.mp h.nodup).2
  engaged_iff := by
    intro s
    rw [engaged_put]
    split
    · next he => simp [he, Seat.waits, (List.nodup_cons.mp h.nodup).1]
    · next hst => simp [h.engaged_iff, hst]
  holder_first := by
    intro s hs
    rw [holds_put] at hs
    split at hs
    · cases hs
    · next hst =>
      obtain ⟨rest', he⟩ := h.holder_first s hs
      exact absurd (List.cons.inj he).1.symm hst
  waits_holds := h.waits_holds_put fun _ => rfl

end Put

end Lined

/-- The lock is granted to the threads in the order in which they come to be engaged; those to whom
it is not granted yet are those of the queue. -/
theorem grants_run {P : Usage Shared Own Wait n → Fin n → Action Entry Command → Prop}
    (Inv : Usage Shared Own Wait n → List (Fin n) → Prop)
    (hlined : ∀ u line, Inv u line → Lined u line)
    (hstep : ∀ u line t action, Inv u line → P u t action →
      ∃ line', Inv (u.step lock t action).1 line' ∧ Moves u t line line')
    (h : Inv u line) {schedule : Schedule n} (hp : u.Along lock P schedule) :
    ∃ line', Inv (u.run lock schedule).1 line' ∧
      queue u line ++ u.entries lock schedule =
        u.grants lock schedule ++ queue (u.run lock schedule).1 line' := by
  induction schedule generalizing u line with
  | nil => exact ⟨line, h, List.append_nil _⟩
  | cons step rest ih =>
    obtain ⟨t, action⟩ := step
    obtain ⟨line', h', hm⟩ := hstep u line t action h hp.1
    obtain ⟨last, hlast, he⟩ := ih h' hp.2
    refine ⟨last, hlast, ?_⟩
    have hfirst := (hlined u line h).queue_step (hlined _ line' h') hm
    rw [entries, grants_cons, ← List.append_assoc, hfirst, List.append_assoc, he,
      ← List.append_assoc]
    rfl

end SpinLocks
