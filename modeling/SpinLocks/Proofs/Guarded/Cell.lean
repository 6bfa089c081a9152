import SpinLocks.Guarded

namespace SpinLocks.Guarded

variable {Data Result : Type} {n : Nat}

inductive Use (Data Result : Type) where
  | change (body : Section Data Result)
  | look (body : Data → Except Fault Result)

namespace Use

def after : Use Data Result → Data → Data
  | change body, data => (body data).1
  | look _, data => data

def outcome : Use Data Result → Data → Except Fault Result
  | change body, data => (body data).2
  | look body, data => body data

end Use

inductive Event (Data Result : Type) (n : Nat) where
  | granted (t : Fin n)
  | used (t : Fin n) (use : Use Data Result)
  | released (t : Fin n)

def Event.after (data : Data) : Event Data Result n → Data
  | used _ use => use.after data
  | granted _ | released _ => data

/-- What a thread does with the data from the grant to the release. -/
structure Tenure (Data Result : Type) (n : Nat) where
  thread : Fin n
  uses : List (Use Data Result)

namespace Tenure

def opened (tenure : Tenure Data Result n) : List (Event Data Result n) :=
  .granted tenure.thread :: tenure.uses.map (.used tenure.thread)

def closed (tenure : Tenure Data Result n) : List (Event Data Result n) :=
  tenure.opened ++ [.released tenure.thread]

end Tenure

structure Cell (Data : Type) (n : Nat) where
  data : Data
  owner : Option (Fin n)

/-- What may happen at a time: nothing, or a thread is granted the data that nobody owns, and keeps
them or lets them go at once, or their owner uses them or lets them go. -/
inductive Cell.Move (c : Cell Data n) : List (Event Data Result n) → Cell Data n → Prop
  | rest : Move c [] c
  | take (t : Fin n) (h : c.owner = none) : Move c [.granted t] { c with owner := some t }
  | visit (t : Fin n) (use : Use Data Result) (h : c.owner = none) :
      Move c [.granted t, .used t use, .released t] { c with data := use.after c.data }
  | use (t : Fin n) (use : Use Data Result) (h : c.owner = some t) :
      Move c [.used t use] { c with data := use.after c.data }
  | give (t : Fin n) (h : c.owner = some t) : Move c [.released t] { c with owner := none }

/-- The events are those of tenures that are over, one after the other, and of the tenure of the
owner. The data are what the uses made of the first value, in this order. -/
structure Kept (value : Data) (events : List (Event Data Result n)) (c : Cell Data n) : Prop where
  tenures : ∃ (past : List (Tenure Data Result n)) (current : Option (Tenure Data Result n)),
    events = past.flatMap Tenure.closed ++ current.elim [] Tenure.opened ∧
    c.owner = current.map Tenure.thread
  data_eq : c.data = events.foldl Event.after value

variable {value : Data} {events new : List (Event Data Result n)} {c c' : Cell Data n}

theorem Kept.nil (value : Data) :
    Kept value ([] : List (Event Data Result n)) ⟨value, none⟩ :=
  ⟨⟨[], none, rfl, rfl⟩, rfl⟩

theorem Cell.Move.data_eq (h : c.Move new c') : c'.data = new.foldl Event.after c.data := by
  cases h <;> rfl

theorem Kept.move (h : Kept value events c) (hm : c.Move new c') :
    Kept value (events ++ new) c' := by
  have hdata : c'.data = (events ++ new).foldl Event.after value := by
    rw [List.foldl_append, ← h.data_eq, hm.data_eq]
  obtain ⟨⟨past, current, rfl, howner⟩, -⟩ := h
  refine ⟨?_, hdata⟩
  cases hm with
  | rest => exact ⟨past, current, List.append_nil _, howner⟩
  | take t hfree =>
    obtain rfl : current = none := Option.map_eq_none_iff.mp (howner.symm.trans hfree)
    exact ⟨past, some ⟨t, []⟩, by simp [Tenure.opened], rfl⟩
  | visit t use hfree =>
    obtain rfl : current = none := Option.map_eq_none_iff.mp (howner.symm.trans hfree)
    exact ⟨past ++ [⟨t, [use]⟩], none, by simp [Tenure.closed, Tenure.opened], hfree⟩
  | use t use howned =>
    obtain ⟨tenure, rfl, rfl⟩ := Option.map_eq_some_iff.mp (howner.symm.trans howned)
    exact ⟨past, some ⟨tenure.thread, tenure.uses ++ [use]⟩, by simp [Tenure.opened], howned⟩
  | give t howned =>
    obtain ⟨tenure, rfl, rfl⟩ := Option.map_eq_some_iff.mp (howner.symm.trans howned)
    exact ⟨past ++ [tenure], none, by simp [Tenure.closed], rfl⟩

end SpinLocks.Guarded
