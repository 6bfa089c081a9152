import SpinLocks.Proofs.Usage

namespace SpinLocks

variable {Shared Own Wait : Type} {n : Nat}

structure Taking (Own : Type) (n : Nat) where
  thread : Fin n
  own : Own
  /-- Whether the thread came to be engaged since the schedule began. -/
  recent : Bool
  attempt : Bool

namespace Usage

variable (lock : Lock Shared Own Wait)

instance Engaged.decidable (u : Usage Shared Own Wait n) (t : Fin n) : Decidable (u.Engaged t) :=
  inferInstanceAs (Decidable (_ ∨ _))

def enters (u : Usage Shared Own Wait n) (t : Fin n) (action : Action Entry Command) : Bool :=
  !u.Engaged t && (u.step lock t action).1.Engaged t

def takes (u : Usage Shared Own Wait n) (t : Fin n) (action : Action Entry Command) : Bool :=
  !u.holds t && (u.step lock t action).1.holds t

def entries (u : Usage Shared Own Wait n) : Schedule n → List (Fin n)
  | [] => []
  | (t, action) :: rest =>
    (if u.enters lock t action then [t] else []) ++ (u.step lock t action).1.entries rest

/-- What the step adds to the takings, where `recent` tells who came to be engaged so far. -/
def taking? (u : Usage Shared Own Wait n) (recent : Fin n → Bool) (t : Fin n)
    (action : Action Entry Command) : Option (Taking Own n) :=
  if u.takes lock t action then
    ((u.step lock t action).1.own? t).map fun own =>
      ⟨t, own, recent t, action = .start .tryAcquire⟩
  else none

def remember (u : Usage Shared Own Wait n) (recent : Fin n → Bool) (t : Fin n)
    (action : Action Entry Command) : Fin n → Bool :=
  Function.update recent t (recent t || u.enters lock t action)

def takings (u : Usage Shared Own Wait n) (recent : Fin n → Bool) :
    Schedule n → List (Taking Own n)
  | [] => []
  | (t, action) :: rest =>
    let recent := u.remember lock recent t action
    (u.taking? lock recent t action).toList ++
      (u.step lock t action).1.takings recent rest

def grants (u : Usage Shared Own Wait n) (schedule : Schedule n) : List (Fin n) :=
  (u.takings lock (fun _ => false) schedule).map Taking.thread

variable {lock} {u : Usage Shared Own Wait n} {t s : Fin n} {action : Action Entry Command}

theorem not_turnsOver_join (entry : Entry) :
    (u.step lock t (.join entry)).2.turnsOver = false := by
  simp only [step, System.step, System.join]
  split
  · split <;> rfl
  · rfl
  · rfl

theorem not_turnsOver_leave : (u.step lock t .leave).2.turnsOver = false := by
  simp only [step, System.step, System.leave]
  split
  · rfl
  · split <;> rfl
  · rfl

theorem not_waits_join {entry : Entry} (hs : u.seat t = .vacant) :
    (u.step lock t (.join entry)).1.waits t = false := by
  match hj : lock.join entry u.shared with
  | (shared, .ok own) => simp [step_join_ok lock hs hj, waits_put, Seat.waits]
  | (shared, .error why) => simp [step_join_error lock hs hj, waits_put, Seat.waits]

theorem not_waits_leave {own : Own} (hs : u.seat t = .idle own) :
    (u.step lock t .leave).1.waits t = false := by
  have hseat : (u.system.step lock.protocol t .leave).1.seat t = .vacant := by
    have hs' : u.system.seat t = .idle own := hs
    simp only [System.step, System.leave, hs']
    split <;> simp [System.seat_place]
  rw [waits, show (u.step lock t .leave).1.seat t = .vacant from hseat]
  rfl

theorem idle_of_settle {turn : LockTurn Shared Own Wait} (h : turn.answer.turnsOver = true) :
    ∃ own, (u.settle t turn).seat t = .idle own := by
  obtain ⟨shared, own, ending⟩ := turn
  rw [settle, seat_put_self]
  cases ending with
  | done reply => exact ⟨own, rfl⟩
  | waiting point => cases h
  | failed why => exact ⟨own, rfl⟩

theorem idle_of_turnsOver (h : (u.step lock t action).2.turnsOver = true) :
    ∃ own, (u.step lock t action).1.seat t = .idle own := by
  obtain ⟨cause, -, he⟩ | ⟨entry, rfl, -⟩ | ⟨own, rfl, -⟩ | ⟨own, command, rfl, hs⟩ |
    ⟨own, point, rfl, hs⟩ := step_cases lock u t action
  · rw [he] at h
    cases h
  · cases (not_turnsOver_join entry).symm.trans h
  · cases not_turnsOver_leave.symm.trans h
  · rw [step_start hs] at h ⊢
    exact idle_of_settle h
  · rw [step_resume hs] at h ⊢
    exact idle_of_settle h

theorem holds_step : (u.step lock t action).1.holds t =
    (u.holds t ^^ (u.step lock t action).2.turnsOver) :=
  Function.update_self ..

theorem holds_step_of_ne (h : s ≠ t) : (u.step lock t action).1.holds s = u.holds s :=
  Function.update_of_ne h ..

/-- Whether a thread holds the lock changes only where it then waits for nothing. -/
theorem not_waits_of_holds_ne (h : (u.step lock t action).1.holds t ≠ u.holds t) :
    (u.step lock t action).1.waits t = false := by
  rw [holds_step] at h
  have hturns : (u.step lock t action).2.turnsOver = true := by
    cases hd : (u.step lock t action).2.turnsOver with
    | true => rfl
    | false => simp [hd] at h
  obtain ⟨own, hs⟩ := idle_of_turnsOver hturns
  rw [waits, hs]
  rfl

theorem not_engaged_of_enters (h : u.enters lock t action = true) : ¬ u.Engaged t := by
  intro he
  simp [enters, he] at h

theorem not_holds_of_enters (h : u.enters lock t action = true) : u.holds t = false := by
  by_contra hh
  exact not_engaged_of_enters h (.inl (by simpa using hh))

theorem exists_start_of_enters (h : u.enters lock t action = true) :
    ∃ own command, u.seat t = .idle own ∧ action = .start command := by
  have hnot := not_engaged_of_enters h
  have hf := not_holds_of_enters h
  obtain ⟨cause, -, he⟩ | ⟨entry, rfl, hs⟩ | ⟨own, rfl, hs⟩ | ⟨own, command, rfl, hs⟩ |
    ⟨own, point, rfl, hs⟩ := step_cases lock u t action
  · simp [enters, he] at h
  · have hholds : (u.step lock t (.join entry)).1.holds t = false := by
      rw [holds_step, hf, not_turnsOver_join, Bool.xor_false]
    have hw : (u.step lock t (.join entry)).1.waits t = false := not_waits_join hs
    simp [enters, Engaged, hholds, hw] at h
  · have hholds : (u.step lock t .leave).1.holds t = false := by
      rw [holds_step, hf, not_turnsOver_leave, Bool.xor_false]
    have hw : (u.step lock t .leave).1.waits t = false := not_waits_leave hs
    simp [enters, Engaged, hholds, hw] at h
  · exact ⟨own, command, hs, rfl⟩
  · exact absurd (.inr (waits_iff.mpr ⟨own, point, hs⟩)) hnot

theorem entries_append (earlier later : Schedule n) :
    u.entries lock (earlier ++ later) =
      u.entries lock earlier ++ (u.run lock earlier).1.entries lock later := by
  induction earlier generalizing u with
  | nil => rfl
  | cons step rest ih =>
    simp only [List.cons_append, entries, run, ih, List.append_assoc]

theorem map_thread_taking? (recent : Fin n → Bool) :
    (u.taking? lock recent t action).toList.map Taking.thread =
      if u.takes lock t action then [t] else [] := by
  rw [taking?]
  split
  · next h =>
    obtain ⟨hf, hh⟩ : u.holds t = false ∧ (u.step lock t action).1.holds t = true := by
      simpa [takes] using h
    have hturns : (u.step lock t action).2.turnsOver = true := by
      rw [holds_step, hf] at hh
      simpa using hh
    obtain ⟨own, hs⟩ := idle_of_turnsOver hturns
    rw [own?_of_idle hs]
    rfl
  · rfl

theorem map_thread_takings (recent recent' : Fin n → Bool) (schedule : Schedule n) :
    (u.takings lock recent schedule).map Taking.thread =
      (u.takings lock recent' schedule).map Taking.thread := by
  induction schedule generalizing u recent recent' with
  | nil => rfl
  | cons step rest ih =>
    obtain ⟨t, action⟩ := step
    simp only [takings, List.map_append, map_thread_taking?]
    exact congrArg _ (ih ..)

theorem grants_cons (rest : Schedule n) :
    u.grants lock ((t, action) :: rest) =
      (if u.takes lock t action then [t] else []) ++ (u.step lock t action).1.grants lock rest := by
  simp only [grants, takings, List.map_append, map_thread_taking?]
  exact congrArg _ (map_thread_takings ..)

end Usage

end SpinLocks
