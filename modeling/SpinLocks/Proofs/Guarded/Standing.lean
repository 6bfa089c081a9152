import SpinLocks.Proofs.Guarded.Deeds
import SpinLocks.Proofs.Guarded.Excludes

namespace SpinLocks.Guarded

open Usage
open ReadWrite (Access accessOf)

variable {LockShared Local Point Data Result : Type} {n : Nat}

def modeOf : Seat (Own Local) (Wait Point Data Result) → Access
  | .waiting _ (.acquiring _ goal) => goal.access
  | _ => .writing

def modes (s : Threads LockShared Local Point Data Result n) (t : Fin n) : Access :=
  modeOf (s.seat t)

def Acquires (seat : Seat (Own Local) (Wait Point Data Result)) : Prop :=
  ∀ own wait, seat = .waiting own wait → ∃ point goal, wait = .acquiring point goal

/-- The threads use the lock as its invariant knows it, nobody waits to give it back, and whoever
keeps a guard owns the data. -/
structure Standing (Inv : Nat → (Fin n → Access) → Usage LockShared Local Point n → Prop)
    (asked : Nat) (s : Threads LockShared Local Point Data Result n)
    (u : Usage LockShared Local Point n) (c : Cell Data n) : Prop extends Mirrors s u where
  inv : Inv asked (modes s) u
  acquires : ∀ t, Acquires (s.seat t)
  data_eq : s.shared.data = c.data
  owner_iff : ∀ t, guards (s.seat t) = true ↔ c.owner = some t

/-- A turn comes to what its deeds come to for the lock and for the data. Whoever uses the data is
told the outcome, and owns them or takes them when nobody does. -/
structure Comes (lock : Lock LockShared Local Point)
    (Inv : Nat → (Fin n → Access) → Usage LockShared Local Point n → Prop) (asked : Nat)
    (u : Usage LockShared Local Point n) (c : Cell Data n) (t : Fin n)
    (done : List (Deed Data Result))
    (next : Threads LockShared Local Point Data Result n × Answer (Reply Result)) : Prop where
  stands : ∃ c', Standing Inv (asked + (u.entries lock (calls (done.map (t, ·)))).length) next.1
    (u.run lock (calls (done.map (t, ·)))).1 c' ∧ c.Move (events lock u (done.map (t, ·))) c'
  tells : ∀ use, Deed.use use ∈ done →
    next.2 = told (use.outcome c.data) ∧ ∀ r, c.owner = some r → r = t

variable {lock : Lock LockShared Local Point}
  {Inv : Nat → (Fin n → Access) → Usage LockShared Local Point n → Prop} {asked : Nat}
  {s : Threads LockShared Local Point Data Result n} {u : Usage LockShared Local Point n}
  {c c' : Cell Data n} {t : Fin n} {goal : Goal Data Result}
  {seat : Seat (Own Local) (Wait Point Data Result)}

def put (s : Threads LockShared Local Point Data Result n) (t : Fin n)
    (shared : Shared LockShared Data) (seat : Seat (Own Local) (Wait Point Data Result)) :
    Threads LockShared Local Point Data Result n :=
  { s with shared }.place t seat

theorem seat_put (shared : Shared LockShared Data) (r : Fin n) :
    (put s t shared seat).seat r = if r = t then seat else s.seat r := by
  simp only [put, System.seat_place, eq_comm (a := r)]
  rfl

theorem put_of_seat (hs : s.seat t = seat) (shared : Shared LockShared Data) :
    put s t shared seat = { s with shared } := by
  simp [put, System.place, ← hs, System.seat]

theorem settle_eq (turn : GuardedTurn LockShared Local Point Data Result) :
    s.settle t turn = (put s t turn.shared turn.seat, turn.answer) :=
  System.settle_eq s t turn

section Finish

variable {shared : Shared LockShared Data} {own : Own Local}

/-- The outcome only decides what the thread is told. -/
theorem settle_finish (outcome : Except Fault (Reply Result)) :
    (s.settle t (finish shared own outcome)).1 = put s t shared (.idle own) := by
  cases outcome <;> rfl

theorem answer_finish (outcome : Except Fault Result) :
    (s.settle t (finish shared own (outcome.map .result))).2 = told outcome := by
  cases outcome <;> rfl

end Finish

theorem modes_put (shared : Shared LockShared Data) :
    modes (put s t shared seat) = Function.update (modes s) t (modeOf seat) := by
  funext r
  rw [modes, seat_put]
  by_cases hrt : r = t
  · rw [if_pos hrt, hrt, Function.update_self]
  · rw [if_neg hrt, Function.update_of_ne hrt]
    rfl

theorem update_modes (hmode : modeOf seat = modeOf (s.seat t)) :
    Function.update (modes s) t (modeOf seat) = modes s := by
  rw [hmode]
  exact Function.update_eq_self ..

theorem Standing.put (h : Standing Inv asked s u c) (shared : Shared LockShared Data)
    (seat : Seat (Own Local) (Wait Point Data Result)) (c' : Cell Data n) {asked' : Nat}
    (hinv : Inv asked' (Function.update (modes s) t (modeOf seat))
      (u.put t shared.lock (lockSeat seat) (guards seat)))
    (hseat : Acquires seat) (hdata : shared.data = c'.data)
    (hself : guards seat = true ↔ c'.owner = some t)
    (hothers : ∀ r ≠ t, c.owner = some r ↔ c'.owner = some r) :
    Standing Inv asked' (Guarded.put s t shared seat)
      (u.put t shared.lock (lockSeat seat) (guards seat)) c' where
  shared_eq := rfl
  seat_eq := by
    intro r
    rw [Usage.seat_put, seat_put]
    split
    · rfl
    · exact h.seat_eq r
  holds_eq := by
    intro r
    rw [holds_put, seat_put]
    split
    · rfl
    · exact h.holds_eq r
  inv := modes_put shared ▸ hinv
  acquires := by
    intro r
    rw [seat_put]
    split
    · exact hseat
    · exact h.acquires r
  data_eq := hdata
  owner_iff := by
    intro r
    rw [seat_put]
    split
    · next he => exact he ▸ hself
    · next hne => exact (h.owner_iff r).trans (hothers r hne)

theorem acquires_vacant : Acquires (.vacant : Seat (Own Local) (Wait Point Data Result)) := by
  rintro _ _ ⟨⟩

theorem acquires_idle (own : Own Local) :
    Acquires (.idle own : Seat (Own Local) (Wait Point Data Result)) := by
  rintro _ _ ⟨⟩

theorem acquires_waiting (own : Own Local) (point : Point) (goal : Goal Data Result) :
    Acquires (.waiting own (.acquiring point goal)) := by
  rintro _ _ ⟨⟩
  exact ⟨point, goal, rfl⟩

theorem Standing.write (h : Standing Inv asked s u c) (data : Data) :
    Standing Inv asked { s with shared := { s.shared with data } } u { c with data } where
  shared_eq := h.shared_eq
  seat_eq := h.seat_eq
  holds_eq := h.holds_eq
  inv := h.inv
  acquires := h.acquires
  data_eq := rfl
  owner_iff := h.owner_iff

theorem Standing.owner_none (hx : Excludes lock Inv) (h : Standing Inv asked s u c)
    (hf : u.holds t = false) {asked' : Nat} {access : Access} {lockShared : LockShared}
    {lockSeat : Seat Local Point}
    (hinv : Inv asked' (Function.update (modes s) t access) (u.put t lockShared lockSeat true)) :
    c.owner = none := by
  by_contra hsome
  obtain ⟨r, hr⟩ := Option.ne_none_iff_exists'.mp hsome
  have hg := (h.owner_iff r).mpr hr
  have hh : u.holds r = true := (h.holds_eq r).trans hg
  have hne : r ≠ t := by
    rintro rfl
    simp [hf] at hh
  have hw : modes s r = .writing := by
    unfold modes
    cases hs : s.seat r with
    | waiting own wait => simp [hs, guards] at hg
    | vacant | idle => rfl
  refine hne (hx.alone hinv r t ?_ (holds_put_self ..) ?_)
  · rwa [holds_put, if_neg hne]
  · rwa [Function.update_of_ne hne]

section Deeds

variable {next : Threads LockShared Local Point Data Result n × Answer (Reply Result)}
  {action : Action Entry SpinLocks.Command}

theorem Comes.rest (h : Standing Inv asked s u c) (answer : Answer (Reply Result)) :
    Comes lock Inv asked u c t [] (s, answer) :=
  ⟨⟨c, h, .rest⟩, nofun⟩

theorem Comes.call (hover : (u.step lock t action).2.turnsOver = false)
    (h : Standing Inv (asked + (if u.enters lock t action then [t] else []).length) next.1
      (u.step lock t action).1 c) : Comes lock Inv asked u c t [.call action] next where
  stands := ⟨c, by simpa [calls, entries, run] using h, by
    simp only [List.map, events, hover]
    exact .rest⟩
  tells := by simp

theorem Comes.grant (hf : u.holds t = false) (hover : (u.step lock t action).2.turnsOver = true)
    (hfree : c.owner = none)
    (h : Standing Inv (asked + (if u.enters lock t action then [t] else []).length) next.1
      (u.step lock t action).1 { c with owner := some t }) :
    Comes lock Inv asked u c t [.call action] next where
  stands := ⟨_, by simpa [calls, entries, run] using h, by
    simp only [List.map, events, hover, hf]
    exact .take t hfree⟩
  tells := by simp

/-- The call takes the lock, and the thread uses the data and gives the lock back at once. -/
theorem Comes.visit {use : Use Data Result} {command : SpinLocks.Command}
    (hf : u.holds t = false) (hover : (u.step lock t action).2.turnsOver = true)
    (hover' : ((u.step lock t action).1.step lock t (.start command)).2.turnsOver = true)
    (hfree : c.owner = none) (htold : next.2 = told (use.outcome c.data))
    (h : Standing Inv (asked + (if u.enters lock t action then [t] else []).length) next.1
      ((u.step lock t action).1.step lock t (.start command)).1
      { c with data := use.after c.data }) :
    Comes lock Inv asked u c t [.call action, .use use, .call (.start command)] next := by
  have hh : (u.step lock t action).1.holds t = true := by rw [holds_step, hf, hover]; rfl
  have henters : (u.step lock t action).1.enters lock t (.start command) = false :=
    Lined.enters_of_holds hh
  constructor
  · refine ⟨{ c with data := use.after c.data }, ?_, ?_⟩
    · simpa [calls, entries, run, henters] using h
    · simp only [List.map, events, hover, hf, hover', hh]
      exact .visit t use hfree
  · intro use' hm
    obtain rfl : use' = use := by simpa using hm
    exact ⟨htold, by simp [hfree]⟩

theorem Comes.use {use : Use Data Result} (howned : c.owner = some t)
    (htold : next.2 = told (use.outcome c.data))
    (h : Standing Inv asked next.1 u { c with data := use.after c.data }) :
    Comes lock Inv asked u c t [.use use] next where
  stands := ⟨_, h, .use t use howned⟩
  tells := by
    intro use' hm
    obtain rfl : use' = use := by simpa using hm
    exact ⟨htold, fun r hr => Option.some.inj (hr.symm.trans howned)⟩

theorem Comes.give (hh : u.holds t = true) (hover : (u.step lock t action).2.turnsOver = true)
    (howned : c.owner = some t)
    (h : Standing Inv asked next.1 (u.step lock t action).1 { c with owner := none }) :
    Comes lock Inv asked u c t [.call action] next where
  stands := ⟨_, by simpa [calls, entries, run, Lined.enters_of_holds hh] using h, by
    simp only [List.map, events, hover, hh]
    exact .give t howned⟩
  tells := by simp

end Deeds

end SpinLocks.Guarded
