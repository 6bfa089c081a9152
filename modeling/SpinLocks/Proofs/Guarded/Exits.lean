import SpinLocks.Proofs.Guarded.Tenures

namespace SpinLocks.Guarded

open Usage
open ReadWrite (Access)

variable {LockShared Local Point Data Result : Type} {n : Nat} {lock : Lock LockShared Local Point}
  {s : Threads LockShared Local Point Data Result n} {u : Usage LockShared Local Point n}
  {t : Fin n} {goal : Goal Data Result} {action : Action Entry (Command Data Result)}

def lockView (s : Threads LockShared Local Point Data Result n) : System LockShared Local Point n :=
  ⟨s.shared.lock, s.seats.map lockSeat⟩

section View

theorem seat_lockView (t : Fin n) : (lockView s).seat t = lockSeat (s.seat t) := by
  simp [lockView, System.seat]

theorem lockView_put (shared : Shared LockShared Data)
    (seat : Seat (Own Local) (Wait Point Data Result)) :
    lockView (put s t shared seat) =
      { lockView s with shared := shared.lock }.place t (lockSeat seat) := by
  simp [lockView, put, System.place]

theorem lockView_settle (turn : GuardedTurn LockShared Local Point Data Result) :
    lockView (s.settle t turn).1 =
      { lockView s with shared := turn.shared.lock }.place t (lockSeat turn.seat) := by
  rw [settle_eq]
  exact lockView_put turn.shared turn.seat

theorem lockView_released (data : Data) (outcome : Except Fault (Reply Result))
    (turn : LockTurn LockShared Local Point) :
    lockView (s.settle t (released data outcome turn)).1 = ((lockView s).settle t turn).1 := by
  rw [lockView_settle, System.settle_eq]
  obtain ⟨shared, own, ending⟩ := turn
  cases ending with
  | done reply => cases outcome <;> rfl
  | waiting point => rfl
  | failed why => rfl

theorem fst_start_place (v : System LockShared Local Point n) (shared : LockShared) (own : Local)
    (command : SpinLocks.Command) :
    (({ v with shared }.place t (.idle own)).step lock.protocol t (.start command)).1 =
      (v.settle t (lock.start command shared own)).1 := by
  have hs : ({ v with shared }.place t (.idle own)).seat t = .idle own := by
    rw [System.seat_place, if_pos rfl]
  simp only [System.step, System.start, hs, System.settle_eq]
  simp [System.place, Lock.protocol]

theorem lockView_acquired (shared : LockShared) (own : Local) (data : Data) :
    lockView (s.settle t (acquired lock goal shared own data)).1 =
      (({ lockView s with shared }.place t (.idle own)).run lock.protocol
        (calls ((goal.deeds data).map (t, ·)))).1 := by
  cases goal with
  | guard reply => exact lockView_settle _
  | exclusive body =>
    have hacquired : acquired lock (.exclusive body) shared own data =
        released (body data).1 ((body data).2.map .result) (lock.start .release shared own) := rfl
    rw [hacquired, lockView_released, ← fst_start_place]
    rfl
  | shared body =>
    cases hbody : body data with
    | error cause =>
      simp only [acquired, Goal.deeds, hbody]
      exact lockView_settle _
    | ok value =>
      simp only [acquired, Goal.deeds, hbody]
      rw [lockView_released, ← fst_start_place]
      rfl

theorem lockView_acquiring (busy : Except Fault (Reply Result)) (data : Data)
    (call : Action Entry SpinLocks.Command) (turn : LockTurn LockShared Local Point)
    (hcall : (lockView s).step lock.protocol t call = (lockView s).settle t turn) :
    lockView (s.settle t (acquiring lock goal busy data turn)).1 =
      ((lockView s).run lock.protocol (calls ((taking goal data call turn).map (t, ·)))).1 := by
  have hrun : ((lockView s).run lock.protocol (calls ((taking goal data call turn).map (t, ·)))).1 =
      (((lockView s).settle t turn).1.run lock.protocol
        (calls ((if turn.answer.turnsOver then goal.deeds data else []).map (t, ·)))).1 := by
    rw [← hcall]
    rfl
  rw [hrun]
  obtain ⟨shared, own, ending⟩ := turn
  cases ending with
  | waiting point => exact lockView_settle _
  | failed why => exact lockView_settle _
  | done reply =>
    cases hover : Answer.turnsOver (.done reply) with
    | true =>
      rw [acquiring_of_turnsOver busy hover, lockView_acquired,
        show Turn.answer ⟨shared, own, .done reply⟩ = .done reply from rfl, hover]
      rfl
    | false =>
      cases reply with
      | done => cases hover
      | took taken =>
        obtain rfl : taken = false := hover
        rw [lockView_settle]
        cases busy <;> rfl

section Turns

variable {own : Own Local}

theorem start_lockView (hs : s.seat t = .idle own) (command : SpinLocks.Command) :
    (lockView s).step lock.protocol t (.start command) =
      (lockView s).settle t (lock.start command s.shared.lock own.state) := by
  have hview : (lockView s).seat t = .idle own.state := by rw [seat_lockView, hs]; rfl
  simp only [System.step, System.start, hview]
  rfl

theorem resume_lockView {point : Point} (hs : lockSeat (s.seat t) = .waiting own.state point) :
    (lockView s).step lock.protocol t .resume =
      (lockView s).settle t (lock.resume point s.shared.lock own.state) := by
  have hview : (lockView s).seat t = .waiting own.state point := by rw [seat_lockView, hs]
  simp only [System.step, System.resume, hview]
  rfl

theorem lockView_idle (hs : s.seat t = .idle own)
    {turn : GuardedTurn LockShared Local Point Data Result}
    (hshared : turn.shared.lock = s.shared.lock)
    (hseat : lockSeat turn.seat = .idle own.state) :
    lockView (s.settle t turn).1 = lockView s := by
  rw [lockView_settle, hshared, hseat]
  have hview : (lockView s).seat t = .idle own.state := by rw [seat_lockView, hs]; rfl
  exact System.place_self hview

theorem lockView_start (hs : s.seat t = .idle own) (command : Command Data Result) :
    lockView (s.settle t (start lock command s.shared own)).1 =
      ((lockView s).run lock.protocol
        (calls ((startDeeds lock command s.shared own).map (t, ·)))).1 := by
  unfold start startDeeds
  cases own.guard with
  | true =>
    cases command with
    | access body =>
      refine lockView_idle hs ?_ ?_
      all_goals
        simp only [startGuarding, if_true]
        cases (body s.shared.data).2 <;> rfl
    | unlock =>
      simp only [startGuarding, if_true]
      rw [lockView_released, ← start_lockView hs]
      rfl
    | lock | tryLock | lockThen | tryLockThen | readThen => exact lockView_idle hs rfl rfl
  | false =>
    cases hrequest : command.request? with
    | none =>
      simp only [startFree_of_none hrequest]
      exact lockView_idle hs rfl rfl
    | some pair =>
      obtain ⟨request, goal⟩ := pair
      have hstart : ∃ busy, startFree lock command s.shared own = _ :=
        startFree_of_request lock own hrequest
      obtain ⟨busy, hturn⟩ := hstart
      simp only [hturn]
      exact lockView_acquiring busy _ _ _ (start_lockView hs request)

end Turns

theorem lockView_join (hs : s.seat t = .vacant) (entry : Entry) :
    lockView (s.step (protocol lock) t (.join entry)).1 =
      ((lockView s).step lock.protocol t (.join entry)).1 := by
  have hview : (lockView s).seat t = .vacant := by rw [seat_lockView, hs]; rfl
  rcases hjoin : lock.join entry (lockView s).shared with ⟨lockShared, why | state⟩
  · rw [step_join_error hs hjoin, lockView_put]
    simp only [System.step, System.join, hview, Lock.protocol, hjoin]
    exact System.place_self hview
  · rw [step_join_ok hs hjoin, lockView_put]
    simp only [System.step, System.join, hview, Lock.protocol, hjoin]
    rfl

theorem lockView_leave {own : Own Local} (hs : s.seat t = .idle own) :
    lockView (s.step (protocol lock) t .leave).1 =
      ((lockView s).step lock.protocol t .leave).1 := by
  have hview : (lockView s).seat t = .idle own.state := by rw [seat_lockView, hs]; rfl
  rw [fst_step_leave hs, lockView_put]
  rcases hleave : lock.leave (lockView s).shared own.state with ⟨lockShared, _ | cause⟩ <;>
    · rw [show lock.leave s.shared.lock own.state = _ from hleave]
      simp only [System.step, System.leave, hview, Lock.protocol, hleave]
      rfl

/-- In each turn the lock goes through the calls of the turn, and through nothing else. -/
theorem lockView_step (s : Threads LockShared Local Point Data Result n) (t : Fin n)
    (action : Action Entry (Command Data Result)) :
    lockView (s.step (protocol lock) t action).1 =
      ((lockView s).run lock.protocol (calls ((deeds lock s t action).map (t, ·)))).1 := by
  cases hs : s.seat t with
  | vacant =>
    cases action with
    | join entry =>
      rw [lockView_join hs]
      simp only [deeds, hs]
      rfl
    | leave | start | resume =>
      simp only [deeds, hs, System.step, System.leave, System.start, System.resume]
      rfl
  | idle own =>
    cases action with
    | leave =>
      rw [lockView_leave hs]
      simp only [deeds, hs]
      rfl
    | start command =>
      rw [step_start hs, lockView_start hs]
      simp only [deeds, hs]
    | join | resume =>
      simp only [deeds, hs, System.step, System.join, System.resume]
      rfl
  | waiting own wait =>
    cases action with
    | resume =>
      cases wait with
      | acquiring point goal =>
        have hpoint : lockSeat (s.seat t) = .waiting own.state point := by rw [hs]; rfl
        rw [step_resume hs, resume]
        simp only [deeds, hs]
        exact lockView_acquiring _ _ _ _ (resume_lockView hpoint)
      | releasing point outcome =>
        have hpoint : lockSeat (s.seat t) = .waiting own.state point := by rw [hs]; rfl
        rw [step_resume hs, resume, lockView_released, ← resume_lockView hpoint]
        simp only [deeds, hs]
        rfl
    | join | leave | start =>
      simp only [deeds, hs, System.step, System.join, System.leave, System.start]
      rfl

end View

section Runs

theorem deedsAlong_append (s : Threads LockShared Local Point Data Result n)
    (earlier later : Plan Data Result n) :
    deedsAlong lock s (earlier ++ later) =
      deedsAlong lock s earlier ++ deedsAlong lock (s.run (protocol lock) earlier).1 later := by
  induction earlier generalizing s with
  | nil => rfl
  | cons step rest ih =>
    simp only [List.cons_append, deedsAlong, ih, List.append_assoc]
    rfl

theorem along_append {P : Threads LockShared Local Point Data Result n → Fin n →
      Action Entry (Command Data Result) → Prop}
    (s : Threads LockShared Local Point Data Result n) (earlier later : Plan Data Result n) :
    Along lock P s (earlier ++ later) ↔
      Along lock P s earlier ∧ Along lock P (s.run (protocol lock) earlier).1 later := by
  induction earlier generalizing s with
  | nil => exact (and_iff_right trivial).symm
  | cons step rest ih =>
    simp only [List.cons_append, Along, ih, and_assoc]
    rfl

theorem lockView_run (s : Threads LockShared Local Point Data Result n)
    (plan : Plan Data Result n) :
    lockView (s.run (protocol lock) plan).1 =
      ((lockView s).run lock.protocol (calls (deedsAlong lock s plan))).1 := by
  induction plan generalizing s with
  | nil => rfl
  | cons step rest ih =>
    obtain ⟨t, action⟩ := step
    rw [deedsAlong, calls_append, System.fst_run_append, ← lockView_step]
    exact ih _

theorem Mirrors.system_eq (h : Mirrors s u) : u.system = lockView s := by
  obtain ⟨⟨shared, seats⟩, holds⟩ := u
  have hshared : shared = s.shared.lock := h.shared_eq
  have hseats : seats = s.seats.map lockSeat := by
    ext i hi
    have he := h.seat_eq ⟨i, hi⟩
    simpa [Usage.seat, System.seat] using he
  rw [hshared, hseats]
  rfl

variable (lock) in
theorem Mirrors.system_calls (h : Mirrors s u) (t : Fin n)
    (action : Action Entry (Command Data Result)) :
    (u.run lock (calls ((deeds lock s t action).map (t, ·)))).1.system =
      lockView (s.step (protocol lock) t action).1 := by
  rw [lockView_step, ← h.system_eq]
  exact congrArg Prod.fst (run_eq ..)

end Runs

def Use.exit? (data : Data) : Use Data Result → Option SpinLocks.Command
  | change _ => some .release
  | look body => if (body data).isOk then some .releaseRead else none

variable (lock) in
/-- An operation takes the lock in this turn and runs the code, for a thread that keeps no guard. -/
structure Visits (s : Threads LockShared Local Point Data Result n) (t : Fin n)
    (action : Action Entry (Command Data Result)) (use : Use Data Result) : Prop where
  mem_deeds : Deed.use use ∈ deeds lock s t action
  not_guards : guards (s.seat t) = false

section Visits

variable {use : Use Data Result}

theorem Goal.cases_of_use {data : Data} (h : Deed.use use ∈ goal.deeds data) :
    (∃ body, goal = .exclusive body ∧ use = .change body) ∨
      ∃ body, goal = .shared body ∧ use = .look body := by
  cases goal with
  | guard reply => cases h
  | exclusive body => exact .inl ⟨body, rfl, by simpa [Goal.deeds] using h⟩
  | shared body =>
    refine .inr ⟨body, rfl, ?_⟩
    cases hok : (body data).isOk <;> simpa [Goal.deeds, hok] using h

theorem Goal.deeds_eq {data : Data} (h : Deed.use use ∈ goal.deeds data) :
    goal.deeds data =
      .use use :: (use.exit? data).toList.map fun command => .call (.start command) := by
  obtain ⟨body, rfl, rfl⟩ | ⟨body, rfl, rfl⟩ := Goal.cases_of_use h
  · rfl
  · cases hok : (body data).isOk <;> simp [Goal.deeds, Use.exit?, hok]

theorem seat_released {data : Data} {outcome : Except Fault (Reply Result)}
    {turn : LockTurn LockShared Local Point} (h : Acquires (released data outcome turn).seat) :
    ∃ own, (released data outcome turn).seat = .idle ⟨own, false⟩ := by
  obtain ⟨shared, own, ending⟩ := turn
  cases ending with
  | done reply => cases outcome <;> exact ⟨own, rfl⟩
  | failed why => exact ⟨own, rfl⟩
  | waiting point =>
    obtain ⟨_, _, hwait⟩ := h _ _ rfl
    cases hwait

theorem seat_acquired {data : Data} {shared : LockShared} {own : Local}
    (hm : Deed.use use ∈ goal.deeds data) (h : Acquires (acquired lock goal shared own data).seat) :
    ∃ own', (acquired lock goal shared own data).seat = .idle ⟨own', false⟩ := by
  obtain ⟨body, rfl, rfl⟩ | ⟨body, rfl, rfl⟩ := Goal.cases_of_use hm
  · exact seat_released h
  · cases hbody : body data with
    | error cause =>
      simp only [acquired, hbody]
      exact ⟨own, rfl⟩
    | ok value =>
      simp only [acquired, hbody] at h ⊢
      exact seat_released h

inductive Takes : Action Entry (Command Data Result) → Action Entry SpinLocks.Command → Prop
  | resume : Takes .resume .resume
  | start {command : Command Data Result} {request : SpinLocks.Command} {goal : Goal Data Result}
      (h : command.request? = some (request, goal)) : Takes (.start command) (.start request)

/-- What a turn is that begins with a call to the lock, and in which code is run. -/
structure Entered (lock : Lock LockShared Local Point)
    (s : Threads LockShared Local Point Data Result n) (t : Fin n)
    (action : Action Entry (Command Data Result)) (use : Use Data Result) (goal : Goal Data Result)
    (take : Action Entry SpinLocks.Command) (turn : LockTurn LockShared Local Point) : Prop where
  deeds_eq : deeds lock s t action = .call take :: goal.deeds s.shared.data
  mem_deeds : Deed.use use ∈ goal.deeds s.shared.data
  turnsOver : turn.answer.turnsOver = true
  step_take : (lockView s).step lock.protocol t take = (lockView s).settle t turn
  step_eq : s.step (protocol lock) t action =
    s.settle t (acquired lock goal turn.shared turn.own s.shared.data)
  takes : Takes action take

theorem Entered.of_taking {turn : LockTurn LockShared Local Point}
    {take : Action Entry SpinLocks.Command} {busy : Except Fault (Reply Result)}
    (hdeeds : deeds lock s t action = taking goal s.shared.data take turn)
    (hm : Deed.use use ∈ taking goal s.shared.data take turn)
    (hstep : (lockView s).step lock.protocol t take = (lockView s).settle t turn)
    (hturn : s.step (protocol lock) t action =
      s.settle t (acquiring lock goal busy s.shared.data turn))
    (htakes : Takes action take) : Entered lock s t action use goal take turn := by
  cases hover : turn.answer.turnsOver with
  | false => simp [taking, hover] at hm
  | true =>
    rw [taking_of_turnsOver turn hover] at hdeeds hm
    refine ⟨hdeeds, by simpa using hm, hover, hstep, ?_, htakes⟩
    obtain ⟨shared, own, ending⟩ := turn
    cases ending with
    | done reply => rw [hturn, acquiring_of_turnsOver busy hover]
    | waiting | failed => cases hover

theorem Visits.exists_entered (h : Visits lock s t action use) :
    ∃ goal take turn, Entered lock s t action use goal take turn := by
  obtain ⟨hm, hguards⟩ := h
  cases hs : s.seat t with
  | vacant => cases action <;> simp [deeds, hs] at hm
  | idle own =>
    cases action with
    | start command =>
      have hg : own.guard = false := by simpa [hs, guards] using hguards
      cases hrequest : command.request? with
      | none => simp [deeds, hs, startDeeds, hg, hrequest] at hm
      | some pair =>
        obtain ⟨request, goal⟩ := pair
        have hdeeds : deeds lock s t (.start command) = taking goal s.shared.data (.start request)
            (lock.start request s.shared.lock own.state) := by
          simp [deeds, hs, startDeeds, hg, hrequest]
        have hstart : ∃ busy, startFree lock command s.shared own = _ :=
          startFree_of_request lock own hrequest
        obtain ⟨busy, hturn⟩ := hstart
        have hstep : s.step (protocol lock) t (.start command) = s.settle t (acquiring lock goal busy
            s.shared.data (lock.start request s.shared.lock own.state)) := by
          rw [step_start hs, start, hg, ← hturn]
          rfl
        rw [hdeeds] at hm
        exact ⟨goal, _, _, .of_taking hdeeds hm (start_lockView hs request) hstep
          (.start hrequest)⟩
    | join | leave | resume => simp [deeds, hs] at hm
  | waiting own wait =>
    cases action with
    | resume =>
      cases wait with
      | acquiring point goal =>
        have hdeeds : deeds lock s t .resume = taking goal s.shared.data .resume
            (lock.resume point s.shared.lock own.state) := by
          simp [deeds, hs]
        have hpoint : lockSeat (s.seat t) = .waiting own.state point := by rw [hs]; rfl
        rw [hdeeds] at hm
        exact ⟨goal, _, _, .of_taking hdeeds hm (resume_lockView hpoint) (step_resume hs) .resume⟩
      | releasing point outcome => simp [deeds, hs] at hm
    | join | leave | start => simp [deeds, hs] at hm

theorem data_released (data : Data) (outcome : Except Fault (Reply Result))
    (turn : LockTurn LockShared Local Point) : (released data outcome turn).shared.data = data := by
  obtain ⟨shared, own, ending⟩ := turn
  cases ending with
  | done reply => cases outcome <;> rfl
  | waiting | failed => rfl

variable (lock) in
theorem data_acquired {data : Data} (h : Deed.use use ∈ goal.deeds data) (shared : LockShared)
    (own : Local) : (acquired lock goal shared own data).shared.data = use.after data := by
  obtain ⟨body, rfl, rfl⟩ | ⟨body, rfl, rfl⟩ := Goal.cases_of_use h
  · exact data_released ..
  · cases hbody : body data with
    | error cause =>
      simp only [acquired, hbody]
      rfl
    | ok value =>
      simp only [acquired, hbody]
      exact data_released ..

variable (lock) in
/-- Code that only reads, and raises a fault, is the only code that gives nothing back. -/
theorem acquired_of_exit?_none {data : Data} (h : Deed.use use ∈ goal.deeds data)
    (hnone : use.exit? data = none) (shared : LockShared) (own : Local) :
    ∃ cause, use.outcome data = .error cause ∧
      acquired lock goal shared own data = .fault ⟨shared, use.after data⟩ ⟨own, false⟩ cause := by
  obtain ⟨body, rfl, rfl⟩ | ⟨body, rfl, rfl⟩ := Goal.cases_of_use h
  · cases hnone
  · cases hbody : body data with
    | error cause =>
      refine ⟨cause, hbody, ?_⟩
      simp only [acquired, hbody]
      rfl
    | ok value => simp [Use.exit?, hbody, Except.isOk, Except.toBool] at hnone

/-- The lock is as the calls of the turn leave it, the data are as the code leaves them, and the
thread is told what the code comes to. It keeps no guard, and holds the lock where no call gave it
back. -/
structure Exit (lock : Lock LockShared Local Point)
    (s : Threads LockShared Local Point Data Result n) (t : Fin n)
    (action : Action Entry (Command Data Result)) (use : Use Data Result)
    (given : Usage LockShared Local Point n) (own : Local) : Prop where
  seat_eq : given.seat t = .idle own
  holds_eq : given.holds t = (use.exit? s.shared.data).isNone
  next_eq : (s.step (protocol lock) t action).1 =
    put s t ⟨given.shared, use.after s.shared.data⟩ (.idle ⟨own, false⟩)
  answer_eq : (s.step (protocol lock) t action).2 = told (use.outcome s.shared.data)

def visitCalls (t : Fin n) (take : Action Entry SpinLocks.Command)
    (exit? : Option SpinLocks.Command) : Schedule n :=
  (t, take) :: exit?.toList.map fun command => (t, .start command)

variable (lock) in
/-- In the turn the thread takes the lock, runs the code, and gives the lock back as the code has
ended. -/
def Exits (s : Threads LockShared Local Point Data Result n) (u : Usage LockShared Local Point n)
    (t : Fin n) (action : Action Entry (Command Data Result)) (use : Use Data Result) : Prop :=
  ∃ take own, Takes action take ∧ (u.step lock t take).1.holds t = true ∧
    Exit lock s t action use (u.run lock (visitCalls t take (use.exit? s.shared.data))).1 own

section Entered

variable {take : Action Entry SpinLocks.Command} {turn : LockTurn LockShared Local Point}
  (he : Entered lock s t action use goal take turn) (hu : Mirrors s u)
include he

theorem Entered.calls_deeds :
    calls ((deeds lock s t action).map (t, ·)) =
      visitCalls t take (use.exit? s.shared.data) := by
  rw [he.deeds_eq, Goal.deeds_eq he.mem_deeds]
  cases use.exit? s.shared.data <;> rfl

include hu

theorem Entered.answer_take : (u.step lock t take).2 = turn.answer := by
  have hsystem : (u.step lock t take).2 = (u.system.step lock.protocol t take).2 := rfl
  rw [hsystem, hu.system_eq, he.step_take, System.settle_eq]

theorem Entered.holds_take (hguards : guards (s.seat t) = false) :
    (u.step lock t take).1.holds t = true := by
  rw [holds_step, hu.holds_eq, hguards, he.answer_take hu, he.turnsOver]
  rfl

end Entered

/-- What is to be known of the turn, besides that the lock goes through its calls: that the thread
is through with it, who holds the lock then, and what the thread is told. -/
theorem Entered.exit {take : Action Entry SpinLocks.Command}
    {turn : LockTurn LockShared Local Point} (he : Entered lock s t action use goal take turn)
    (hu : Mirrors s u) {own : Local}
    (hidle : (acquired lock goal turn.shared turn.own s.shared.data).seat = .idle ⟨own, false⟩)
    (hholds : (u.run lock (visitCalls t take (use.exit? s.shared.data))).1.holds t =
      (use.exit? s.shared.data).isNone)
    (hanswer : (s.step (protocol lock) t action).2 = told (use.outcome s.shared.data)) :
    Exit lock s t action use
      (u.run lock (visitCalls t take (use.exit? s.shared.data))).1 own := by
  have hview := hu.system_calls lock t action
  rw [he.calls_deeds] at hview
  have hnext : (s.step (protocol lock) t action).1 =
      put s t (acquired lock goal turn.shared turn.own s.shared.data).shared
        (.idle ⟨own, false⟩) := by
    rw [he.step_eq, settle_eq, hidle]
  refine ⟨?_, hholds, ?_, hanswer⟩
  · rw [Usage.seat, hview, seat_lockView, hnext, seat_put, if_pos rfl]
    rfl
  · rw [Usage.shared, hview, hnext,
      ← data_acquired lock he.mem_deeds turn.shared turn.own]
    rfl

theorem Entered.exit_of_none {take : Action Entry SpinLocks.Command}
    {turn : LockTurn LockShared Local Point} (he : Entered lock s t action use goal take turn)
    (hu : Mirrors s u) (hguards : guards (s.seat t) = false)
    (hnone : use.exit? s.shared.data = none) :
    Exit lock s t action use
      (u.run lock (visitCalls t take (use.exit? s.shared.data))).1 turn.own := by
  obtain ⟨cause, houtcome, hturn⟩ :=
    acquired_of_exit?_none lock he.mem_deeds hnone turn.shared turn.own
  refine he.exit hu (by rw [hturn]; rfl) ?_ ?_
  · rw [hnone]
    exact he.holds_take hu hguards
  · rw [he.step_eq, hturn, houtcome]
    rfl

/-- Where the lock is given back, the threads stand as those do that only make the calls. -/
theorem Entered.exit_of_some {Inv : Nat → (Fin n → Access) → Usage LockShared Local Point n → Prop}
    {asked : Nat} {c : Cell Data n} {take : Action Entry SpinLocks.Command}
    {turn : LockTurn LockShared Local Point} (he : Entered lock s t action use goal take turn)
    (hu : Mirrors s u)
    (hlast : Standing Inv asked (s.step (protocol lock) t action).1
      (u.run lock (visitCalls t take (use.exit? s.shared.data))).1 c)
    (hsees : Sees lock s t action) {command : SpinLocks.Command}
    (hsome : use.exit? s.shared.data = some command) :
    ∃ own, Exit lock s t action use
      (u.run lock (visitCalls t take (use.exit? s.shared.data))).1 own := by
  have hseat : (s.step (protocol lock) t action).1.seat t =
      (acquired lock goal turn.shared turn.own s.shared.data).seat := by
    rw [he.step_eq, settle_eq, seat_put, if_pos rfl]
  obtain ⟨own, hidle⟩ := seat_acquired he.mem_deeds (hseat ▸ hlast.acquires t)
  refine ⟨own, he.exit hu hidle ?_ ?_⟩
  · rw [hlast.holds_eq, hseat, hidle, hsome]
    rfl
  · exact hsees.tells use (he.deeds_eq ▸ List.mem_cons_of_mem _ he.mem_deeds)

theorem Entered.permits {take : Action Entry SpinLocks.Command}
    {turn : LockTurn LockShared Local Point} (he : Entered lock s t action use goal take turn)
    {command : SpinLocks.Command} (hsome : use.exit? s.shared.data = some command) :
    permits lock s t action = true := by
  have hreturns : Deed.returns s.shared.data (.use use) = true := by
    cases use with
    | change body => rfl
    | look body =>
      cases hok : (body s.shared.data).isOk with
      | true => exact hok
      | false => simp [Use.exit?, hok] at hsome
  have hdeeds : (deeds lock s t action).all (Deed.returns s.shared.data) = true := by
    rw [he.deeds_eq, Goal.deeds_eq he.mem_deeds, hsome]
    simp only [Option.toList_some, List.map_cons, List.map_nil, List.all_cons, hreturns]
    rfl
  have htakes := he.takes
  unfold Guarded.permits
  rw [hdeeds]
  cases htakes <;> rfl

end Visits

/-- The threads use the lock by its rules, and in the turn that comes one takes it and runs code.
Code that may write gives the lock back, whether it returns or raises a fault: but for what the
thread is told, all goes on as if it had returned. Code that only reads gives the lock back if it
returns. -/
theorem exits_run (kind : Kind) {config : Config} (hv : config.Valid) (hn : n < 0x80000000)
    (value : Data) {plan : Plan Data Result n} {use : Use Data Result}
    (hp : Proper kind.algorithm.lock (opening kind.algorithm.lock config n value) plan)
    (hfew : ((Usage.opening kind.algorithm.lock config n).entries kind.algorithm.lock
      (calls (deedsAlong kind.algorithm.lock (opening kind.algorithm.lock config n value)
        (plan ++ [(t, action)])))).length < 2 ^ 64)
    (hvisits : Visits kind.algorithm.lock
      ((opening kind.algorithm.lock config n value).run (protocol kind.algorithm.lock) plan).1 t
      action use) :
    let lock := kind.algorithm.lock
    let before := opening lock config n value
    let s := (before.run (protocol lock) plan).1
    let u := ((Usage.opening lock config n).run lock (calls (deedsAlong lock before plan))).1
    Exits lock s u t action use := by
  intro lock before s u
  obtain ⟨Inv, hx, hinv⟩ := exists_excludes kind hv hn fun _ => .writing
  have h : Standing Inv 0 before (Usage.opening lock config n) ⟨value, none⟩ :=
    standing_opening hinv value
  have hsplit : calls (deedsAlong lock before (plan ++ [(t, action)])) =
      calls (deedsAlong lock before plan) ++ calls ((deeds lock s t action).map (t, ·)) := by
    rw [deedsAlong_append, calls_append]
    simp only [deedsAlong, List.append_nil]
    rfl
  have hmirrors : Mirrors s u := by
    have hfew' : 0 + ((Usage.opening lock config n).entries lock
        (calls (deedsAlong lock before plan))).length < 2 ^ 64 := by
      rw [hsplit, entries_append, List.length_append] at hfew
      rw [Nat.zero_add]
      exact Nat.lt_of_le_of_lt (Nat.le_add_right ..) hfew
    obtain ⟨⟨_, _, hs, -⟩, -⟩ := h.run hx (.nil value) hp hfew'
    exact hs.toMirrors
  obtain ⟨goal, take, turn, he⟩ := hvisits.exists_entered
  have hend : ∃ own, Exit lock s t action use
      (u.run lock (visitCalls t take (use.exit? s.shared.data))).1 own := by
    obtain hnone | ⟨command, hsome⟩ := Option.eq_none_or_eq_some (use.exit? s.shared.data)
    · exact ⟨turn.own, he.exit_of_none hmirrors hvisits.not_guards hnone⟩
    · have hpermits : Along lock (fun s t action => permits lock s t action = true) before
          (plan ++ [(t, action)]) := (along_append ..).mpr ⟨hp, he.permits hsome, trivial⟩
      obtain ⟨⟨_, _, hlast, -⟩, hsees⟩ := h.run hx (.nil value) hpermits (by rwa [Nat.zero_add])
      rw [System.fst_run_append, hsplit, run_append, he.calls_deeds] at hlast
      exact he.exit_of_some hmirrors hlast ((along_append ..).mp hsees).2.1 hsome
  obtain ⟨own, hexit⟩ := hend
  exact ⟨take, own, he.takes, he.holds_take hmirrors hvisits.not_guards, hexit⟩

/-- The second thread waits while the first keeps a guard. Its code writes, and then raises a fault:
the first thread is granted the lock again all the same. -/
theorem exits_late_fault :
    let use : Use Nat Nat := .change fun d => (d + 10, .error (.raised "late"))
    let plan : Plan Nat Nat 2 :=
      [(0, .join ⟨.pair, 0⟩), (1, .join ⟨.pair, 1⟩), (0, .start .lock),
        (1, .start (.lockThen fun d => (d + 10, .error (.raised "late")))), (0, .start .unlock)]
    let before : Threads Mcs.Shared Mcs.Own Mcs.Wait Nat Nat 2 := opening mcs .pair 2 3
    let s := (before.run (protocol mcs) plan).1
    let u := ((Usage.opening mcs .pair 2).run mcs (calls (deedsAlong mcs before plan))).1
    let next := (s.step (protocol mcs) 1 .resume).1
    Proper mcs before plan ∧ Visits mcs s 1 .resume use ∧ Exits mcs s u 1 .resume use ∧
      next.shared.data = 13 ∧
      guards ((next.step (protocol mcs) 0 (.start .lock)).1.seat 0) = true := by
  intro use plan before s u next
  have hp : Proper mcs before plan := by decide
  have hfew : ((Usage.opening mcs .pair 2).entries mcs
      (calls (deedsAlong mcs before (plan ++ [(1, .resume)])))).length < 2 ^ 64 := by decide
  have hvisits : Visits mcs s 1 .resume use :=
    ⟨List.mem_cons_of_mem _ List.mem_cons_self, by decide⟩
  have hexits := exits_run .mcs Config.valid_pair (by decide) 3 hp hfew hvisits
  exact ⟨hp, hvisits, hexits, by decide, by decide⟩

/-- Code that only reads raises a fault. Nobody keeps a guard afterwards, and yet the lock is held
for good: the second thread waits for it for ever, where it is granted the lock after code that
returns. -/
theorem exits_read_fault :
    let plan (body : Nat → Except Fault Nat) : Plan Nat Nat 2 :=
      [(0, .join ⟨.pair, 0⟩), (1, .join ⟨.pair, 1⟩), (0, .start (.readThen body))]
    let after (body : Nat → Except Fault Nat) :=
      ((opening mcs .pair 2 3).run (protocol mcs) (plan body)).1
    let returned := after .ok
    let raised := after fun _ => .error (.raised "early")
    let stuck := raised.step (protocol mcs) 1 (.start .lock)
    isLocked mcs returned.shared = false ∧
      (returned.step (protocol mcs) 1 (.start .lock)).2 = .done .done ∧
      isLocked mcs raised.shared = true ∧
      (∀ t, guards (raised.seat t) = false) ∧
      stuck.2 = .waiting ∧
      stuck.1.step (protocol mcs) 1 .resume = (stuck.1, .waiting) ∧
      stuck.1.step (protocol mcs) 0 (.start .unlock) = (stuck.1, .refused .noSuchOperation) := by
  intro plan after returned raised stuck
  exact ⟨by decide, rfl, by decide, by decide, rfl, rfl, rfl⟩

end SpinLocks.Guarded
