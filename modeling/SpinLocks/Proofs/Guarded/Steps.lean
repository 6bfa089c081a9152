import SpinLocks.Proofs.Guarded.Standing

namespace SpinLocks.Guarded

open Usage
open ReadWrite (Access accessOf)

variable {LockShared Local Point Data Result : Type} {n : Nat} {lock : Lock LockShared Local Point}
  {Inv : Nat → (Fin n → Access) → Usage LockShared Local Point n → Prop} {asked : Nat}
  {s : Threads LockShared Local Point Data Result n} {u : Usage LockShared Local Point n}
  {c : Cell Data n} {t : Fin n} {goal : Goal Data Result}

section Take

variable {action : Action Entry SpinLocks.Command} {lockShared : LockShared} {state : Local}

theorem Standing.not_owner (h : Standing Inv asked s u c) (hf : u.holds t = false) :
    c.owner ≠ some t := by
  rw [Ne, ← h.owner_iff, ← h.holds_eq, hf]
  exact Bool.false_ne_true

theorem Standing.put_free (h : Standing Inv asked s u c) (hf : u.holds t = false)
    (seat : Seat (Own Local) (Wait Point Data Result)) (hseat : guards seat = false)
    {asked' : Nat}
    (hinv : Inv asked' (Function.update (modes s) t (modeOf seat))
      (u.put t lockShared (lockSeat seat) false))
    (hacquires : Acquires seat) :
    Standing Inv asked' (Guarded.put s t ⟨lockShared, s.shared.data⟩ seat)
      (u.put t lockShared (lockSeat seat) false) c := by
  have h' := h.put ⟨lockShared, s.shared.data⟩ seat c (hseat.symm ▸ hinv) hacquires h.data_eq
    (by simp [hseat, h.not_owner hf]) fun _ _ => .rfl
  rwa [hseat] at h'

section Taken

variable (hx : Excludes lock Inv) (h : Standing Inv asked s u c) (hf : u.holds t = false)
  {answer : Answer SpinLocks.Reply}
  (hstep : u.step lock t action = (u.put t lockShared (.idle state) true, answer))
  (hover : answer.turnsOver = true)
  (hfew : asked + (if u.enters lock t action then [t] else []).length < 2 ^ 64)
include hx h hf hstep hover hfew

theorem Standing.visit (use : Use Data Result) (command : SpinLocks.Command)
    (hb : command.givesBack = true)
    (hinv : Inv (asked + (if u.enters lock t action then [t] else []).length)
      (Function.update (modes s) t (accessOf command)) (u.put t lockShared (.idle state) true)) :
    ∃ lockShared' state',
      lock.start command lockShared state = ⟨lockShared', state', .done .done⟩ ∧
      Comes lock Inv asked u c t [.call action, .use use, .call (.start command)]
        (s.settle t (finish ⟨lockShared', use.after s.shared.data⟩ ⟨state', false⟩
          ((use.outcome s.shared.data).map .result))) := by
  have hfree := h.owner_none hx hf hinv
  obtain ⟨lockShared', state', hturn, hstep', hinv'⟩ :=
    hx.give hinv hfew (Usage.seat_put_self ..) (holds_put_self ..) hb (by rw [Function.update_self])
  rw [Usage.put_put] at hstep' hinv'
  refine ⟨lockShared', state', hturn, ?_⟩
  refine .visit hf (by rw [hstep]; exact hover) (by rw [hstep, hstep']; rfl) hfree ?_ ?_
  · rw [answer_finish, h.data_eq]
  · rw [hstep, hstep', settle_finish, h.data_eq]
    have hidle : ¬ (u.put t lockShared' (.idle state') false).Engaged t := by
      rw [engaged_put, if_pos rfl]
      simp [Seat.waits]
    exact h.put ⟨lockShared', use.after c.data⟩ (.idle ⟨state', false⟩)
      { c with data := use.after c.data } (hx.choose_again hinv' hidle .writing) (acquires_idle _)
      rfl (by simp [guards, hfree]) fun _ _ => .rfl

/-- What a thread comes to that has taken the lock. -/
theorem Standing.taken
    (hinv : Inv (asked + (if u.enters lock t action then [t] else []).length)
      (Function.update (modes s) t goal.access) (u.put t lockShared (.idle state) true))
    (hreturns : (goal.deeds s.shared.data).all (Deed.returns s.shared.data) = true) :
    Comes lock Inv asked u c t (.call action :: goal.deeds s.shared.data)
      (s.settle t (acquired lock goal lockShared state s.shared.data)) := by
  cases goal with
  | guard reply =>
    have hfree := h.owner_none hx hf hinv
    refine .grant hf (by rw [hstep]; exact hover) hfree ?_
    rw [hstep]
    exact h.put ⟨lockShared, s.shared.data⟩ (.idle ⟨state, true⟩) { c with owner := some t } hinv
      (acquires_idle _) h.data_eq (by simp [guards]) fun r hne => by simp [hfree, hne.symm]
  | exclusive body =>
    obtain ⟨lockShared', state', hturn, hcomes⟩ :=
      h.visit hx hf hstep hover hfew (.change body) .release rfl hinv
    have hacquired : acquired lock (.exclusive body) lockShared state s.shared.data =
        finish ⟨lockShared', (body s.shared.data).1⟩ ⟨state', false⟩
          ((body s.shared.data).2.map .result) := by
      simp only [acquired, hturn, released]
    rw [hacquired]
    exact hcomes
  | shared body =>
    cases hbody : body s.shared.data with
    | error cause => simp [Goal.deeds, Deed.returns, hbody, Except.isOk, Except.toBool] at hreturns
    | ok value =>
      obtain ⟨lockShared', state', hturn, hcomes⟩ :=
        h.visit hx hf hstep hover hfew (.look body) .releaseRead rfl hinv
      have hacquired : acquired lock (.shared body) lockShared state s.shared.data =
          finish ⟨lockShared', s.shared.data⟩ ⟨state', false⟩
            ((body s.shared.data).map .result) := by
        simp only [acquired, hbody, hturn, released]
        rfl
      have hdeeds : (Goal.shared body).deeds s.shared.data =
          [.use (.look body), .call (.start .releaseRead)] := by
        simp [Goal.deeds, hbody, Except.isOk, Except.toBool]
      rw [hacquired, hdeeds]
      exact hcomes

end Taken

theorem taking_of_turnsOver {data : Data} (turn : LockTurn LockShared Local Point)
    (hover : turn.answer.turnsOver = true) :
    taking goal data action turn = .call action :: goal.deeds data :=
  congrArg _ (if_pos hover)

theorem acquiring_of_turnsOver {data : Data} {reply : SpinLocks.Reply}
    (busy : Except Fault (Reply Result)) (hover : Answer.turnsOver (.done reply) = true) :
    Guarded.acquiring lock goal busy data ⟨lockShared, state, .done reply⟩ =
      acquired lock goal lockShared state data := by
  cases reply with
  | done => rfl
  | took taken =>
    obtain rfl : taken = true := hover
    rfl

/-- What a turn comes to in which a thread asks for the lock, or goes on waiting for it. -/
theorem Standing.acquiring (hx : Excludes lock Inv) (h : Standing Inv asked s u c)
    (hf : u.holds t = false) {turn : LockTurn LockShared Local Point}
    (busy : Except Fault (Reply Result))
    (hstep : u.step lock t action = (u.settle t turn, turn.answer))
    (hfew : asked + (if u.enters lock t action then [t] else []).length < 2 ^ 64)
    (hinv : Inv (asked + (if u.enters lock t action then [t] else []).length)
      (Function.update (modes s) t goal.access) (u.settle t turn))
    (hreturns : (taking goal s.shared.data action turn).all (Deed.returns s.shared.data) = true) :
    Comes lock Inv asked u c t (taking goal s.shared.data action turn)
      (s.settle t (Guarded.acquiring lock goal busy s.shared.data turn)) := by
  obtain ⟨lockShared, state, ending⟩ := turn
  have hidle : ¬ (u.put t lockShared (.idle state) false).Engaged t := by
    rw [engaged_put, if_pos rfl]
    simp [Seat.waits]
  cases ending with
  | waiting point =>
    refine .call (by rw [hstep]; rfl) ?_
    rw [settle_waiting, hf] at hinv hstep
    rw [hstep]
    exact h.put_free hf (.waiting ⟨state, false⟩ (.acquiring point goal)) rfl hinv
      (acquires_waiting _ point goal)
  | failed why =>
    refine .call (by rw [hstep]; rfl) ?_
    rw [settle_failed, hf] at hinv hstep
    rw [hstep]
    exact h.put_free hf (.idle ⟨state, false⟩) rfl (hx.choose_again hinv hidle .writing)
      (acquires_idle _)
  | done reply =>
    cases hover : Answer.turnsOver (.done reply) with
    | true =>
      have hholds : u.settle t ⟨lockShared, state, .done reply⟩ =
          u.put t lockShared (.idle state) true := by
        rw [Usage.settle, hf, show Turn.answer _ = .done reply from rfl, hover]
        rfl
      rw [taking_of_turnsOver ⟨lockShared, state, .done reply⟩ hover] at hreturns ⊢
      rw [hholds] at hinv hstep
      rw [acquiring_of_turnsOver busy hover]
      exact h.taken hx hf hstep hover hfew hinv (by simpa [Deed.returns] using hreturns)
    | false =>
      cases reply with
      | done => cases hover
      | took taken =>
        obtain rfl : taken = false := hover
        refine .call (by rw [hstep]; rfl) ?_
        rw [settle_took, hf, Bool.xor_false] at hinv hstep
        rw [hstep, show Guarded.acquiring lock goal busy s.shared.data
          ⟨lockShared, state, .done (.took false)⟩ =
            finish ⟨lockShared, s.shared.data⟩ ⟨state, false⟩ busy from rfl, settle_finish]
        exact h.put_free hf (.idle ⟨state, false⟩) rfl (hx.choose_again hinv hidle .writing)
          (acquires_idle _)

end Take

section Step

variable {own : Own Local} {command : Command Data Result}

theorem step_start (hs : s.seat t = .idle own) :
    s.step (protocol lock) t (.start command) = s.settle t (start lock command s.shared own) := by
  simp only [System.step, System.start, hs]
  rfl

theorem step_resume {wait : Wait Point Data Result} (hs : s.seat t = .waiting own wait) :
    s.step (protocol lock) t .resume = s.settle t (resume lock wait s.shared own) := by
  simp only [System.step, System.resume, hs]
  rfl

section Membership

variable {entry : Entry} {lockShared : LockShared}

theorem step_join_ok {state : Local} (hs : s.seat t = .vacant)
    (hjoin : lock.join entry s.shared.lock = (lockShared, .ok state)) :
    (s.step (protocol lock) t (.join entry)).1 =
      put s t ⟨lockShared, s.shared.data⟩ (.idle ⟨state, false⟩) := by
  simp only [System.step, System.join, hs, protocol, join, hjoin]
  rfl

theorem step_join_error {why : LockError} (hs : s.seat t = .vacant)
    (hjoin : lock.join entry s.shared.lock = (lockShared, .error why)) :
    (s.step (protocol lock) t (.join entry)).1 =
      put s t ⟨lockShared, s.shared.data⟩ .vacant := by
  rw [put_of_seat hs]
  simp only [System.step, System.join, hs, protocol, join, hjoin]
  rfl

theorem fst_step_leave (hs : s.seat t = .idle own) :
    (s.step (protocol lock) t .leave).1 =
      put s t ⟨(lock.leave s.shared.lock own.state).1, s.shared.data⟩ .vacant := by
  rcases hleave : lock.leave s.shared.lock own.state with ⟨lockShared, _ | cause⟩ <;>
    simp [System.step, System.leave, hs, protocol, leave, hleave, put]

end Membership

variable (lock own) in
theorem startFree_of_request {request : SpinLocks.Command} {shared : Shared LockShared Data}
    (h : command.request? = some (request, goal)) :
    ∃ busy, startFree lock command shared own =
      acquiring lock goal busy shared.data (lock.start request shared.lock own.state) := by
  cases command <;> cases h <;> exact ⟨_, rfl⟩

theorem startFree_of_none {shared : Shared LockShared Data} (h : command.request? = none) :
    startFree lock command shared own = .refuse shared own .noSuchOperation := by
  cases command <;> first | rfl | cases h

theorem access_request {request : SpinLocks.Command}
    (h : command.request? = some (request, goal)) :
    request.givesBack = false ∧ accessOf request = goal.access := by
  cases command <;> cases h <;> exact ⟨rfl, rfl⟩

end Step

section Cases

variable (h : Standing Inv asked s u c) {own : Own Local}
include h

theorem Standing.refuse (hs : s.seat t = .idle own) (cause : Refusal) :
    Comes lock Inv asked u c t []
      (s.settle t
        (.refuse s.shared own cause : GuardedTurn LockShared Local Point Data Result)) := by
  rw [settle_eq, show Turn.seat _ = .idle own from rfl, put_of_seat hs]
  exact .rest h _

variable (hx : Excludes lock Inv)
include hx

theorem Standing.start_free (hs : s.seat t = .idle own) (hg : own.guard = false)
    (command : Command Data Result)
    (hfew : asked + (u.entries lock
      (calls ((startDeeds lock command s.shared own).map (t, ·)))).length < 2 ^ 64)
    (hreturns : (startDeeds lock command s.shared own).all (Deed.returns s.shared.data) = true) :
    Comes lock Inv asked u c t (startDeeds lock command s.shared own)
      (s.settle t (startFree lock command s.shared own)) := by
  have hf : u.holds t = false := by rw [h.holds_eq, hs]; exact hg
  have hus : u.seat t = .idle own.state := by rw [h.seat_eq, hs]; rfl
  cases hrequest : command.request? with
  | none =>
    have hdeeds : startDeeds lock command s.shared own = [] := by
      simp [startDeeds, hg, hrequest]
    rw [hdeeds, startFree_of_none hrequest]
    exact h.refuse hs _
  | some pair =>
    obtain ⟨request, goal⟩ := pair
    obtain ⟨hb, haccess⟩ := access_request hrequest
    obtain ⟨busy, hturn⟩ := startFree_of_request lock own hrequest
    have hdeeds : startDeeds lock command s.shared own = taking goal s.shared.data (.start request)
        (lock.start request s.shared.lock own.state) := by
      simp [startDeeds, hg, hrequest]
    rw [hdeeds] at hfew hreturns ⊢
    rw [hturn]
    have hstep : u.step lock t (.start request) = _ := Usage.step_start hus request
    rw [h.shared_eq] at hstep
    have hfirst :
        asked + (if u.enters lock t (.start request) then [t] else []).length < 2 ^ 64 := by
      simp only [taking, List.map, calls, List.filterMap, entries, List.length_append] at hfew
      omega
    have hchoose := hx.choose h.inv t goal.access (not_engaged_idle hus hf)
    have hinv := hx.step hchoose (by omega) t (.start request) (by simp [Usage.permits, hb, hf])
      (by rintro _ ⟨⟩; rw [haccess, Function.update_self])
    rw [hstep] at hinv
    exact h.acquiring hx hf busy hstep hfirst hinv hreturns

theorem Standing.start_guarding (hs : s.seat t = .idle own) (hg : own.guard = true)
    (hfew : asked < 2 ^ 64) (command : Command Data Result) :
    Comes lock Inv asked u c t (startDeeds lock command s.shared own)
      (s.settle t (startGuarding lock command s.shared own)) := by
  have hh : u.holds t = true := by rw [h.holds_eq, hs]; exact hg
  have hus : u.seat t = .idle own.state := by rw [h.seat_eq, hs]; rfl
  have hguards : guards (s.seat t) = true := by rw [hs]; exact hg
  have howned := (h.owner_iff t).mp hguards
  unfold startDeeds
  rw [if_pos hg]
  cases command with
  | access body =>
    have hturn : startGuarding lock (.access body) s.shared own =
        finish ⟨s.shared.lock, (body s.shared.data).1⟩ own
          ((body s.shared.data).2.map .result) := rfl
    rw [hturn]
    change Comes lock Inv asked u c t [.use (.change body)] _
    refine .use howned (by rw [answer_finish, h.data_eq]; rfl) ?_
    rw [settle_finish, put_of_seat hs, h.data_eq]
    exact h.write _
  | unlock =>
    have hmode : accessOf .release = modes s t := by rw [modes, hs]; rfl
    obtain ⟨lockShared, state, hrelease, hstep, hinv⟩ := hx.give h.inv hfew hus hh rfl hmode
    rw [h.shared_eq] at hrelease
    have hturn : startGuarding lock (.unlock : Command Data Result) s.shared own =
        finish ⟨lockShared, s.shared.data⟩ ⟨state, false⟩ (.ok .done) := by
      simp only [startGuarding, hrelease, released]
    rw [hturn]
    refine .give hh (by rw [hstep]; rfl) howned ?_
    rw [hstep, settle_finish]
    refine h.put ⟨lockShared, s.shared.data⟩ (.idle ⟨state, false⟩) { c with owner := none } ?_
      (acquires_idle _) h.data_eq (by simp [guards]) fun r hne => by simp [howned, hne.symm]
    rw [update_modes (by rw [hs]; rfl)]
    exact hinv
  | lock | tryLock | lockThen | tryLockThen | readThen => exact h.refuse hs .holdsGuard

theorem Standing.join (hs : s.seat t = .vacant) (hfew : asked < 2 ^ 64) (entry : Entry) :
    Comes lock Inv asked u c t [.call (.join entry)]
      (s.step (protocol lock) t (.join entry)) := by
  have hus : u.seat t = .vacant := by rw [h.seat_eq, hs]; rfl
  have hf : u.holds t = false := by rw [h.holds_eq, hs]; rfl
  have hinv := hx.step h.inv hfew t (.join entry) rfl (by rintro _ ⟨⟩)
  refine .call (not_turnsOver_join entry) ?_
  rcases hjoin : lock.join entry u.shared with ⟨lockShared, why | state⟩
  · rw [Usage.step_join_error lock hus hjoin, hf] at hinv ⊢
    rw [step_join_error hs (h.shared_eq ▸ hjoin)]
    exact h.put_free hf .vacant rfl (by rwa [update_modes (by rw [hs])]) acquires_vacant
  · rw [Usage.step_join_ok lock hus hjoin, hf] at hinv ⊢
    rw [step_join_ok hs (h.shared_eq ▸ hjoin)]
    exact h.put_free hf (.idle ⟨state, false⟩) rfl (by rwa [update_modes (by rw [hs]; rfl)])
      (acquires_idle _)

theorem Standing.leave (hs : s.seat t = .idle own) (hg : own.guard = false)
    (hfew : asked < 2 ^ 64) :
    Comes lock Inv asked u c t [.call .leave] (s.step (protocol lock) t .leave) := by
  have hus : u.seat t = .idle own.state := by rw [h.seat_eq, hs]; rfl
  have hf : u.holds t = false := by rw [h.holds_eq, hs]; exact hg
  have hinv := hx.step h.inv hfew t .leave (by simp [Usage.permits, hf]) (by rintro _ ⟨⟩)
  refine .call not_turnsOver_leave ?_
  rw [Usage.fst_step_leave lock hus, hf, h.shared_eq] at hinv ⊢
  rw [fst_step_leave hs]
  exact h.put_free hf .vacant rfl (by rwa [update_modes (by rw [hs]; rfl)]) acquires_vacant

theorem Standing.resume {point : Point} (hs : s.seat t = .waiting own (.acquiring point goal))
    (hfew : asked < 2 ^ 64)
    (hreturns : (taking goal s.shared.data .resume
      (lock.resume point s.shared.lock own.state)).all (Deed.returns s.shared.data) = true) :
    Comes lock Inv asked u c t
      (taking goal s.shared.data .resume (lock.resume point s.shared.lock own.state))
      (s.step (protocol lock) t .resume) := by
  have hf : u.holds t = false := by rw [h.holds_eq, hs]; rfl
  have hus : u.seat t = .waiting own.state point := by rw [h.seat_eq, hs]; rfl
  have hstep : u.step lock t .resume = _ := Usage.step_resume hus
  have henters : u.enters lock t .resume = false := by
    have hengaged : u.Engaged t := .inr (waits_iff.mpr ⟨_, _, hus⟩)
    simp [enters, hengaged]
  have hmodes : Function.update (modes s) t goal.access = modes s := by
    rw [show goal.access = modes s t by rw [modes, hs]; rfl]
    exact Function.update_eq_self ..
  have hinv := hx.step h.inv hfew t .resume rfl (by rintro _ ⟨⟩)
  rw [h.shared_eq] at hstep
  rw [hstep, ← hmodes] at hinv
  rw [step_resume hs]
  exact h.acquiring hx hf (.ok (.took false)) hstep (by simpa [henters] using hfew) hinv hreturns

end Cases

/-- Each permitted turn comes to its deeds. -/
theorem Standing.step (hx : Excludes lock Inv) (h : Standing Inv asked s u c)
    {action : Action Entry (Command Data Result)} (hp : permits lock s t action = true)
    (hfew : asked + (u.entries lock (calls ((deeds lock s t action).map (t, ·)))).length < 2 ^ 64) :
    Comes lock Inv asked u c t (deeds lock s t action) (s.step (protocol lock) t action) := by
  have hasked : asked < 2 ^ 64 := by omega
  obtain ⟨hleave, hreturns⟩ := Bool.and_eq_true_iff.mp hp
  cases hs : s.seat t with
  | vacant =>
    cases action with
    | join entry =>
      simp only [deeds, hs]
      exact h.join hx hs hasked entry
    | leave | start | resume =>
      simp only [deeds, System.step, System.leave, System.start, System.resume, hs]
      exact .rest h _
  | idle own =>
    cases action with
    | leave =>
      simp only [deeds, hs]
      exact h.leave hx hs (by simpa [guards, hs] using hleave) hasked
    | start command =>
      simp only [deeds, hs] at hfew hreturns ⊢
      rw [step_start hs, start]
      cases hg : own.guard with
      | true => exact h.start_guarding hx hs hg hasked command
      | false => exact h.start_free hx hs hg command hfew hreturns
    | join | resume =>
      simp only [deeds, System.step, System.join, System.resume, hs]
      exact .rest h _
  | waiting own wait =>
    obtain ⟨point, goal, rfl⟩ := h.acquires t own wait hs
    cases action with
    | resume =>
      simp only [deeds, hs] at hreturns ⊢
      exact h.resume hx hs hasked hreturns
    | join | leave | start =>
      simp only [deeds, System.step, System.join, System.leave, System.start, hs]
      exact .rest h _

end SpinLocks.Guarded
