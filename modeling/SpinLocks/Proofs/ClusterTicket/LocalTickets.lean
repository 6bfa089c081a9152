import SpinLocks.Proofs.ClusterTicket.Overtaking

namespace SpinLocks.ClusterTicket

open Usage

variable {n : Nat}

/-- The local ticket that the thread draws in this step. Whoever asks for the lock draws one, and
whoever waits for the next batch does when that is open. -/
def drawn? (u : Threads n) (t : Fin n) (action : Action Entry Command) : Option Int :=
  match u.seat t, action with
  | .idle own, .start command =>
    if command.asks then some (u.shared.nxt own.cluster - 1) else none
  | .waiting own .opened, .resume =>
    if 0 ≤ u.shared.nxt own.cluster then some (u.shared.nxt own.cluster - 1) else none
  | _, _ => none

def Opens (u : Threads n) (t : Fin n) (action : Action Entry Command) : Prop :=
  DrawsGlobal u t action ∧ (u.step clusterTicket t action).2 ≠ .done (.took true)

instance Opens.decidable (u : Threads n) (t : Fin n) (action : Action Entry Command) :
    Decidable (Opens u t action) :=
  inferInstanceAs (Decidable (_ ∧ _))

def ticketAfter (u : Threads n) (t : Fin n) (action : Action Entry Command) (ticket : Option Int) :
    Option Int :=
  if Opens u t action then some u.shared.batch.toInt
  else if u.holds t = true ∧ (u.step clusterTicket t action).1.holds t = false then none
  else (drawn? u t action).or ticket

/-- That a thread in this place has the ticket. -/
def Bears (shared : Shared) (holds : Bool) (ticket : Option Int) : Seat Own Wait → Prop
  | .vacant => ticket = none
  | .idle own =>
    ticket = if holds = true ∧ own.viaTry = false then some (shared.cur own.cluster) else none
  | .waiting _ (.served mine) => ticket = some mine.toInt
  | .waiting _ .called => ticket = some shared.batch.toInt
  | .waiting _ .closed => ticket = some (-1)
  | .waiting _ .opened => ∃ k, ticket = some k ∧ k < -1

section Turns

variable {shared : Shared} {own : Own} {ticket : Option Int} {tail : UInt32}

/-- What a turn on the way to the lock leaves the thread with, where `tail` was the next ticket of
the global lock before: the local ticket that it has else, unless it drew a global one. -/
structure Leaves (tail : UInt32) (ticket : Option Int) (turn : LockTurn Shared Own Wait) :
    Prop where
  bears : Bears turn.shared turn.answer.turnsOver
    (if turn.shared.global.tail = tail then ticket else some turn.shared.batch.toInt) turn.seat

theorem leaves_done (hv : own.viaTry = false)
    (h : shared.global.tail = tail → ticket = some (shared.cur own.cluster))
    (h' : shared.global.tail ≠ tail → shared.batch.toInt = shared.cur own.cluster) :
    Leaves tail ticket ⟨shared, own, .done .done⟩ := by
  constructor
  simp only [Bears, Turn.answer, Turn.seat, Answer.turnsOver, hv, and_self, if_true]
  split
  · next he => exact h he
  · next hne => rw [h' hne]

theorem leaves_served (hc : own.cluster < shared.clusters.length) (hv : own.viaTry = false)
    (mine : Int32) :
    Leaves shared.global.tail (some mine.toInt) (awaitServed mine shared own) := by
  rw [awaitServed_eq hc]
  split
  · next he => exact leaves_done hv (fun _ => by rw [he]) (absurd rfl)
  · exact ⟨by simp [Bears, Turn.seat]⟩

theorem leaves_called (hv : own.viaTry = false)
    (hcur : shared.cur own.cluster = shared.batch.toInt)
    (h : shared.global.tail = tail → ticket = some shared.batch.toInt) :
    Leaves tail ticket (awaitCalled shared own) := by
  rw [awaitCalled_eq]
  split
  · have hcluster : own.count.cluster = own.cluster := rfl
    exact leaves_done hv (by rwa [hcluster, hcur]) fun _ => by rw [hcluster, hcur]
  · constructor
    simp only [Bears, Turn.seat]
    split
    · next he => exact h he
    · rfl

theorem leaves_closed (hc : own.cluster < shared.clusters.length) (hv : own.viaTry = false) :
    Leaves shared.global.tail (some (-1)) (awaitClosed shared own) := by
  by_cases hi : (shared.counters own.cluster).cur = shared.idle
  · rw [awaitClosed_of_idle hc hi]
    have hcluster : (own.draw shared.global).cluster = own.cluster := rfl
    refine leaves_called hv ?_ fun he => ?_
    · rw [hcluster, cur_openBatch hc, batch_openBatch]
    · -- the tail has gone on
      rw [global_openBatch, Ticket.Word.tail_draw, UInt32.add_eq_left] at he
      cases he
  · rw [awaitClosed_of_not_idle hc hi]
    exact ⟨by simp [Bears, Turn.seat]⟩

theorem leaves_draw (hc : own.cluster < shared.clusters.length) (hv : own.viaTry = false)
    (hmin : -0x80000000 < shared.nxt own.cluster) :
    Leaves shared.global.tail (some (shared.nxt own.cluster - 1)) (draw shared own) := by
  have hc' : own.cluster < (shared.lower own.cluster).clusters.length := by
    rwa [Shared.lower, length_setCounters]
  obtain hneg | hzero | hpos := Int.lt_trichotomy (shared.nxt own.cluster) 0
  · rw [draw_of_neg hc hmin hneg]
    constructor
    simp only [Bears, Turn.seat, Shared.lower, Shared.setCounters, if_true]
    exact ⟨_, rfl, by omega⟩
  · rw [draw_of_zero hc hzero, hzero]
    exact leaves_closed hc' hv
  · rw [draw_of_pos hc hpos]
    have hleaves := leaves_served hc' hv ((shared.counters own.cluster).nxt - 1)
    rwa [toInt_sub_one (Int.lt_trans (by decide) hpos)] at hleaves

theorem leaves_opened (hc : own.cluster < shared.clusters.length) (hv : own.viaTry = false)
    (hmin : -0x80000000 < shared.nxt own.cluster) {k : Int} (hk : k < -1) :
    Leaves shared.global.tail
      ((if 0 ≤ shared.nxt own.cluster then some (shared.nxt own.cluster - 1) else none).or (some k))
      (awaitOpened shared own) := by
  rw [awaitOpened_eq hc]
  by_cases hneg : shared.nxt own.cluster < 0
  · rw [if_neg (by omega), if_pos hneg]
    exact ⟨by simp [Bears, Turn.seat, hk]⟩
  · rw [if_pos (by omega), if_neg hneg]
    exact leaves_draw hc hv hmin

theorem tail_release (shared : Shared) (own : Own) :
    (release shared own).shared.global.tail = shared.global.tail := by
  unfold release
  split
  · exact Ticket.Word.tail_call _
  · unfold releaseBatch onCounters
    cases shared.clusters[own.cluster]? with
    | none => rfl
    | some counters =>
      dsimp only
      split
      · exact Ticket.Word.tail_call _
      · split <;> rfl

end Turns

variable {u u' : Threads n} {q q' : Order n} {s t : Fin n} {own : Own} {point : Wait} {c : Nat}
  {action : Action Entry Command} {answer : Answer Reply} {ticket : Option Int}

theorem cur_congr {shared shared' : Shared} (h : shared'.counters c = shared.counters c) :
    shared'.cur c = shared.cur c :=
  congrArg (·.cur.toInt) h

theorem not_opens
    (h : (u.step clusterTicket t action).1.shared.global.tail = u.shared.global.tail) :
    ¬ Opens u t action := fun ho => ho.1 h

theorem ticketAfter_quiet (hopens : ¬ Opens u t action) (hd : drawn? u t action = none)
    (hh : u.holds t = true → (u.step clusterTicket t action).1.holds t = true) :
    ticketAfter u t action ticket = ticket := by
  rw [ticketAfter, if_neg hopens, if_neg (fun hgives => by simp [hh hgives.1] at hgives), hd,
    Option.none_or]

theorem drawn?_start {command : Command} (hs : u.seat t = .idle own) :
    drawn? u t (.start command) =
      if command.asks then some (u.shared.nxt own.cluster - 1) else none := by
  simp only [drawn?, hs]

theorem drawn?_resume (hs : u.seat t = .waiting own point) :
    drawn? u t .resume = if point = .opened ∧ 0 ≤ u.shared.nxt own.cluster then
      some (u.shared.nxt own.cluster - 1) else none := by
  cases point <;> simp [drawn?, hs]

theorem drawn?_refused {cause : Refusal} (h : (u.seat t).refusal? action = some cause) :
    drawn? u t action = none := by
  unfold drawn?
  split <;> simp_all [Seat.refusal?]

/-- That the thread has the ticket. -/
def HasTicket (u : Threads n) (t : Fin n) (ticket : Option Int) : Prop :=
  Bears u.shared (u.holds t) ticket (u.seat t)

theorem hasTicket_put {shared : Shared} {seat : Seat Own Wait} {holds : Bool} :
    HasTicket (u.put t shared seat holds) t ticket ↔ Bears shared holds ticket seat := by
  rw [HasTicket, holds_put_self, seat_put_self, Usage.shared, shared_put]

theorem Turns.not_took {turn : LockTurn Shared Own Wait} {admitted : Prop}
    (h : Turns u q t turn admitted) : turn.answer ≠ .done (.took true) := by
  obtain he | he := h.answer <;> simp [he]

theorem Leaves.hasTicket {turn : LockTurn Shared Own Wait}
    (h : Leaves u.shared.global.tail ((drawn? u t action).or ticket) turn)
    (he : u.step clusterTicket t action = (u.settle t turn, turn.answer))
    (hf : u.holds t = false) (htook : turn.answer ≠ .done (.took true))
    (hbatch : turn.shared.batch = u.shared.batch) :
    HasTicket (u.step clusterTicket t action).1 t (ticketAfter u t action ticket) := by
  have hopens : Opens u t action ↔ turn.shared.global.tail ≠ u.shared.global.tail := by
    rw [Opens, DrawsGlobal, he]
    exact and_iff_left htook
  have hafter : ticketAfter u t action ticket =
      if turn.shared.global.tail = u.shared.global.tail then (drawn? u t action).or ticket
      else some turn.shared.batch.toInt := by
    simp only [ticketAfter, hopens, hf, hbatch, ite_not, Bool.false_eq_true, false_and, if_false]
  rw [hafter, he, settle, hasTicket_put, hf, Bool.false_xor]
  exact h.bears

theorem hasTicket_attempt (hs : u.seat t = .idle own) (hf : u.holds t = false)
    (hb : HasTicket u t ticket) :
    HasTicket (u.step clusterTicket t (.start .tryAcquire)).1 t
      (ticketAfter u t (.start .tryAcquire) ticket) := by
  have hdrawn : drawn? u t (.start .tryAcquire) = none := drawn?_start hs
  have hstep : u.step clusterTicket t (.start .tryAcquire) =
      (u.settle t (tryAcquire u.shared own), (tryAcquire u.shared own).answer) := step_start hs _
  rw [tryAcquire_eq] at hstep
  by_cases hfree : u.shared.global.head = u.shared.global.tail
  · rw [if_pos hfree, settle_took, hf] at hstep
    have hnone : ticket = none := by simpa [HasTicket, Bears, hs, hf] using hb
    rw [ticketAfter_quiet (fun ho => ho.2 (by rw [hstep]; rfl)) hdrawn (by simp [hf]), hstep,
      hasTicket_put, hnone]
    rfl
  · rw [if_neg hfree, settle_took, Bool.xor_false, ← hs, put_self] at hstep
    rw [ticketAfter_quiet (not_opens (by rw [hstep])) hdrawn (by rw [hstep]; exact id), hstep]
    exact hb

namespace Ordered

section Self

variable (h : Ordered u q)
include h

/-- The batch is untouched whose global ticket has not been called. -/
theorem cur_of_called (ht : Tallied u q) (hs : u.seat t = .waiting own .called) :
    u.shared.cur own.cluster = u.shared.batch.toInt :=
  ht _ _ (standing_waiting hs (h.called_front hs))

theorem leaves_resume (ht : Tallied u q) (hn : n < 0x80000000)
    (hs : u.seat t = .waiting own point) (hb : HasTicket u t ticket) :
    Leaves u.shared.global.tail ((drawn? u t .resume).or ticket)
      (clusterTicket.resume point u.shared own) := by
  have ho := own?_of_waiting hs
  have hc := h.cluster_lt t own ho
  have hv := h.viaTry_of_not_holds ho (h.not_holds hs)
  rw [HasTicket, hs] at hb
  rw [drawn?_resume hs]
  cases point with
  | served mine =>
    cases hb
    exact leaves_served hc hv mine
  | closed =>
    cases hb
    exact leaves_closed hc hv
  | called =>
    cases hb
    exact leaves_called hv (h.cur_of_called ht hs) fun _ => rfl
  | opened =>
    obtain ⟨k, rfl, hk⟩ := hb
    simp only [true_and]
    exact leaves_opened hc hv (h.nxt_gt hn hc) hk

theorem hasTicket_release {command : Command} (hs : u.seat t = .idle own) (hh : u.holds t = true)
    (he : u.step clusterTicket t (.start command) =
      (u.settle t (release u.shared own), (release u.shared own).answer)) :
    HasTicket (u.step clusterTicket t (.start command)).1 t
      (ticketAfter u t (.start command) ticket) := by
  obtain ⟨hdone, -⟩ := h.settle_release hs hh
  have hseat : (release u.shared own).seat = .idle (release u.shared own).own := by
    generalize release u.shared own = turn at hdone
    obtain ⟨shared, own, _ | _ | _⟩ := turn
    · rfl
    · cases hdone
    · cases hdone
  have hopens : ¬ Opens u t (.start command) := by
    refine not_opens ?_
    rw [he]
    exact tail_release u.shared own
  have hholds : (u.step clusterTicket t (.start command)).1.holds t = false := by
    rw [he, settle, holds_put_self, hh, hdone]
    rfl
  rw [ticketAfter, if_neg hopens, if_pos ⟨hh, hholds⟩, HasTicket, hholds, he, settle,
    seat_put_self, hseat]
  rfl

theorem leaves_acquire {command : Command} (hn : n < 0x80000000) (hs : u.seat t = .idle own)
    (hf : u.holds t = false) (hasks : command.asks = true) :
    Leaves u.shared.global.tail ((drawn? u t (.start command)).or ticket)
      (acquire u.shared own) := by
  have ho := own?_of_idle hs
  have hc := h.cluster_lt t own ho
  have hv := h.viaTry_of_not_holds ho hf
  let asking : Own := { own with acquires := own.acquires + 1 }
  have hdraw : Leaves u.shared.global.tail (some (u.shared.nxt asking.cluster - 1))
      (ClusterTicket.draw u.shared asking) := leaves_draw hc hv (h.nxt_gt hn hc)
  rw [drawn?_start hs, if_pos hasks, Option.some_or, acquire_eq hc]
  exact hdraw

theorem hasTicket_start {command : Command} (hn : n < 0x80000000) (hs : u.seat t = .idle own)
    (hp : u.permits t (.start command) = true) (hb : HasTicket u t ticket) :
    HasTicket (u.step clusterTicket t (.start command)).1 t
      (ticketAfter u t (.start command) ticket) := by
  obtain ⟨-, q', hchange⟩ := h.changes hn hp
  have hbatch := hchange.batch_eq h
  have hstep : u.step clusterTicket t (.start command) = _ := step_start hs command
  have hgives : command.givesBack = u.holds t := by simpa [permits] using hp
  cases hh : u.holds t with
  | true =>
    have hstart : clusterTicket.start command u.shared own = release u.shared own :=
      Command.exclusive_of_givesBack (hgives.trans hh)
    rw [hstart] at hstep
    exact h.hasTicket_release hs hh hstep
  | false =>
    obtain hasks | rfl | rfl := Command.asks_or_attempts (hgives.trans hh)
    · have hstart : clusterTicket.start command u.shared own = acquire u.shared own :=
        Command.exclusive_of_asks hasks
      rw [hstart] at hstep
      refine (h.leaves_acquire hn hs hh hasks).hasTicket hstep hh
        (h.turns_acquire hs hh hn).not_took ?_
      rwa [hstep] at hbatch
    · exact hasTicket_attempt hs hh hb
    · have hstart : clusterTicket.start .tryAcquireRead u.shared own =
          .refuse u.shared own .noSuchOperation := rfl
      rw [hstart, Turn.refuse, settle_failed, ← hs, put_self] at hstep
      rw [ticketAfter_quiet (not_opens (by rw [hstep])) (drawn?_start hs)
        (by rw [hstep]; exact id), hstep]
      exact hb

theorem hasTicket_self (ht : Tallied u q) (hn : n < 0x80000000) (hp : u.permits t action = true)
    (hb : HasTicket u t ticket) :
    HasTicket (u.step clusterTicket t action).1 t (ticketAfter u t action ticket) := by
  obtain ⟨cause, hr, he⟩ | ⟨entry, rfl, hs⟩ | ⟨own, rfl, hs⟩ | ⟨own, command, rfl, hs⟩ |
    ⟨own, point, rfl, hs⟩ := step_cases clusterTicket u t action
  · rw [ticketAfter_quiet (not_opens (by rw [he])) (drawn?_refused hr) (by rw [he]; exact id), he]
    exact hb
  · have hf := not_holds_vacant h.holder_idle hs
    have hdrawn : drawn? u t (.join entry) = none := by simp only [drawn?, hs]
    have hjoin : u.step clusterTicket t (.join entry) = _ := step_join_ok clusterTicket hs rfl
    have hnone : ticket = none := by simpa [HasTicket, Bears, hs] using hb
    rw [ticketAfter_quiet (not_opens (by rw [hjoin]; rfl)) hdrawn (by simp [hf]), hjoin,
      hasTicket_put, hnone, hf]
    rfl
  · have hf : u.holds t = false := by simpa [permits] using hp
    have hdrawn : drawn? u t .leave = none := by simp only [drawn?, hs]
    have hleave := Usage.step_leave clusterTicket hs rfl
    have hnone : ticket = none := by simpa [HasTicket, Bears, hs, hf] using hb
    rw [ticketAfter_quiet (not_opens (by rw [hleave]; rfl)) hdrawn (by simp [hf]), hleave,
      hasTicket_put, hnone]
    rfl
  · exact h.hasTicket_start hn hs hp hb
  · obtain ⟨-, q', hchange⟩ := h.changes hn hp
    have hbatch := hchange.batch_eq h
    have hstep : u.step clusterTicket t .resume = _ := step_resume hs
    refine (h.leaves_resume ht hn hs hb).hasTicket hstep (h.not_holds hs)
      (h.turns_resume hs hn).not_took ?_
    rwa [hstep] at hbatch

end Self

theorem front_of_holds (h : Ordered u q) (hr : roles u c s = some .holds) :
    q.front c = some s := by
  obtain ⟨own, hs, hh, rfl, hv⟩ := role_eq_holds.mp hr
  exact (h.holder_leads hs hh hv).1

theorem cur_of_advance (h : Ordered u q) (ha : Advance t (u, q) (u', q')) (hst : s ≠ t)
    (hr : roles u c s = some .holds) :
    u'.shared.cur c = u.shared.cur c ∧ roles u' c s = some .holds := by
  cases ha with
  | @ask _ _ _ _ own _ _ _ ha _ hu _ _ =>
    subst hu
    rw [roles_put, Function.update_of_ne hst]
    refine ⟨?_, hr⟩
    by_cases hd : c = own.cluster
    · subst hd
      exact cur_lower (h.cluster_lt t own (h.draws ha).2.2.1)
    · exact cur_congr (counters_lower_of_ne hd)
  | @openBatch _ _ _ _ own _ hclosed hu _ _ =>
    subst hu
    have hd : c ≠ own.cluster := by
      rintro rfl
      rw [h.front_of_holds hr] at hclosed
      cases hclosed
    rw [roles_put, Function.update_of_ne hst]
    exact ⟨cur_congr (counters_openBatch_of_ne hd), hr⟩
  | grant _ _ _ hu _ =>
    subst hu
    rw [roles_put, Function.update_of_ne hst]
    exact ⟨rfl, hr⟩

/-- While a thread holds the lock on behalf of a cluster, nobody else changes what is served
there. -/
theorem cur_of_holds (h : Ordered u q) (hc : Change t (u, q) answer (u', q')) (hst : s ≠ t)
    (hr : roles u c s = some .holds) : u'.shared.cur c = u.shared.cur c := by
  have hother {own : Own} (hs : u.seat t = .idle own) (hh : u.holds t = true)
      (hv : own.viaTry = false) : c ≠ own.cluster := by
    rintro rfl
    have hfront := h.front_of_holds hr
    rw [(h.holder_leads hs hh hv).1] at hfront
    exact hst (Option.some.inj hfront).symm
  cases hc with
  | advance ha _ _ =>
    refine (ha.induction (P := fun u' _ => u'.shared.cur c = u.shared.cur c ∧
      roles u' c s = some .holds) ?_ h ⟨rfl, hr⟩).1
    intro u₁ q₁ u₂ q₂ h₁ ⟨hcur, hr₁⟩ ha
    obtain ⟨hcur', hr₂⟩ := h₁.cur_of_advance ha hst hr₁
    exact ⟨hcur'.trans hcur, hr₂⟩
  | join _ _ hu _ | leave _ _ hu _ =>
    subst hu
    rfl
  | attempt _ _ _ hu _ _ | letGo _ _ hu _ _ =>
    subst hu
    exact cur_congr (counters_setGlobal ..)
  | close hs hh hv hu _ _ =>
    subst hu
    exact cur_congr (counters_closeBatch_of_ne (hother hs hh hv) _)
  | pass hs hh hv _ hu _ _ =>
    subst hu
    exact cur_congr (counters_pass_of_ne (hother hs hh hv))

end Ordered

theorem HasTicket.other (hb : HasTicket u s ticket) (hseat : u'.seat s = u.seat s)
    (hholds : u'.holds s = u.holds s) (hbatch : u'.shared.batch = u.shared.batch)
    (hcur : ∀ c, roles u c s = some .holds → u'.shared.cur c = u.shared.cur c) :
    HasTicket u' s ticket := by
  rw [HasTicket] at hb ⊢
  rw [hseat, hholds]
  cases hs : u.seat s with
  | vacant => rwa [hs] at hb
  | idle own =>
    rw [hs] at hb
    by_cases hh : u.holds s = true ∧ own.viaTry = false
    · have hr : roles u own.cluster s = some .holds := roles_holder hs hh.1 hh.2
      simpa only [Bears, hh, hcur _ hr] using hb
    · simpa only [Bears, if_neg hh] using hb
  | waiting own point =>
    rw [hs] at hb
    cases point with
    | served | closed | opened => exact hb
    | called => simpa only [Bears, hbatch] using hb

end SpinLocks.ClusterTicket
