import SpinLocks.Proofs.Mcs.Alike
import SpinLocks.Proofs.Mcs.Handover

namespace SpinLocks.Mcs

open Shared Usage

variable {n : Nat} {u u' : Threads n} {line rest : List (Fin n)} {s t : Fin n} {own : Own}
  {action : Action Entry Command}

def Attempts (u : Threads n) (t : Fin n) (action : Action Entry Command) : Prop :=
  u.permits t action = true ∨ action = .start .tryAcquire

def Pressed (u : Threads n) (t : Fin n) : Prop :=
  u.holds t = true ∧ ∃ s, u.waits s = true

def Considerate (u : Threads n) (t : Fin n) (action : Action Entry Command) : Prop :=
  u.permits t action = true ∨ action = .start .tryAcquire ∧ ¬ Pressed u t

instance Considerate.decidable (u : Threads n) (t : Fin n) (action : Action Entry Command) :
    Decidable (Considerate u t action) :=
  inferInstanceAs (Decidable (_ ∨ _ ∧ ¬ (_ ∧ _)))

/-- Each answer, and whether the lock is reported free after it. -/
def results (u : Threads n) : Schedule n → List (Answer Reply × Bool)
  | [] => []
  | (t, action) :: rest =>
    let (u, answer) := u.step mcs t action
    (answer, mcs.isFree u.shared) :: results u rest

/-- Nothing that follows an attempt of the thread tells whether the attempt was made. -/
structure Unseen (u : Threads n) (t : Fin n) : Prop where
  isFree_eq : mcs.isFree (u.step mcs t (.start .tryAcquire)).1.shared = mcs.isFree u.shared
  results_eq : ∀ schedule, u.Along mcs Attempts schedule →
    results (u.step mcs t (.start .tryAcquire)).1 schedule = results u schedule

/-- Nobody will ever get the lock, or be done with giving it back. -/
def Stuck (u : Threads n) : Prop :=
  ∀ schedule : Schedule n, (∀ step ∈ schedule, step.2 = .resume) →
    .done .done ∉ (u.run mcs schedule).2

theorem stuck_of_resume (h : ∀ t, (u.step mcs t .resume).1 = u ∧
    (u.step mcs t .resume).2 ≠ .done .done) : Stuck u := by
  intro schedule hresume
  induction schedule with
  | nil => simp [run]
  | cons step rest ih =>
    obtain ⟨t, action⟩ := step
    obtain ⟨rfl, hrest⟩ : action = .resume ∧ ∀ step ∈ rest, step.2 = .resume :=
      List.forall_mem_cons.mp hresume
    obtain ⟨hsame, hne⟩ := h t
    simp only [run, hsame, List.mem_cons, not_or]
    exact ⟨Ne.symm hne, ih hrest⟩

theorem Alike.isFree_eq (h : Alike u u') : mcs.isFree u'.shared = mcs.isFree u.shared :=
  congrArg Option.isNone h.agree.tail_eq

theorem Alike.results_eq (h : Alike u u') {schedule : Schedule n}
    (ha : u.Along mcs Attempts schedule) : results u' schedule = results u schedule := by
  induction schedule generalizing u u' with
  | nil => rfl
  | cons step rest ih =>
    obtain ⟨t, action⟩ := step
    obtain ⟨h', he⟩ := h.step ha.1
    simp only [results, he, h'.isFree_eq, ih h' ha.2]

/-- An attempt that fails makes the node of the thread ready for the queue, and does nothing else.
-/
theorem Queued.step_attempt (h : Queued u line) (hs : u.seat t = .idle own) (hl : line ≠ []) :
    u.step mcs t (.start .tryAcquire) =
      (u.put t (u.shared.prepare own.node) (.idle own) (u.holds t), .done (.took false)) := by
  have htail : ¬ u.shared.tail.isNone = true := by
    rw [Option.isNone_iff_eq_none, h.tail_eq_none_iff]
    exact hl
  have hturn : mcs.start .tryAcquire u.shared own = tryAcquire u.shared own := rfl
  rw [step_start hs, hturn, tryAcquire_eq (h.lt (own?_of_idle hs)), if_neg htail, settle_took,
    Bool.xor_false]
  rfl

theorem Queued.line_eq_single (h : Queued u line) (hh : u.holds t = true) (hn : ¬ Pressed u t) :
    line = [t] := by
  obtain ⟨rest, rfl⟩ := h.holder_first t hh
  cases rest with
  | nil => rfl
  | cons s rest =>
    obtain hs | hw := (h.engaged_iff s).mpr (by simp)
    · obtain ⟨rest', he⟩ := h.holder_first s hs
      obtain ⟨rfl, -⟩ := List.cons.inj he
      exact absurd h.nodup (by simp)
    · exact absurd ⟨hh, s, hw⟩ hn

/-- The node of the holder that stands in line alone was ready for the queue but for its flag, which
nobody reads. -/
theorem Queued.prepare_holder (h : Queued u [t]) (hs : u.seat t = .idle own) :
    Queued (u.put t (u.shared.prepare own.node) (.idle own) true) [t] := by
  have ho := own?_of_idle hs
  have htail : u.shared.tail = some own.node := h.tail_eq.trans (nodeOf_of_own? ho)
  obtain ⟨node, hnode⟩ := Arena.exists_node? (h.lt ho)
  have hqueued : Function.update (cell u) t ((cell u t).map fun _ => .queued) t = some .queued := by
    rw [Function.update_self, cell_of_own? ho, hnode]
    rfl
  refine h.put ho rfl h.toLined.grant (fun j => Arena.isClaimed_modify ..) (fun _ => ⟨own, rfl⟩)
    (by simp) (h.cell_put (f := fun _ => .queued) ho rfl (nodeOf_of_own? ho) rfl) ?_ ?_
  · have hlinked : Linked (some own.node) _ _ _ := .single (nodeOf_of_own? ho) hqueued
    rwa [← htail] at hlinked
  · intro s hhead hw
    obtain rfl : t = s := by simpa using hhead
    simp [waits_put, Seat.waits] at hw

theorem Queued.step_considerate (h : Queued u line) (ha : Considerate u t action) :
    ∃ line', Queued (u.step mcs t action).1 line' := by
  obtain hp | ⟨rfl, hn⟩ := ha
  · exact (h.step hp).1.imp fun _ h => h.1
  · cases hh : u.holds t with
    | false => exact (h.step (by simp [permits, Command.givesBack, hh])).1.imp fun _ h => h.1
    | true =>
      obtain ⟨own, hs⟩ := h.holder_idle t hh
      obtain rfl := h.line_eq_single hh hn
      rw [h.step_attempt hs (by simp), hh]
      exact ⟨[t], h.prepare_holder hs⟩

theorem Queued.alike_attempt (h : Queued u line) (hs : u.seat t = .idle own) (hl : line ≠ [])
    (hn : ¬ Pressed u t) : Alike u (u.step mcs t (.start .tryAcquire)).1 := by
  have ho := own?_of_idle hs
  rw [h.step_attempt hs hl]
  refine ⟨?_, ?_, fun s => not_holds_vacant h.holder_idle, .of_modify ?_ ?_⟩
  · intro s
    rw [seat_put]
    split
    · next hst => rw [hst, hs]
    · rfl
  · funext s
    rw [holds_put]
    split
    · next hst => rw [hst]
    · rfl
  · rintro ⟨s, he, hk⟩ node hnode
    obtain rfl := h.nodeOf_inj hk (nodeOf_of_own? ho)
    have hh : u.holds s = true := by
      by_contra hf
      exact not_engaged_idle hs (by simpa using hf) he
    obtain rfl := h.line_eq_single hh hn
    have hnext : next (cell u s) = none := h.links.2
    rw [cell_of_own? ho, hnode] at hnext
    exact hnext.symm
  · rintro ⟨s, own', hs', hk⟩
    obtain rfl := h.inj s t own' own (own?_of_waiting hs') ho hk
    cases hs'.symm.trans hs

theorem node?_prepare {shared : Shared} {k : Nat} (h : k < shared.nodes.size) :
    (shared.prepare k).nodes.node? k = some .queued := by
  obtain ⟨node, hnode⟩ := Arena.exists_node? h
  simp [Shared.prepare, Arena.node?_modify, hnode]

section Pressed

variable (h : Queued u line) (hs : u.seat t = .idle own) (hpressed : Pressed u t)
include h

include hpressed in
theorem Queued.line_of_pressed : ∃ s rest, line = t :: s :: rest := by
  obtain ⟨hh, s, hw⟩ := hpressed
  obtain ⟨rest, rfl⟩ := h.holder_first t hh
  cases rest with
  | nil =>
    obtain rfl : s = t := List.mem_singleton.mp ((h.engaged_iff s).mp (.inr hw))
    simp [h.waits_holds s hw] at hh
  | cons s rest => exact ⟨s, rest, rfl⟩

include hs hpressed

theorem Queued.tail_ne : u.shared.tail ≠ some own.node := by
  obtain ⟨s, rest, rfl⟩ := h.line_of_pressed hpressed
  obtain ⟨pre, last, hl⟩ := (s :: rest).eq_nil_or_concat'.resolve_left (by simp)
  have hlast : last ∈ s :: rest := by simp [hl]
  rw [hl, ← List.cons_append] at h
  obtain ⟨own', ho', htail⟩ := h.tail_append
  intro he
  have hnode : own'.node = own.node := Option.some.inj (htail.symm.trans he)
  obtain rfl := h.inj last t own' own ho' (own?_of_idle hs) hnode
  rw [List.cons_append, ← hl] at h
  exact (List.nodup_cons.mp h.nodup).1 hlast

/-- The holder waits to be told by which node its own is followed. -/
theorem Queued.release_attempted :
    (u.step mcs t (.start .tryAcquire)).1.step mcs t (.start .release) =
      (u.put t (u.shared.prepare own.node) (.waiting own .successor) true, .waiting) := by
  obtain ⟨s, rest, rfl⟩ := h.line_of_pressed hpressed
  have hnode := node?_prepare (h.lt (own?_of_idle hs))
  have hrelease : mcs.start .release (u.put t (u.shared.prepare own.node) (.idle own) true).shared
      own = ⟨u.shared.prepare own.node, own, .waiting .successor⟩ := by
    show release (u.shared.prepare own.node) own = _
    rw [release_of_ne hnode fun _ => h.tail_ne hs hpressed, awaitSuccessor_of_none hnode rfl]
  rw [h.step_attempt hs (by simp), hpressed.1, step_start (seat_put_self ..), hrelease,
    settle_waiting, put_put, holds_put_self]
  rfl

/-- The links behind the holder are whole, but nobody follows them any more. -/
theorem Queued.stuck_attempted :
    Stuck ((u.step mcs t (.start .tryAcquire)).1.step mcs t (.start .release)).1 := by
  obtain ⟨a, rest, rfl⟩ := h.line_of_pressed hpressed
  have ho := own?_of_idle hs
  rw [h.release_attempted hs hpressed]
  refine stuck_of_resume fun s => ?_
  obtain ⟨cause, -, he⟩ | ⟨entry, he, -⟩ | ⟨own', he, -⟩ | ⟨own', command, he, -⟩ |
    ⟨own', point, -, hs'⟩ := step_cases mcs
      (u.put t (u.shared.prepare own.node) (.waiting own .successor) true) s .resume
  · rw [he]
    exact ⟨rfl, by simp [Answer.refused]⟩
  · cases he
  · cases he
  · cases he
  · have hturn : mcs.resume point
        (u.put t (u.shared.prepare own.node) (.waiting own .successor) true).shared own' =
          ⟨u.shared.prepare own.node, own', .waiting point⟩ := by
      rw [seat_put] at hs'
      split at hs'
      · cases hs'
        exact awaitSuccessor_of_none (node?_prepare (h.lt ho)) rfl
      · next hst =>
        obtain rfl := h.point_eq s own' point hs'
        have ho' := own?_of_waiting hs'
        obtain ⟨node, hnode⟩ := Arena.exists_node? (h.lt ho')
        have hwaiting : node.waiting = true := by
          have he := h.waiting_eq (waits_iff.mpr ⟨own', _, hs'⟩)
          rw [cell_of_own? ho', hnode] at he
          simpa [Ne.symm hst] using he
        have hne : own.node ≠ own'.node := fun he => hst (h.inj s t own' own ho' ho he.symm)
        have hprepared : (u.shared.prepare own.node).nodes.node? own'.node = some node := by
          simp [Shared.prepare, Arena.node?_modify, hne, hnode]
        exact (awaitGrant_eq hprepared).trans (if_pos hwaiting)
    rw [step_resume hs', hturn]
    exact ⟨settle_self hs', by simp [Turn.answer]⟩

end Pressed

/-- A failed attempt is seen exactly where the holder makes it while somebody waits. -/
theorem Queued.unseen_iff (h : Queued u line) (hs : u.seat t = .idle own) (hl : line ≠ []) :
    Unseen u t ↔ ¬ Pressed u t := by
  constructor
  · intro hu hpressed
    have hpermits : u.Along mcs Attempts [(t, .start .release)] :=
      ⟨.inl (by simp [permits, Command.givesBack, hpressed.1]), trivial⟩
    have hdone : (u.step mcs t (.start .release)).2 = .done .done := h.release_done hpressed.1 rfl
    have he := hu.results_eq [(t, .start .release)] hpermits
    simp only [results, h.release_attempted hs hpressed, hdone] at he
    cases he
  · intro hn
    have hsame := h.alike_attempt hs hl hn
    exact ⟨hsame.isFree_eq, fun _ => hsame.results_eq⟩

variable {config : Config} {schedule : Schedule n}

theorem queued_considerate (ha : (opening mcs config n).Along mcs Considerate schedule) :
    ∃ line, Queued ((opening mcs config n).run mcs schedule).1 line :=
  (run_induction (fun u => ∃ line, Queued u line) (fun _ => True)
    (fun _ _ _ ⟨_, h⟩ ha => ⟨h.step_considerate ha, trivial⟩) ⟨[], queued_opening config n⟩ ha).1

/-- An attempt that fails has no consequence, unless the holder makes it while somebody waits: then
the lock is lost when the holder gives it back. -/
theorem unseen_run (ha : (opening mcs config n).Along mcs Considerate schedule) :
    let u := ((opening mcs config n).run mcs schedule).1
    ∀ t own, u.seat t = .idle own → (u.step mcs t (.start .tryAcquire)).2 = .done (.took false) →
      (Unseen u t ↔ ¬ Pressed u t) ∧
        (Pressed u t →
          Stuck ((u.step mcs t (.start .tryAcquire)).1.step mcs t (.start .release)).1) := by
  intro u t own hs hfailed
  obtain ⟨line, h⟩ := queued_considerate ha
  have hl : line ≠ [] := by
    rintro rfl
    have hturn : mcs.start .tryAcquire u.shared own = _ := tryAcquire_eq (h.lt (own?_of_idle hs))
    rw [if_pos (Option.isNone_iff_eq_none.mpr h.tail_eq)] at hturn
    rw [step_start hs, hturn] at hfailed
    cases hfailed
  exact ⟨h.unseen_iff hs hl, fun hpressed => h.stuck_attempted hs hpressed⟩

/-- The first thread attempts the lock while it holds it, and again when it has let the second go,
which has not taken the lock yet. -/
theorem unseen_after_release :
    let schedule : Schedule 2 :=
      [(0, .join ⟨.pair, 0⟩), (1, .join ⟨.pair, 1⟩), (0, .start .acquire), (0, .start .tryAcquire),
        (1, .start .acquire), (0, .start .release)]
    let u := ((opening mcs .pair 2).run mcs schedule).1
    (opening mcs .pair 2).Along mcs Considerate schedule ∧ u.seat 0 = .idle ⟨0⟩ ∧
      (u.step mcs 0 (.start .tryAcquire)).2 = .done (.took false) ∧ u.waits 1 = true ∧
      Unseen u 0 := by
  intro schedule u
  have ha : (opening mcs .pair 2).Along mcs Considerate schedule := by decide
  have hs : u.seat 0 = .idle ⟨0⟩ := by decide
  have hfailed : (u.step mcs 0 (.start .tryAcquire)).2 = .done (.took false) := by decide
  have hn : ¬ Pressed u 0 := fun hpressed => absurd hpressed.1 (by decide)
  exact ⟨ha, hs, hfailed, by decide, (unseen_run ha 0 ⟨0⟩ hs hfailed).1.mpr hn⟩

/-- The first thread holds the lock and the second waits for it. After an attempt of the first,
which fails, it cannot give the lock back, and the second waits for good. -/
theorem unseen_misleads :
    let schedule : Schedule 2 :=
      [(0, .join ⟨.pair, 0⟩), (1, .join ⟨.pair, 1⟩), (0, .start .acquire), (1, .start .acquire)]
    let u := ((opening mcs .pair 2).run mcs schedule).1
    let attempted := u.step mcs 0 (.start .tryAcquire)
    let released := attempted.1.step mcs 0 (.start .release)
    (opening mcs .pair 2).Proper mcs schedule ∧ u.holds 0 = true ∧ u.waits 1 = true ∧
      attempted.2 = .done (.took false) ∧
      (u.step mcs 0 (.start .release)).2 = .done .done ∧
      ((u.step mcs 0 (.start .release)).1.step mcs 1 .resume).2 = .done .done ∧
      released.2 = .waiting ∧ Stuck released.1 := by
  intro schedule u attempted released
  have ha : (opening mcs .pair 2).Along mcs Considerate schedule := by decide
  have hs : u.seat 0 = .idle ⟨0⟩ := by decide
  obtain ⟨line, h⟩ := queued_considerate ha
  exact ⟨by decide, by decide, by decide, by decide, by decide, by decide, by decide,
    h.stuck_attempted hs ⟨by decide, 1, by decide⟩⟩

end SpinLocks.Mcs
