import SpinLocks.Proofs.Clh.Queue

namespace SpinLocks.Clh

open Shared Usage

variable {n : Nat} {u : Threads n} {spare : Nat} {line rest : List (Fin n)} {t : Fin n} {own : Own}
  {point : Wait} {action : Action Entry Command}

namespace Queued

theorem settle_acquire (h : Queued u spare line) (hs : u.seat t = .idle own)
    (hf : u.holds t = false) :
    Queued (u.settle t (acquire u.shared own)) spare (line ++ [t]) ∧
      (acquire u.shared own).answer.faults = false := by
  obtain ⟨k, hk⟩ := h.exists_node t own (own?_of_idle hs)
  have hnode : node u t = some k := (node_of_own? (own?_of_idle hs)).trans hk
  rw [acquire_eq hk (h.node_lt hnode)]
  -- the node to wait for is the spare one, or that of the last in line
  obtain ⟨rfl, htail⟩ | ⟨s, hm, j, hj, htail⟩ := h.tail_cases
  · have hidle : (u.shared.enqueue k).nodes.node? spare = some false :=
      (node?_enqueue_of_ne (h.node_ne_spare hnode).symm).trans h.spare_idle
    rw [await_eq htail hidle, if_neg Bool.false_ne_true, settle_done, hf]
    exact ⟨h.enqueue hs hf hk rfl rfl (fun _ => rfl) fun _ => ⟨_, rfl⟩, rfl⟩
  · have hbusy : (u.shared.enqueue k).nodes.node? j = some true :=
      (node?_enqueue_of_ne (h.node_ne hnode (h.not_mem_idle hs hf) hm hj)).trans (h.busy s hm j hj)
    rw [await_eq htail hbusy, if_pos rfl, settle_waiting, hf]
    exact ⟨h.enqueue hs hf hk rfl rfl (by simp) (by simp), rfl⟩

theorem settle_release (h : Queued u spare (t :: rest)) (hs : u.seat t = .idle own)
    (hh : u.holds t = true) :
    (∃ k, Queued (u.settle t (release u.shared own)) k rest) ∧
      (release u.shared own).answer = .done .done := by
  obtain ⟨k, hk⟩ := h.exists_node t own (own?_of_idle hs)
  have hnode : node u t = some k := (node_of_own? (own?_of_idle hs)).trans hk
  rw [release_eq hk (h.node_lt hnode), settle_done, hh]
  exact ⟨⟨k, h.pass hs hk⟩, rfl⟩

theorem settle_resume (h : Queued u spare line) (hs : u.seat t = .waiting own point) :
    Queued (u.settle t (resume point u.shared own)) spare line ∧
      (resume point u.shared own).answer =
        if line.head? = some t then .done .done else .waiting := by
  cases point
  have hw := waits_iff.mpr ⟨own, Wait.pred, hs⟩
  have hahead := ahead_of_own? (own?_of_waiting hs)
  rw [show resume Wait.pred u.shared own = await u.shared own from rfl]
  by_cases hhead : line.head? = some t
  · obtain ⟨rest, rfl⟩ := List.head?_eq_some_iff.mp hhead
    rw [await_eq (hahead.symm.trans h.ahead_first) h.spare_idle, if_neg Bool.false_ne_true,
      if_pos hhead, settle_done, h.waits_holds t hw]
    exact ⟨h.grant hs, rfl⟩
  · obtain ⟨k, hk, hbusy⟩ := h.ahead_busy ((h.engaged_iff t).mp (.inr hw)) hhead
    rw [await_eq (hahead.symm.trans hk) hbusy, if_pos rfl, if_neg hhead, settle_self hs]
    exact ⟨h, rfl⟩

theorem step_join (h : Queued u spare line) (hs : u.seat t = .vacant) (entry : Entry) :
    Queued (u.step clh t (.join entry)).1 spare line ∧
      (u.step clh t (.join entry)).2.faults = false := by
  cases hc : u.shared.nodes.claim? with
  | none =>
    rw [step_join_error clh hs (join_none hc entry), ← hs, put_self]
    exact ⟨h, rfl⟩
  | some found =>
    obtain ⟨k, nodes⟩ := found
    obtain ⟨hk, hfree, rfl⟩ := Arena.isClaimed_of_claim? hc
    rw [step_join_ok clh hs (join_some hc entry), not_holds_vacant h.holder_idle hs]
    exact ⟨h.join hs hk hfree, rfl⟩

theorem step_leave (h : Queued u spare line) (hs : u.seat t = .idle own) (hf : u.holds t = false) :
    Queued (u.step clh t .leave).1 spare line ∧ (u.step clh t .leave).2.faults = false := by
  obtain ⟨k, hk⟩ := h.exists_node t own (own?_of_idle hs)
  have hnode : node u t = some k := (node_of_own? (own?_of_idle hs)).trans hk
  rw [Usage.step_leave clh hs (leave_eq hk (h.node_lt hnode)), hf]
  exact ⟨h.leave hs hf hk, rfl⟩

theorem step_start (h : Queued u spare line) {command : Command} (hs : u.seat t = .idle own)
    (hp : command.givesBack = u.holds t) :
    (∃ spare' line', Queued (u.step clh t (.start command)).1 spare' line' ∧
        Moves u t line line') ∧
      (u.step clh t (.start command)).2.faults = false := by
  cases hh : u.holds t with
  | true =>
    obtain ⟨rest, rfl⟩ := h.holder_first t hh
    obtain ⟨⟨k, h'⟩, he⟩ := h.settle_release hs hh
    rw [step_givesBack hs (hp.trans hh)]
    exact ⟨⟨k, rest, h', .inr (.inr ⟨hh, rfl⟩)⟩, by rw [he]; rfl⟩
  | false =>
    cases hasks : command.asks with
    | true =>
      obtain ⟨h', hfaults⟩ := h.settle_acquire hs hh
      rw [step_asks hs hasks]
      exact ⟨⟨spare, line ++ [t], h', .inr (.inl rfl)⟩, hfaults⟩
    | false =>
      rw [attempt_eq hs (hp.trans hh) hasks]
      exact ⟨⟨spare, line, h, .inl rfl⟩, faults_rejection "clh" command⟩

/-- Each permitted step moves the line on, and none fails a check. -/
theorem step (h : Queued u spare line) (hp : u.permits t action = true) :
    (∃ spare' line', Queued (u.step clh t action).1 spare' line' ∧ Moves u t line line') ∧
      (u.step clh t action).2.faults = false := by
  obtain ⟨cause, -, he⟩ | ⟨entry, rfl, hs⟩ | ⟨own, rfl, hs⟩ | ⟨own, command, rfl, hs⟩ |
    ⟨own, point, rfl, hs⟩ := step_cases clh u t action
  · rw [he]
    exact ⟨⟨spare, line, h, .inl rfl⟩, rfl⟩
  · obtain ⟨h', hfaults⟩ := h.step_join hs entry
    exact ⟨⟨spare, line, h', .inl rfl⟩, hfaults⟩
  · obtain ⟨h', hfaults⟩ := h.step_leave hs (by simpa [permits] using hp)
    exact ⟨⟨spare, line, h', .inl rfl⟩, hfaults⟩
  · exact h.step_start hs (by simpa [permits] using hp)
  · obtain ⟨h', he⟩ := h.settle_resume hs
    rw [step_resume hs]
    refine ⟨⟨spare, line, h', .inl rfl⟩, ?_⟩
    show (resume point u.shared own).answer.faults = false
    rw [he]
    split <;> rfl

theorem inOrder (h : Queued u spare line) : InOrder clh u (queue u line) :=
  h.inOrder_of_resume fun _ _ _ hs => (h.settle_resume hs).2

theorem isFree_iff (h : Queued u spare line) :
    clh.isFree u.shared = true ↔ ∀ t, ¬ u.Engaged t := by
  simp only [h.engaged_iff, ← List.eq_nil_iff_forall_not_mem]
  show u.shared.isFree = true ↔ line = []
  obtain ⟨rfl, htail⟩ | ⟨s, hm, k, hk, htail⟩ := h.tail_cases
  · simp [isFree_eq htail h.spare_idle]
  · simp [isFree_eq htail (h.busy s hm k hk), List.ne_nil_of_mem hm]

theorem enters_iff (h : Queued u spare line) (hp : u.permits t action = true) :
    u.enters clh t action = true ↔
      ∃ own command, u.seat t = .idle own ∧ action = .start command ∧ command.asks = true := by
  constructor
  · intro he
    obtain ⟨own, command, hs, rfl⟩ := exists_start_of_enters he
    refine ⟨own, command, hs, rfl, ?_⟩
    -- all that is left to a thread without the lock is an attempt, which changes nothing
    by_contra hasks
    have hf := not_holds_of_enters he
    have hb : command.givesBack = false := by simpa [permits, hf] using hp
    have hstep := attempt_eq hs hb (by simpa using hasks)
    simp [enters, hstep] at he
  · rintro ⟨own, command, hs, rfl, hasks⟩
    have hb : command.givesBack = false := by cases command <;> first | rfl | cases hasks
    have hf : u.holds t = false := by simpa [permits, hb] using hp
    have h' : Queued (u.step clh t (.start command)).1 spare (line ++ [t]) := by
      rw [step_asks hs hasks]
      exact (h.settle_acquire hs hf).1
    exact h.toLined.enters_enter h'.toLined

end Queued

theorem queued_opening (config : Config) (n : Nat) : Queued (opening clh config n) sentinel [] := by
  have hsize : sentinel < (Arena.replicate (config.maxThreads + 1) false).size := by
    rw [Arena.size_replicate]
    exact Nat.lt_min.mpr ⟨Nat.succ_pos _, by decide⟩
  have hclaimed : ∀ k, (opening clh config n).shared.nodes.isClaimed k = true ↔ sentinel = k := by
    intro k
    show ((Arena.replicate _ _).setClaimed sentinel true).isClaimed k = true ↔ _
    rw [Arena.isClaimed_setClaimed hsize, Arena.isClaimed_replicate]
    simp
  have hnode : ∀ t, node (opening clh config n) t = none := by
    intro t
    rw [node, own?_opening]
    rfl
  exact { Lined.nil (not_engaged_opening clh config n) with
    holder_idle := fun t hh => absurd (.inl hh) (not_engaged_opening clh config n t)
    exists_node := by simp [own?_opening]
    allotted := ⟨by simp [hclaimed, hnode], by simp [hnode], by simp [hnode]⟩
    chain := rfl
    busy := by simp
    spare_idle := by
      show ((Arena.replicate _ _).setClaimed sentinel true).node? sentinel = some false
      rw [Arena.node?_setClaimed, Arena.node?_replicate]
      exact if_pos (by rwa [Arena.size_replicate] at hsize) }

end SpinLocks.Clh
