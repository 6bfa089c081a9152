import Mathlib.Data.List.Basic
import SpinLocks.Proofs.Mcs.Moves

namespace SpinLocks.Mcs

open Usage

variable {n : Nat} {u : Threads n} {line rest : List (Fin n)} {s t : Fin n} {own : Own}
  {point : Wait} {action : Action Entry Command}

/-- The tail names the node of the last of the line. -/
theorem Queued.tail_append (h : Queued u (line ++ [s])) :
    ∃ own, u.own? s = some own ∧ u.shared.tail = some own.node := by
  obtain ⟨own, ho⟩ := h.exists_own h.holder_idle (t := s) (by simp)
  have htail := h.tail_eq
  rw [List.getLast?_concat, Option.bind_some, nodeOf_of_own? ho] at htail
  exact ⟨own, ho, htail⟩

theorem Queued.tail_eq_none_iff (h : Queued u line) : u.shared.tail = none ↔ line = [] := by
  constructor
  · intro hnone
    obtain rfl | ⟨pre, s, rfl⟩ := line.eq_nil_or_concat'
    · rfl
    · obtain ⟨own, -, htail⟩ := h.tail_append
      cases hnone.symm.trans htail
  · rintro rfl
    exact h.tail_eq

theorem Queued.settle_acquire (h : Queued u line) (hs : u.seat t = .idle own)
    (hf : u.holds t = false) :
    Queued (u.settle t (acquire u.shared own)) (line ++ [t]) ∧
      (acquire u.shared own).answer.faults = false := by
  have hlt := h.lt (own?_of_idle hs)
  obtain rfl | ⟨pre, s, rfl⟩ := line.eq_nil_or_concat'
  · rw [acquire_of_none hlt h.tail_eq, settle_done, hf]
    exact ⟨h.enter hs, rfl⟩
  · obtain ⟨last, ho, htail⟩ := h.tail_append
    have hne : last.node ≠ own.node := by
      intro he
      have hst := h.inj s t last own ho (own?_of_idle hs) he
      exact h.not_mem_idle hs hf (by simp [hst])
    rw [acquire_of_some hlt htail (h.lt ho) hne, settle_waiting, hf]
    exact ⟨h.wait hs hf rfl (nodeOf_of_own? ho), rfl⟩

theorem Queued.settle_attempt (h : Queued u line) (hs : u.seat t = .idle own)
    (hf : u.holds t = false) :
    (∃ line', Queued (u.settle t (tryAcquire u.shared own)) line' ∧ Moves u t line line') ∧
      (tryAcquire u.shared own).answer.faults = false := by
  rw [tryAcquire_eq (h.lt (own?_of_idle hs))]
  split
  · next htail =>
    obtain rfl := h.tail_eq_none_iff.mp (Option.isNone_iff_eq_none.mp htail)
    rw [settle_took, hf]
    exact ⟨⟨[t], h.enter hs, .inr (.inl rfl)⟩, rfl⟩
  · rw [settle_took, hf]
    exact ⟨⟨line, h.prepare hs hf, .inl rfl⟩, rfl⟩

/-- Whoever gives the lock back finds the node of the next thread, where there is one. -/
theorem Queued.settle_release (h : Queued u (t :: rest)) (hs : u.seat t = .idle own)
    (hh : u.holds t = true) :
    Queued (u.settle t (release u.shared own)) rest ∧
      (release u.shared own).answer = .done .done := by
  have ho := own?_of_idle hs
  obtain ⟨node, hnode⟩ := Arena.exists_node? (h.lt ho)
  have hnext : node.next = next (cell u t) := by
    rw [cell_of_own? ho, hnode]
    rfl
  cases rest with
  | nil =>
    have htail : u.shared.tail = some own.node := h.tail_eq.trans (nodeOf_of_own? ho)
    rw [release_of_none hnode (hnext.trans h.links.2) htail, settle_done, hh]
    exact ⟨h.empty hs, rfl⟩
  | cons s rest =>
    obtain ⟨own', ho'⟩ := h.exists_own h.holder_idle (t := s) (by simp)
    have hk := nodeOf_of_own? ho'
    have hlink : node.next = some own'.node := (hnext.trans h.links.2.1.symm).trans hk
    rw [release_of_some hnode hlink (h.lt ho'), settle_done, hh]
    exact ⟨h.pass hs hk, rfl⟩

theorem Queued.waiting_eq (h : Queued u line) (hw : u.waits t = true) :
    (cell u t).map Node.waiting = some (decide (line.head? ≠ some t)) := by
  have hm := (h.engaged_iff t).mp (.inr hw)
  by_cases hhead : line.head? = some t
  · simp [hhead, h.first t hhead hw]
  · cases line with
    | nil => cases hm
    | cons s rest =>
      obtain rfl | hm := List.mem_cons.mp hm
      · exact absurd rfl hhead
      · rw [h.waiting t hm, decide_eq_true hhead]

theorem Queued.settle_resume (h : Queued u line) (hs : u.seat t = .waiting own point) :
    Queued (u.settle t (resume point u.shared own)) line ∧
      (resume point u.shared own).answer =
        if line.head? = some t then .done .done else .waiting := by
  obtain rfl := h.point_eq t own point hs
  have hw := waits_iff.mpr ⟨own, Wait.grant, hs⟩
  have ho := own?_of_waiting hs
  obtain ⟨node, hnode⟩ := Arena.exists_node? (h.lt ho)
  have hwaiting : node.waiting = decide (line.head? ≠ some t) := by
    have he := h.waiting_eq hw
    rw [cell_of_own? ho, hnode] at he
    exact Option.some.inj he
  rw [show resume Wait.grant u.shared own = awaitGrant u.shared own from rfl, awaitGrant_eq hnode,
    hwaiting]
  by_cases hhead : line.head? = some t
  · obtain ⟨rest, rfl⟩ : ∃ rest, line = t :: rest := List.head?_eq_some_iff.mp hhead
    rw [if_neg (by simp), if_pos hhead, settle_done, h.waits_holds t hw]
    exact ⟨h.grant hs, rfl⟩
  · rw [if_pos (by simpa using hhead), if_neg hhead, settle_self hs]
    exact ⟨h, rfl⟩

theorem Queued.step_join (h : Queued u line) (hs : u.seat t = .vacant) (entry : Entry) :
    Queued (u.step mcs t (.join entry)).1 line ∧
      (u.step mcs t (.join entry)).2.faults = false := by
  have hf := not_holds_vacant h.holder_idle hs
  cases hc : u.shared.nodes.claim? with
  | none =>
    rw [step_join_error mcs hs (join_none hc entry), ← hs, put_self]
    exact ⟨h, rfl⟩
  | some found =>
    obtain ⟨k, nodes⟩ := found
    obtain ⟨hk, hfree, rfl⟩ := Arena.isClaimed_of_claim? hc
    rw [step_join_ok mcs hs (join_some hc entry), hf]
    exact ⟨h.join hs hk hfree, rfl⟩

theorem Queued.step (h : Queued u line) (hp : u.permits t action = true) :
    (∃ line', Queued (u.step mcs t action).1 line' ∧ Moves u t line line') ∧
      (u.step mcs t action).2.faults = false := by
  obtain ⟨cause, -, he⟩ | ⟨entry, rfl, hs⟩ | ⟨own, rfl, hs⟩ | ⟨own, command, rfl, hs⟩ |
    ⟨own, point, rfl, hs⟩ := step_cases mcs u t action
  · rw [he]
    exact ⟨⟨line, h, .inl rfl⟩, rfl⟩
  · obtain ⟨h', hfaults⟩ := h.step_join hs entry
    exact ⟨⟨line, h', .inl rfl⟩, hfaults⟩
  · have hf : u.holds t = false := by simpa [permits] using hp
    rw [step_leave mcs hs (leave_eq (h.lt (own?_of_idle hs))), hf]
    exact ⟨⟨line, h.leave hs hf, .inl rfl⟩, rfl⟩
  · obtain ⟨hh, he⟩ | ⟨hh, ⟨-, he⟩ | ⟨-, he⟩ | he⟩ := start_cases mcs hs rfl hp
    · obtain ⟨rest, rfl⟩ := h.holder_first t hh
      obtain ⟨h', hdone⟩ := h.settle_release hs hh
      rw [he]
      exact ⟨⟨rest, h', .inr (.inr ⟨hh, rfl⟩)⟩, by rw [hdone]; rfl⟩
    · obtain ⟨h', hfaults⟩ := h.settle_acquire hs hh
      rw [he]
      exact ⟨⟨line ++ [t], h', .inr (.inl rfl)⟩, hfaults⟩
    · rw [he]
      exact h.settle_attempt hs hh
    · rw [he]
      exact ⟨⟨line, h, .inl rfl⟩, rfl⟩
  · obtain ⟨h', he⟩ := h.settle_resume hs
    rw [step_resume hs]
    refine ⟨⟨line, h', .inl rfl⟩, ?_⟩
    show (resume point u.shared own).answer.faults = false
    rw [he]
    split <;> rfl

end SpinLocks.Mcs
