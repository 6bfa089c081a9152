import SpinLocks.Proofs.Clh.Steps
import SpinLocks.Proofs.Valid

namespace SpinLocks.Clh

open Usage

variable {n : Nat} {u : Threads n} {spare : Nat} {line : List (Fin n)} {t : Fin n}
  {action : Action Entry Command}

/-- Each thread that has joined has a node of its own, and one further node is spare. The threads
that wait do so for nodes of their own, too. -/
structure Migrated (u : Threads n) (waiting : List (Fin n)) (spare : Nat) : Prop where
  exists_node : ∀ t own, u.own? t = some own →
    ∃ k, own.node = some k ∧ k < u.shared.nodes.size ∧ k ≠ spare
  node_inj : ∀ s t own own', u.own? s = some own → u.own? t = some own' → own.node = own'.node →
    s = t
  spare_lt : spare < u.shared.nodes.size
  claimed_iff : ∀ k, u.shared.nodes.isClaimed k = true ↔
    k = spare ∨ ∃ t own, u.own? t = some own ∧ own.node = some k
  parked : (∀ t, ¬ u.Engaged t) → u.shared.tail = some spare
  held_pred : ∀ t own, u.own? t = some own → u.holds t = true → own.pred = some spare
  first_pred : (∀ s, u.holds s = false) → ∀ t own, u.own? t = some own →
    waiting.head? = some t → own.pred = some spare
  exists_pred : ∀ t own, u.own? t = some own → u.waits t = true →
    ∃ k, own.pred = some k ∧ k < u.shared.nodes.size
  pred_inj : ∀ s t own own', u.own? s = some own → u.own? t = some own' → u.waits s = true →
    u.waits t = true → own.pred = own'.pred → s = t

theorem Queued.exists_ahead (h : Queued u spare line) (ht : t ∈ line) :
    ∃ k, ahead u t = some k ∧ k < u.shared.nodes.size := by
  by_cases hhead : line.head? = some t
  · obtain ⟨rest, rfl⟩ := List.head?_eq_some_iff.mp hhead
    exact ⟨spare, h.ahead_first, h.spare_lt⟩
  · obtain ⟨k, hk, hbusy⟩ := h.ahead_busy ht hhead
    refine ⟨k, hk, Nat.lt_of_not_le fun hle => ?_⟩
    rw [Arena.node?_eq_none_iff.mpr hle] at hbusy
    cases hbusy

theorem Queued.migrated (h : Queued u spare line) : Migrated u (queue u line) spare where
  exists_node := by
    intro t own ho
    obtain ⟨k, hk⟩ := h.exists_node t own ho
    have hnode := (node_of_own? ho).trans hk
    exact ⟨k, hk, h.node_lt hnode, h.node_ne_spare hnode⟩
  node_inj := by
    intro s t own own' hs ht he
    obtain ⟨k, hk⟩ := h.exists_node s own hs
    refine h.allotted.inj s t k ((node_of_own? hs).trans hk) ?_
    rw [node_of_own? ht, ← he, hk]
  spare_lt := h.spare_lt
  claimed_iff := by
    intro k
    rw [h.allotted.claimed_iff, Option.some_inj, eq_comm]
    exact or_congr_right (exists_congr fun t => Option.bind_eq_some_iff)
  parked := by
    intro hnone
    obtain ⟨-, htail⟩ | ⟨s, hs, -⟩ := h.tail_cases
    · exact htail
    · exact absurd ((h.engaged_iff s).mpr hs) (hnone s)
  held_pred := by
    intro t own ho hh
    obtain ⟨rest, rfl⟩ := h.holder_first t hh
    exact (ahead_of_own? ho).symm.trans h.ahead_first
  first_pred := by
    intro hf t own ho hhead
    rw [Lined.queue_eq_self hf] at hhead
    obtain ⟨rest, rfl⟩ := List.head?_eq_some_iff.mp hhead
    exact (ahead_of_own? ho).symm.trans h.ahead_first
  exists_pred := by
    intro t own ho hw
    rw [← ahead_of_own? ho]
    exact h.exists_ahead ((h.engaged_iff t).mp (.inr hw))
  pred_inj := by
    intro s t own own' hs ht hws hwt he
    rw [← ahead_of_own? hs, ← ahead_of_own? ht] at he
    exact h.ahead_inj ((h.engaged_iff s).mp (.inr hws)) ((h.engaged_iff t).mp (.inr hwt)) he

theorem claims_step_start (u : Threads n) (t : Fin n) (command : Command) :
    (u.step clh t (.start command)).1.shared.nodes.claims = u.shared.nodes.claims := by
  obtain ⟨cause, -, he⟩ | ⟨_, ⟨⟩, -⟩ | ⟨_, ⟨⟩, -⟩ | ⟨own, _, ⟨⟩, hs⟩ | ⟨_, _, ⟨⟩, -⟩ :=
    step_cases clh u t (.start command)
  · rw [he]
  · rw [step_start hs]
    exact claims_start command u.shared own

theorem claims_step_resume (u : Threads n) (t : Fin n) :
    (u.step clh t .resume).1.shared.nodes.claims = u.shared.nodes.claims := by
  obtain ⟨cause, -, he⟩ | ⟨_, ⟨⟩, -⟩ | ⟨_, ⟨⟩, -⟩ | ⟨_, _, ⟨⟩, -⟩ | ⟨own, point, -, hs⟩ :=
    step_cases clh u t .resume
  · rw [he]
  · rw [step_resume hs]
    exact claims_resume point u.shared own

theorem size_step (u : Threads n) (t : Fin n) (action : Action Entry Command) :
    (u.step clh t action).1.shared.nodes.size = u.shared.nodes.size := by
  obtain ⟨cause, -, he⟩ | ⟨entry, rfl, hs⟩ | ⟨own, rfl, hs⟩ | ⟨own, command, rfl, -⟩ |
    ⟨own, point, rfl, -⟩ := step_cases clh u t action
  · rw [he]
  · rw [shared_step_join clh hs]
    exact size_join entry u.shared
  · rw [shared_step_leave clh hs]
    exact size_leave u.shared own
  · rw [← Arena.length_claims, claims_step_start, Arena.length_claims]
  · rw [← Arena.length_claims, claims_step_resume, Arena.length_claims]

variable {config : Config} {schedule : Schedule n}

/-- All who ask for the lock get it in this order, one at a time, up to those who wait for it now.
A node is claimed for each thread that has joined, and one more, the spare one. -/
theorem migration_run (hp : (opening clh config n).Proper clh schedule) :
    let before := opening clh config n
    let u := (before.run clh schedule).1
    (∃ waiting spare, before.entries clh schedule = before.grants clh schedule ++ waiting ∧
      InOrder clh u waiting ∧ Migrated u waiting spare) ∧
    u.shared.nodes.size = min (config.maxThreads + 1) nilIndex ∧
    (∀ t command, (u.step clh t (.start command)).1.shared.nodes.claims = u.shared.nodes.claims) ∧
    (∀ t, (u.step clh t .resume).1.shared.nodes.claims = u.shared.nodes.claims) ∧
    (clh.isFree u.shared = true ↔ ∀ t, ¬ u.Engaged t) ∧
    (∀ t action, u.permits t action = true → (u.enters clh t action = true ↔
      ∃ own command, u.seat t = .idle own ∧ action = .start command ∧ command.asks = true)) ∧
    ∀ answer ∈ (before.run clh schedule).2, answer.faults = false := by
  intro before u
  obtain ⟨line, ⟨spare, h⟩, he⟩ := grants_run (fun u line => ∃ spare, Queued u spare line)
    (fun _ _ ⟨_, h⟩ => h.toLined)
    (fun _ _ _ _ ⟨_, h⟩ hp => by
      obtain ⟨⟨spare, line, h', hm⟩, -⟩ := h.step hp
      exact ⟨line, ⟨spare, h'⟩, hm⟩)
    ⟨sentinel, queued_opening config n⟩ hp
  obtain ⟨⟨-, hsize⟩, hgood⟩ := run_induction
    (fun u => (∃ spare line, Queued u spare line) ∧
      u.shared.nodes.size = min (config.maxThreads + 1) nilIndex)
    (fun answer => answer.faults = false)
    (fun u t action ⟨⟨_, _, h⟩, hsize⟩ hp => by
      obtain ⟨⟨spare, line, h', -⟩, hfaults⟩ := h.step hp
      exact ⟨⟨⟨spare, line, h'⟩, (size_step u t action).trans hsize⟩, hfaults⟩)
    ⟨⟨sentinel, [], queued_opening config n⟩, by simp [opening, System.init, clh, create]⟩ hp
  exact ⟨⟨queue u line, spare, he, h.inOrder, h.migrated⟩, hsize, claims_step_start u,
    claims_step_resume u, h.isFree_iff, fun _ _ hp => h.enters_iff hp, hgood⟩

/-- The first thread hands the lock and, with it, its node over. It gives the node back that it had
from the lock, and gets it again while the other two threads wait in turn. -/
theorem migration_again :
    let schedule : Schedule 3 :=
      [(0, .join ⟨.pair, 0⟩), (1, .join ⟨.pair, 1⟩), (0, .start .acquire), (1, .start .acquire),
        (1, .resume), (0, .start .release), (0, .leave), (1, .resume), (2, .join ⟨.pair, 0⟩),
        (2, .start .tryAcquire), (2, .start .acquire), (1, .start .release), (1, .start .acquire)]
    let before := opening clh .pair 3
    before.Proper clh schedule ∧
      ∃ waiting spare, before.entries clh schedule = before.grants clh schedule ++ waiting ∧
        InOrder clh (before.run clh schedule).1 waiting ∧
        Migrated (before.run clh schedule).1 waiting spare := by
  intro schedule before
  have hp : before.Proper clh schedule := by decide
  exact ⟨hp, (migration_run hp).1⟩

end SpinLocks.Clh
