import SpinLocks.Proofs.Hclh.Runs

namespace SpinLocks.Hclh

open Shared Usage

variable {n : Nat}

structure Exclusive (u : Threads n) : Prop where
  holder_unique : ∀ s t, u.holds s = true → u.holds t = true → s = t
  held : ∀ t, u.holds t = true → u.shared.isFree = false
  node_lt : ∀ t own, u.own? t = some own → ∃ k, own.node = some k ∧ k < u.shared.nodes.size
  pred_lt : ∀ t own k, u.own? t = some own → own.pred = some k → k < u.shared.nodes.size
  node_inj : ∀ s t own own', u.own? s = some own → u.own? t = some own' → own.node = own'.node →
    s = t
  global : ∃ k, u.shared.global = some k ∧ k < u.shared.nodes.size ∧
    ((∃ t own, u.own? t = some own ∧ own.node = some k ∧ u.Engaged t) ∨
      (∀ t own, u.own? t = some own → own.node ≠ some k) ∧ u.shared.nodes.isClaimed k = true)

variable {u : Threads n} {q : Order n}

theorem Ordered.isFree_iff (h : Ordered u q) : u.shared.isFree = true ↔ q.line = [] := by
  obtain ⟨hl, he⟩ | ⟨t, ht, k, -, he, hshut⟩ := h.global_eq
  · simp [hl, isFree_eq_true he h.gate_open]
  · simp [isFree_eq_false he hshut, List.ne_nil_of_mem ht]

theorem Ordered.exclusive (h : Ordered u q) : Exclusive u where
  holder_unique := by
    intro s t hs ht
    obtain ⟨l, hl⟩ := h.holder_first s hs
    obtain ⟨m, hm⟩ := h.holder_first t ht
    exact (List.cons.inj (hl.symm.trans hm)).1
  held := by
    intro t ht
    obtain ⟨rest, hl⟩ := h.holder_first t ht
    rw [← Bool.not_eq_true, h.isFree_iff, hl]
    exact List.cons_ne_nil t rest
  node_lt := by
    intro t own ho
    obtain ⟨k, hk, hc⟩ := h.node_claimed t own ho
    exact ⟨k, (node_of_own? ho).symm.trans hk, Arena.lt_of_isClaimed hc⟩
  pred_lt := h.pred_lt
  node_inj := by
    intro s t own own' hs ht he
    obtain ⟨k, hk, -⟩ := h.node_claimed s own hs
    refine h.node_inj s t k hk ?_
    rw [node_of_own? ht, ← he, ← node_of_own? hs, hk]
  global := by
    obtain ⟨-, he⟩ | ⟨t, ht, k, hk, he, hshut⟩ := h.global_eq
    · refine ⟨q.gate, he, h.gate_open.lt, .inr ⟨fun t own ho hn => ?_, h.gate_claimed⟩⟩
      exact h.gate_unowned t ((node_of_own? ho).trans hn)
    · obtain ⟨own, ho, hn⟩ := Option.bind_eq_some_iff.mp
        (show (u.own? t).bind Own.node = some k from hk)
      exact ⟨k, he, hshut.lt, .inl ⟨t, own, ho, hn, (h.engaged_iff t).mpr (.inl ht)⟩⟩

theorem exclusive_run {config : Config} (hv : config.Valid) {schedule : Schedule n}
    (hp : (opening hclh config n).Proper hclh schedule) :
    Exclusive ((opening hclh config n).run hclh schedule).1 ∧
      ∀ answer ∈ ((opening hclh config n).run hclh schedule).2, answer.faults = false := by
  obtain ⟨⟨q, h⟩, hgood⟩ := queued_run hv hp
  exact ⟨h.exclusive, hgood⟩

/-- The second thread waits for the first and takes the lock after it. The first leaves, and comes
back on another core. -/
theorem exclusive_handover :
    let schedule : Schedule 2 :=
      [(0, .join ⟨.pair, 0⟩), (1, .join ⟨.pair, 1⟩), (0, .start .acquire), (1, .start .acquire),
        (0, .start .release), (0, .leave), (1, .resume), (0, .join ⟨.pair, 1⟩)]
    Config.pair.Valid ∧ (opening hclh .pair 2).Proper hclh schedule ∧
      Exclusive ((opening hclh .pair 2).run hclh schedule).1 := by
  intro schedule
  have hp : (opening hclh .pair 2).Proper hclh schedule := by decide
  exact ⟨Config.valid_pair, hp, (exclusive_run Config.valid_pair hp).1⟩

end SpinLocks.Hclh
