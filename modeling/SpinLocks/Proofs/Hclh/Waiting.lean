import SpinLocks.Proofs.Hclh.Lines

namespace SpinLocks.Hclh

open Shared Usage

variable {n : Nat} {u : Threads n} {q : Order n} {t : Fin n} {own : Own} {point : Wait} {k : Nat}

theorem Ordered.ahead_first (h : Ordered u q) (hl : q.line = t :: rest) :
    ahead u t = some q.gate := by
  have hc := h.line_chain
  rw [hl] at hc
  exact hc.1

theorem Ordered.ahead_line (h : Ordered u q) (hm : t ∈ q.line) (hf : q.line.head? ≠ some t) :
    ∃ s ∈ q.line, node u s = ahead u t :=
  h.line_chain.ahead_mem_of_ne_head hm hf

theorem Ordered.ahead_shut (h : Ordered u q) (hm : t ∈ q.line) (hf : q.line.head? ≠ some t) :
    ∃ k, ahead u t = some k ∧ u.shared.Shut k := by
  obtain ⟨s, hs, he⟩ := h.ahead_line hm hf
  obtain ⟨k, -, -, hk, hshut⟩ := h.node_of_has (.inl hs)
  exact ⟨k, he.symm.trans hk, hshut⟩

/-- In the line, the first may go and all others wait. -/
theorem Ordered.turn_line (h : Ordered u q) (hs : u.seat t = .waiting own point)
    (hm : t ∈ q.line) :
    resume point u.shared own =
      if q.line.head? = some t then
        ⟨u.shared, { own with pred := some q.gate }, .done .done⟩
      else ⟨u.shared, own, .waiting point⟩ := by
  split
  · next hf =>
    obtain ⟨rest, hl⟩ := List.head?_eq_some_iff.mp hf
    have ha := h.ahead_first hl
    cases point with
    | localPred p =>
      obtain rfl : p = some q.gate := by simpa [ahead, hs, aheadOf] using ha
      exact awaitLocal_of_open (h.line_local t hm own _ hs) h.gate_open
    | globalPred p =>
      obtain rfl : p = some q.gate := by simpa [ahead, hs, aheadOf] using ha
      exact awaitGlobal_of_open h.gate_open
  · next hf =>
    obtain ⟨k, ha, hshut⟩ := h.ahead_shut hm hf
    cases point with
    | localPred p =>
      obtain rfl : p = some k := by simpa [ahead, hs, aheadOf] using ha
      exact awaitLocal_of_shut (h.line_local t hm own _ hs) hshut
    | globalPred p =>
      obtain rfl : p = some k := by simpa [ahead, hs, aheadOf] using ha
      exact awaitGlobal_of_shut hshut

variable {c : UInt8}

theorem Ordered.apart_shut (h : Ordered u q) (hm : t ∈ q.apart c) (ha : ahead u t = some k)
    (hl : u.shared.Local c k) : u.shared.Shut k := by
  obtain he | ⟨b, -, he⟩ := (h.apart_chain c).ahead_mem hm
  · exact (h.base_shut c k (he.symm.trans ha) hl).1
  · exact h.node_shut b k (he.trans ha)

/-- Only the first of those who wait apart can find that its predecessor is of another cluster or
was spliced. -/
theorem Ordered.apart_head (h : Ordered u q) (hm : t ∈ q.apart c)
    (hn : ∀ k, ahead u t = some k → ¬ u.shared.Local c k) : ∃ rest, q.apart c = t :: rest := by
  have hc := h.apart_chain c
  have hlocal := h.apart_local c
  cases ha : q.apart c with
  | nil => simp [ha] at hm
  | cons a rest =>
    rw [ha] at hc hm hlocal
    obtain rfl | hr := List.mem_cons.mp hm
    · exact ⟨rest, rfl⟩
    have hb : ∃ b ∈ a :: rest, node u b = ahead u t := by
      obtain he | ⟨b, hb, he⟩ := hc.2.ahead_mem hr
      · exact ⟨a, List.mem_cons_self, he.symm⟩
      · exact ⟨b, List.mem_cons_of_mem a hb, he⟩
    obtain ⟨b, hb, he⟩ := hb
    obtain ⟨k, -, -, hk, -⟩ := h.node_of_has (t := b) (.inr ⟨c, ha ▸ hb⟩)
    exact absurd (hlocal b k hb hk) (hn k (he.symm.trans hk))

theorem Ordered.tail_of_apart (h : Ordered u q) (ha : q.apart c ≠ []) :
    ∃ k, u.shared.tail c = some k ∧ u.shared.Local c k ∧ k < u.shared.nodes.size := by
  obtain ⟨a, ham, he⟩ := (h.apart_chain c).last_mem ha
  obtain ⟨k, -, -, hk, hshut⟩ := h.node_of_has (.inr ⟨c, ham⟩)
  exact ⟨k, he.symm.trans hk, h.apart_local c a k ham hk, hshut.lt⟩

theorem Ordered.holds_of_waiting (h : Ordered u q) (hs : u.seat t = .waiting own point) :
    u.holds t = false :=
  not_holds_waiting h.holder_idle hs

end SpinLocks.Hclh
