import SpinLocks.Proofs.Hclh.Waiting

namespace SpinLocks.Hclh

open Shared Usage

variable {n : Nat} {u : Threads n} {q : Order n} {t : Fin n} {own : Own} {point : Wait}
  {k last : Nat} {p : Link} {rest : List (Fin n)} {c : UInt8}

/-- Between two turns, those who wait apart wait for a node. -/
structure Queued (u : Threads n) (q : Order n) : Prop extends Ordered u q where
  base_some : ∀ c, q.apart c ≠ [] → ∃ k, q.base c = some k

theorem Queued.ahead_some (h : Queued u q) (hw : u.waits t = true) :
    ∃ k, ahead u t = some k ∧ k < u.shared.nodes.size := by
  have hsome : ∃ k, ahead u t = some k := by
    have hnode : ∀ s, q.Has s → ∃ k, node u s = some k := fun s hs => by
      obtain ⟨k, -, -, hk, -⟩ := h.node_of_has hs
      exact ⟨k, hk⟩
    obtain hm | ⟨c, hm⟩ := (h.engaged_iff t).mp (.inr hw)
    · obtain he | ⟨s, hs, he⟩ := h.line_chain.ahead_mem hm
      · exact ⟨_, he⟩
      · exact he ▸ hnode s (.inl hs)
    · obtain he | ⟨s, hs, he⟩ := (h.apart_chain c).ahead_mem hm
      · exact he ▸ h.base_some c (List.ne_nil_of_mem hm)
      · exact he ▸ hnode s (.inr ⟨c, hs⟩)
  obtain ⟨k, hk⟩ := hsome
  exact ⟨k, hk, h.ahead_lt t k hk⟩

theorem Queued.resume_line (h : Queued u q) (hs : u.seat t = .waiting own point)
    (hm : t ∈ q.line) :
    u.step hclh t .resume =
      if q.line.head? = some t then
        (u.put t u.shared (.idle { own with pred := some q.gate }) true, .done .done)
      else (u, .waiting) := by
  have ht : hclh.resume point u.shared own = _ := h.turn_line hs hm
  rw [step_resume hs, ht]
  split
  · rw [settle_done, h.holds_of_waiting hs]
    rfl
  · rw [settle_self hs]
    rfl

theorem Queued.grant (h : Queued u q) (hs : u.seat t = .waiting own point)
    (hl : q.line.head? = some t) :
    Queued (u.put t u.shared (.idle { own with pred := some q.gate }) true) q := by
  obtain ⟨rest, hl⟩ := List.head?_eq_some_iff.mp hl
  exact { h.toOrdered.grant hs hl with base_some := h.base_some }

theorem Queued.resume_follower (h : Queued u q) (hs : u.seat t = .waiting own point)
    (hm : t ∈ q.apart own.cluster) (ha : ahead u t = some k) (hl : u.shared.Local own.cluster k) :
    u.step hclh t .resume = (u, .waiting) := by
  obtain ⟨own', p, hs', -⟩ := h.apart_waits _ t hm
  cases hs.symm.trans hs'
  obtain rfl : p = some k := by simpa [ahead, hs, aheadOf] using ha
  have ht : hclh.resume (.localPred (some k)) u.shared own = _ :=
    awaitLocal_of_shut hl (h.apart_shut hm ha hl)
  rw [step_resume hs, ht, settle_self hs]
  rfl

theorem Ordered.splice_turn (h : Ordered u q) (hs : u.seat t = .waiting own (.localPred p))
    (ha : q.apart own.cluster = t :: rest) (hl : u.shared.tail own.cluster = some last) :
    Hclh.splice u.shared own =
      if q.line = [] then
        ⟨u.shared.spliceTo last, { own with pred := some q.gate }, .done .done⟩
      else ⟨u.shared.spliceTo last, own, .waiting (.globalPred u.shared.global)⟩ := by
  have ho := own?_of_waiting hs
  have hne : q.apart own.cluster ≠ [] := ha ▸ List.cons_ne_nil t rest
  obtain ⟨k, hk, -, hlt⟩ := h.tail_of_apart hne
  cases hk.symm.trans hl
  have hm : t ∈ (q.splice own.cluster last).line :=
    List.mem_append_right _ (ha ▸ List.mem_cons_self)
  have hf : (q.splice own.cluster last).line.head? = some t ↔ q.line = [] := by
    cases hline : q.line with
    | nil => simp [hline, ha]
    | cons a l =>
      have hat : a ≠ t := by
        rintro rfl
        exact h.apart_out _ a (ha ▸ List.mem_cons_self) (hline ▸ List.mem_cons_self)
      simp [hline, hat]
  have hseat : (u.put t (u.shared.spliceTo last) (.waiting own (.globalPred u.shared.global))
      false).seat t = .waiting own (.globalPred u.shared.global) := seat_put_self ..
  rw [splice_eq (h.cluster_lt t own ho) hl hlt]
  refine ((h.splice hs ha hl).turn_line hseat hm).trans ?_
  simp only [hf]
  rfl

theorem Ordered.master (h : Ordered u q) (hs : u.seat t = .waiting own (.localPred p))
    (ha : q.apart own.cluster = t :: rest) (hl : u.shared.tail own.cluster = some last)
    (hb : ∀ d, d ≠ own.cluster → q.apart d ≠ [] → ∃ k, q.base d = some k) :
    Queued (u.settle t (Hclh.splice u.shared own)) (q.splice own.cluster last) := by
  have hbase : ∀ d, (q.splice own.cluster last).apart d ≠ [] →
      ∃ k, (q.splice own.cluster last).base d = some k := by
    intro d hd
    rw [Order.apart_splice] at hd
    rw [Order.base_splice]
    by_cases hc : d = own.cluster
    · simp [hc] at hd
    · simpa [hc] using hb d hc (by simpa [hc] using hd)
  have hseat : (u.put t (u.shared.spliceTo last) (.waiting own (.globalPred u.shared.global))
      false).seat t = .waiting own (.globalPred u.shared.global) := seat_put_self ..
  have h' := h.splice hs ha hl
  rw [h.splice_turn hs ha hl]
  split
  · next hline =>
    rw [settle_done, h.holds_of_waiting hs]
    have hfirst : (q.splice own.cluster last).line = t :: rest := by simp [hline, ha]
    have hg := h'.grant hseat hfirst
    rw [put_put] at hg
    exact { hg with base_some := hbase }
  · rw [settle_waiting, h.holds_of_waiting hs]
    exact { h' with base_some := hbase }

theorem Queued.resume_master (h : Queued u q) (hs : u.seat t = .waiting own point)
    (hm : t ∈ q.apart own.cluster)
    (hn : ∀ k, ahead u t = some k → ¬ u.shared.Local own.cluster k) :
    (∃ last, Queued (u.step hclh t .resume).1 (q.splice own.cluster last)) ∧
      (u.step hclh t .resume).2 = if q.line = [] then .done .done else .waiting := by
  obtain ⟨own', p, hs', -⟩ := h.apart_waits _ t hm
  cases hs.symm.trans hs'
  obtain ⟨rest, ha⟩ := h.apart_head hm hn
  obtain ⟨last, hl, -⟩ := h.tail_of_apart (ha ▸ List.cons_ne_nil t rest)
  obtain ⟨k, hk, hlt⟩ := h.ahead_some (t := t) (waits_iff.mpr ⟨own, _, hs⟩)
  obtain rfl : p = some k := by simpa [ahead, hs, aheadOf] using hk
  have ht : hclh.resume (.localPred (some k)) u.shared own = Hclh.splice u.shared own :=
    awaitLocal_of_not_local hlt (hn k hk)
  rw [step_resume hs, ht]
  refine ⟨⟨last, h.toOrdered.master hs ha hl fun d _ => h.base_some d⟩, ?_⟩
  rw [h.splice_turn hs ha hl]
  split <;> rfl
variable {command : Command}

/-- Who finds the node of a thread of its own cluster, not spliced, at the end of its queue waits
apart. -/
theorem Queued.acquire_follower (h : Queued u q) (hs : u.seat t = .idle own)
    (hf : u.holds t = false) (hc : command.asks = true)
    (hk : u.shared.tail own.cluster = some k) (hl : u.shared.Local own.cluster k) :
    u.step hclh t (.start command) =
        (u.put t (u.shared.enqueue own.cluster own.node)
          (.waiting own (.localPred (some k))) false, .waiting) ∧
      Queued (u.step hclh t (.start command)).1 (q.enqueue own.cluster t) := by
  have hlt := h.cluster_lt t own (own?_of_idle hs)
  have h' := h.enqueue hs hf
  rw [hk] at h'
  have hm : t ∈ (q.enqueue own.cluster t).apart own.cluster :=
    Order.mem_apart_enqueue.mpr (.inr ⟨rfl, rfl⟩)
  have ha : ahead (u.put t (u.shared.enqueue own.cluster own.node)
      (.waiting own (.localPred (some k))) false) t = some k := by
    rw [ahead_put, if_pos rfl]
    rfl
  have hwait : awaitLocal (some k) (u.shared.enqueue own.cluster own.node) own = _ :=
    awaitLocal_of_shut hl (h'.apart_shut hm ha hl)
  have ht : hclh.start command u.shared own = _ :=
    (Command.exclusive_of_asks hc).trans ((acquire_of_some hlt hk).trans hwait)
  rw [step_start hs, ht, settle_waiting, hf]
  refine ⟨rfl, { h' with base_some := fun d hd => ?_ }⟩
  by_cases hdc : d = own.cluster
  · subst hdc
    cases hap : q.apart own.cluster with
    | nil =>
      have hb := h.apart_chain own.cluster
      rw [hap, hk] at hb
      exact ⟨k, hb⟩
    | cons a rest => exact h.base_some _ (by simp [hap])
  · exact h.base_some d (by simpa [Order.apart_enqueue, hdc] using hd)

/-- Nobody waits apart in a cluster at the end of whose queue no node is of that cluster. -/
theorem Ordered.apart_nil (h : Ordered u q)
    (hn : ∀ k, u.shared.tail c = some k → ¬ u.shared.Local c k) : q.apart c = [] := by
  by_contra ha
  obtain ⟨k, hk, hl, -⟩ := h.tail_of_apart ha
  exact hn k hk hl

/-- Who finds no such node there becomes the master of its cluster at once. -/
theorem Queued.acquire_master (h : Queued u q) (hs : u.seat t = .idle own)
    (hf : u.holds t = false) (hc : command.asks = true) (hk : own.node = some k)
    (hn : ∀ k, u.shared.tail own.cluster = some k → ¬ u.shared.Local own.cluster k) :
    Queued (u.step hclh t (.start command)).1
        ((q.enqueue own.cluster t).splice own.cluster k) ∧
      u.step hclh t (.start command) =
        if q.line = [] then
          (u.put t ((u.shared.enqueue own.cluster own.node).spliceTo k)
            (.idle { own with pred := some q.gate }) true, .done .done)
        else
          (u.put t ((u.shared.enqueue own.cluster own.node).spliceTo k)
            (.waiting own (.globalPred u.shared.global)) false, .waiting) := by
  have hlt := h.cluster_lt t own (own?_of_idle hs)
  have h' := h.enqueue hs hf
  have hseat : (u.put t (u.shared.enqueue own.cluster own.node)
      (.waiting own (.localPred (u.shared.tail own.cluster))) false).seat t =
        .waiting own (.localPred (u.shared.tail own.cluster)) :=
    seat_put_self ..
  have ha : (q.enqueue own.cluster t).apart own.cluster = [t] := by
    simp [Order.apart_enqueue, h.apart_nil hn]
  have hl : (u.shared.enqueue own.cluster own.node).tail own.cluster = some k := by
    rw [tail_enqueue hlt, if_pos rfl, hk]
  have hb : ∀ d, d ≠ own.cluster → (q.enqueue own.cluster t).apart d ≠ [] →
      ∃ k, (q.enqueue own.cluster t).base d = some k := by
    intro d hdc hd
    exact h.base_some d (by simpa [Order.apart_enqueue, hdc] using hd)
  have ht : hclh.start command u.shared own =
      Hclh.splice (u.shared.enqueue own.cluster own.node) own := by
    refine (Command.exclusive_of_asks hc).trans ?_
    cases htail : u.shared.tail own.cluster with
    | none => exact acquire_of_none hlt htail
    | some j =>
      exact (acquire_of_some hlt htail).trans
        (awaitLocal_of_not_local (h.tail_lt _ j htail) (hn j htail))
  have hmaster := h'.master hseat ha hl hb
  rw [settle_put hf] at hmaster
  rw [step_start hs, ht]
  refine ⟨hmaster, ?_⟩
  have hturn : Hclh.splice (u.shared.enqueue own.cluster own.node) own = _ :=
    h'.splice_turn hseat ha hl
  rw [hturn, Order.line_enqueue]
  split
  · rw [settle_done, hf]
    rfl
  · rw [settle_waiting, hf]
    rfl

theorem Queued.release (h : Queued u q) (hh : u.holds t = true) (hc : command.givesBack = true) :
    ∃ own k rest, u.seat t = .idle own ∧ own.node = some k ∧ q.line = t :: rest ∧
      u.step hclh t (.start command) =
        (u.put t (u.shared.pass own.cluster k q.gate) (.idle { own with node := some q.gate }) false,
          .done .done) ∧
      Queued (u.step hclh t (.start command)).1 (q.pass k) := by
  obtain ⟨own, hs⟩ := h.holder_idle t hh
  obtain ⟨rest, hl⟩ := h.holder_first t hh
  obtain ⟨k, hk, -⟩ := h.node_claimed t own (own?_of_idle hs)
  have hn : own.node = some k := (node_of_own? (own?_of_idle hs)).symm.trans hk
  have hp : own.pred = some q.gate := by
    simpa [ahead, hs, aheadOf] using h.ahead_first hl
  have ht : hclh.start command u.shared own = _ :=
    (Command.exclusive_of_givesBack hc).trans
      (release_eq hn hp (h.node_shut t k hk).lt h.gate_open.lt)
  refine ⟨own, k, rest, hs, hn, hl, ?_⟩
  rw [step_start hs, ht, settle_done, hh]
  exact ⟨rfl, { h.toOrdered.pass hs hn hl with base_some := h.base_some }⟩

theorem attempt_eq (hs : u.seat t = .idle own) (hb : command.givesBack = false)
    (hc : command.asks = false) : u.step hclh t (.start command) = (u, command.rejection "hclh") :=
  step_attempt hs rfl hb hc

theorem Placed.not_engaged_of_vacant {gate : Nat} (h : Placed u gate) (hs : u.seat t = .vacant) :
    ¬ u.Engaged t :=
  not_engaged_vacant h.holder_idle hs

theorem Queued.join_cases (h : Queued u q) (entry : Entry) (hs : u.seat t = .vacant) :
    (u.shared.nodes.claim? = none ∧
        u.step hclh t (.join entry) =
          (u, .failed (.error (.capacity "hclh" u.shared.capacity)))) ∨
      ∃ k cluster, k < u.shared.nodes.size ∧ u.shared.nodes.isClaimed k = false ∧
        u.shared.nodes.claim? = some (k, u.shared.nodes.setClaimed k true) ∧
        (join entry u.shared).2 = .ok ⟨some k, none, cluster⟩ ∧
        u.step hclh t (.join entry) =
          (u.put t (u.shared.claim cluster k) (.idle ⟨some k, none, cluster⟩) false, .joined) ∧
        Queued (u.step hclh t (.join entry)).1 q := by
  have hf : u.holds t = false :=
    Bool.eq_false_iff.mpr fun hh => h.not_engaged_of_vacant hs (.inl hh)
  obtain ⟨hn, hj⟩ | ⟨k, c, hk, hfree, hn, hc, hj⟩ :=
    Hclh.join_cases entry h.clusters_pos h.clusters_le
  · left
    have hstep := step_join_error hclh hs hj
    rw [← hs, put_self] at hstep
    exact ⟨hn, hstep⟩
  · right
    refine ⟨k, c, hk, hfree, hn, by rw [hj], ?_⟩
    rw [step_join_ok hclh hs hj, hf]
    exact ⟨rfl, { h.toOrdered.join hs hk hfree hc with base_some := h.base_some }⟩

theorem Queued.leave (h : Queued u q) (hs : u.seat t = .idle own) (hf : u.holds t = false) :
    ∃ k, own.node = some k ∧
      u.step hclh t .leave = (u.put t (u.shared.unclaim k) .vacant false, .left) ∧
      Queued (u.step hclh t .leave).1 q := by
  obtain ⟨k, hk, -⟩ := h.node_claimed t own (own?_of_idle hs)
  have hn : own.node = some k := (node_of_own? (own?_of_idle hs)).symm.trans hk
  refine ⟨k, hn, ?_⟩
  rw [step_leave hclh hs (leave_eq hn (h.node_shut t k hk).lt), hf]
  exact ⟨rfl, { h.toOrdered.leave hs hf hn with base_some := h.base_some }⟩

end SpinLocks.Hclh
