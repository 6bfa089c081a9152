import SpinLocks.Proofs.Hclh.Spliced

namespace SpinLocks.Hclh

open Shared Usage

variable {n : Nat}

/-- The next thread of the cluster takes the end of the queue for a predecessor of its own
cluster. -/
def Shared.Misleads (shared : Shared) (cluster : UInt8) : Prop :=
  ∃ k, shared.tail cluster = some k ∧ shared.Local cluster k

/-- The thread waits for a predecessor of its own cluster, and for nothing else. -/
def Follows (u : Threads n) (t : Fin n) : Prop :=
  ∃ own k, u.seat t = .waiting own (.localPred (some k)) ∧ u.shared.Local own.cluster k ∧
    u.shared.Shut k

abbrev resumptions (ts : List (Fin n)) : Schedule n :=
  ts.map fun t => (t, .resume)

/-- When a lock that nobody holds can be taken. -/
structure Progress (u : Threads n) : Prop where
  idle_done_iff : (∀ s, ¬ u.Engaged s) → ∀ t own command, u.seat t = .idle own →
    command.asks = true →
      ((u.step hclh t (.start command)).2 = .done .done ↔ ¬ u.shared.Misleads own.cluster)
  waiting_done_iff : (∀ s, u.holds s = false) →
    ((∃ ts, .done .done ∈ (u.run hclh (resumptions ts)).2) ↔
      ∃ t, u.waits t = true ∧ ¬ Follows u t)

variable {u : Threads n} {q : Order n} {t : Fin n} {own : Own}

theorem Follows.resume (h : Follows u t) : u.step hclh t .resume = (u, .waiting) := by
  obtain ⟨own, k, hs, hl, hshut⟩ := h
  have ht : hclh.resume (.localPred (some k)) u.shared own = _ := awaitLocal_of_shut hl hshut
  rw [step_resume hs, ht, settle_self hs]
  rfl

theorem resume_of_follows (h : ∀ t, u.waits t = true → Follows u t) (t : Fin n) :
    (u.step hclh t .resume).1 = u ∧ (u.step hclh t .resume).2 ≠ .done .done := by
  obtain ⟨cause, -, he⟩ | ⟨entry, he, -⟩ | ⟨own, he, -⟩ | ⟨own, command, he, -⟩ |
    ⟨own, point, -, hs⟩ := step_cases hclh u t .resume
  · rw [he]
    exact ⟨rfl, by simp [Answer.refused]⟩
  · cases he
  · cases he
  · cases he
  · rw [(h t (waits_iff.mpr ⟨own, point, hs⟩)).resume]
    exact ⟨rfl, by simp⟩

theorem not_done_of_follows (h : ∀ t, u.waits t = true → Follows u t) (ts : List (Fin n)) :
    .done .done ∉ (u.run hclh (resumptions ts)).2 := by
  induction ts with
  | nil => simp [run]
  | cons t ts ih =>
    obtain ⟨hsame, hne⟩ := resume_of_follows h t
    simp only [resumptions, List.map_cons, run, hsame, List.mem_cons, not_or]
    exact ⟨Ne.symm hne, ih⟩

/-- While nobody holds the lock, the first of the line may go, or else the master of a cluster. -/
theorem Queued.exists_done (h : Queued u q) (hfree : ∀ s, u.holds s = false)
    (hw : u.waits t = true) (hn : ¬ Follows u t) :
    ∃ s, u.waits s = true ∧ (u.step hclh s .resume).2 = .done .done := by
  cases hl : q.line with
  | cons a rest =>
    have ha : a ∈ q.line := hl ▸ List.mem_cons_self
    have haw : u.waits a = true :=
      ((h.engaged_iff a).mpr (.inl ha)).resolve_left (by simp [hfree])
    obtain ⟨own, point, hs⟩ := waits_iff.mp haw
    exact ⟨a, haw, by simp [h.resume_line hs ha, hl]⟩
  | nil =>
    obtain hm | ⟨c, hm⟩ := (h.engaged_iff t).mp (.inr hw)
    · simp [hl] at hm
    obtain ⟨own, p, hs, rfl⟩ := h.apart_waits c t hm
    have hforeign : ∀ k, ahead u t = some k → ¬ u.shared.Local own.cluster k := by
      intro k hk hlocal
      obtain rfl : p = some k := by simpa [ahead, hs, aheadOf] using hk
      exact hn ⟨own, k, hs, hlocal, h.apart_shut hm hk hlocal⟩
    exact ⟨t, hw, by simp [(h.resume_master hs hm hforeign).2, hl]⟩

theorem Queued.line_nil (h : Queued u q) (hn : ∀ s, ¬ u.Engaged s) : q.line = [] :=
  List.eq_nil_iff_forall_not_mem.mpr fun s hm => hn s ((h.engaged_iff s).mpr (.inl hm))

theorem Queued.progress (h : Queued u q) : Progress u where
  idle_done_iff := by
    intro hn t own command hs hc
    have hf : u.holds t = false := Bool.eq_false_iff.mpr fun hh => hn t (.inl hh)
    by_cases hm : u.shared.Misleads own.cluster
    · obtain ⟨k, hk, hl⟩ := hm
      simp [(h.acquire_follower hs hf hc hk hl).1, Misleads, hk, hl]
    · obtain ⟨k, hk, -⟩ := h.node_claimed t own (own?_of_idle hs)
      have hnode : own.node = some k := (node_of_own? (own?_of_idle hs)).symm.trans hk
      obtain ⟨-, he⟩ := h.acquire_master hs hf hc hnode fun k hk hl => hm ⟨k, hk, hl⟩
      simp [he, h.line_nil hn, hm]
  waiting_done_iff := by
    intro hfree
    constructor
    · rintro ⟨ts, hts⟩
      by_contra hno
      exact not_done_of_follows (fun t hw => by_contra fun hn => hno ⟨t, hw, hn⟩) ts hts
    · rintro ⟨t, hw, hn⟩
      obtain ⟨s, -, hs⟩ := h.exists_done hfree hw hn
      exact ⟨[s], by simp [run, hs]⟩

/-- That a lock that nobody holds can be taken at once, by somebody who waits if there is anybody.
-/
structure Unhindered (u : Threads n) : Prop where
  idle_done : (∀ s, ¬ u.Engaged s) → ∀ t own command, u.seat t = .idle own →
    command.asks = true → (u.step hclh t (.start command)).2 = .done .done
  waiting_done : (∀ s, u.holds s = false) → (∃ t, u.waits t = true) →
    ∃ t, u.waits t = true ∧ (u.step hclh t .resume).2 = .done .done

theorem Spliced.unhindered (h : Spliced u q) : Unhindered u where
  idle_done := by
    intro hn t own command hs hc
    refine (h.progress.idle_done_iff hn t own command hs hc).mpr ?_
    rintro ⟨k, hk, hl⟩
    exact h.tail_foreign own.cluster k hk hl
  waiting_done := by
    rintro hfree ⟨t, hw⟩
    have hm := h.mem_line (.inr hw)
    cases hl : q.line with
    | nil => simp [hl] at hm
    | cons a rest =>
      have ha : a ∈ q.line := hl ▸ List.mem_cons_self
      have haw : u.waits a = true :=
        ((h.engaged_iff a).mpr (.inl ha)).resolve_left (by simp [hfree])
      obtain ⟨own, point, hs⟩ := waits_iff.mp haw
      exact ⟨a, haw, by simp [h.resume_line hs ha, hl]⟩

/-- A thread that joins with the node at which the queue of its cluster ends would wait for its own
node. -/
theorem Queued.misleads_of_recycles (h : Queued u q) {action : Action Entry Command}
    (hr : Recycles u t action) :
    ∃ own, (u.step hclh t action).1.seat t = .idle own ∧
      (u.step hclh t action).1.shared.Misleads own.cluster := by
  obtain ⟨k, c, hk, -, htail, he⟩ := h.exists_of_recycles hr
  rw [he]
  refine ⟨⟨some k, none, c⟩, seat_put_self .., k, htail, ?_⟩
  exact (local_claim hk).mpr (by rw [if_pos rfl])

variable {config : Config} {schedule : Schedule n}

/-- A lock that nobody holds can be taken, unless all who could take it are misled. Nobody is, where
no thread ever joined with the node at which the queue of its cluster ended. -/
theorem progress_run (hv : config.Valid) (hp : (opening hclh config n).Proper hclh schedule) :
    Progress ((opening hclh config n).run hclh schedule).1 ∧
      ((opening hclh config n).Along hclh (fun u t action => ¬ Recycles u t action) schedule →
        Unhindered ((opening hclh config n).run hclh schedule).1) := by
  obtain ⟨⟨q, h⟩, -⟩ := queued_run hv hp
  refine ⟨h.progress, fun hr => ?_⟩
  obtain ⟨q', h'⟩ := spliced_run hv hp hr
  exact h'.unhindered

/-- The second thread waits, and nobody holds the lock. -/
theorem progress_waiting :
    let schedule : Schedule 2 :=
      [(0, .join ⟨.pair, 0⟩), (1, .join ⟨.pair, 1⟩), (0, .start .acquire), (1, .start .acquire),
        (0, .start .release)]
    Config.pair.Valid ∧ (opening hclh .pair 2).Proper hclh schedule ∧
      Progress ((opening hclh .pair 2).run hclh schedule).1 := by
  intro schedule
  have hp : (opening hclh .pair 2).Proper hclh schedule := by decide
  exact ⟨Config.valid_pair, hp, (progress_run Config.valid_pair hp).1⟩

/-- The node at which the queue of the first cluster ends goes to the second cluster, is given back
there, and is claimed by a thread of the first cluster. Nobody holds the lock then or waits for it,
and yet this thread waits when it asks for the lock, for good. -/
theorem reclaim_misleads :
    let schedule : Schedule 2 :=
      [(0, .join ⟨.pair, 0⟩), (0, .start .acquire), (0, .start .release), (1, .join ⟨.pair, 1⟩),
        (1, .start .acquire), (1, .start .release), (1, .leave), (1, .join ⟨.pair, 0⟩)]
    let u := ((opening hclh .pair 2).run hclh schedule).1
    (opening hclh .pair 2).Proper hclh schedule ∧ (∀ t, u.holds t = false ∧ u.waits t = false) ∧
      (u.step hclh 1 (.start .acquire)).2 = .waiting ∧
      ∀ ts, .done .done ∉ ((u.step hclh 1 (.start .acquire)).1.run hclh (resumptions ts)).2 := by
  refine ⟨by decide, by decide, by decide, not_done_of_follows fun t hw => ?_⟩
  obtain rfl | rfl : t = 0 ∨ t = 1 := by omega
  · exact absurd hw (by decide)
  · exact ⟨⟨some 1, none, 0⟩, 1, by decide, ⟨.fresh 0, by decide, by decide, by decide⟩,
      ⟨.fresh 0, by decide, by decide⟩⟩

end SpinLocks.Hclh
