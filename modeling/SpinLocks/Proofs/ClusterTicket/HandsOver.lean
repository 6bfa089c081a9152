import SpinLocks.Proofs.ClusterTicket.Runs

namespace SpinLocks.ClusterTicket

open Usage

variable {n : Nat} {u : Threads n} {q : Order n} {t : Fin n} {own : Own} {point : Wait}

/-- Nobody takes the lock from its holder, and while nobody holds it, somebody who waits may go. -/
structure HandsOver (u : Threads n) : Prop where
  holder_unique : ∀ s t, u.holds s = true → u.holds t = true → s = t
  held : ∀ t, u.holds t = true → u.shared.isFree = false
  held_waits : ∀ s t, u.holds s = true → u.waits t = true →
    (u.step clusterTicket t .resume).1.waits t = true ∧
      (u.step clusterTicket t .resume).2 = .waiting
  free_done : (∀ t, u.holds t = false) → (∃ t, u.waits t = true) →
    ∃ t, u.waits t = true ∧ (u.step clusterTicket t .resume).1.holds t = true ∧
      (u.step clusterTicket t .resume).2 = .done .done

/-- The holder took the lock in a single attempt, or stands in front of the first cluster. -/
theorem Ordered.holder_cases (h : Ordered u q) (hh : u.holds t = true) :
    q.single = some t ∨ ∃ own, u.seat t = .idle own ∧ q.front own.cluster = some t ∧
      q.Leads own.cluster := by
  obtain ⟨own, hs⟩ := h.holder_idle t hh
  cases hv : own.viaTry with
  | true => exact .inl ((h.viaTry_iff t own (own?_of_idle hs)).mp hv)
  | false => exact .inr ⟨own, hs, h.holder_leads hs hh hv⟩

theorem Ordered.not_free (h : Ordered u q) (hh : u.holds t = true) : ¬ q.Free := by
  rintro ⟨hnone, hnil⟩
  obtain hsingle | ⟨own, -, -, hl⟩ := h.holder_cases hh
  · simp [hsingle] at hnone
  · obtain ⟨rest, hline⟩ := hl.exists_line
    simp [hnil] at hline

theorem Ordered.not_admits (h : Ordered u q) {s : Fin n} (hh : u.holds s = true)
    (hs : u.seat t = .waiting own point) (nxt : Int) : ¬ q.Admits t own.cluster nxt point := by
  -- Who may go stands in front of the first cluster, and so does the holder.
  have hfront (hf : q.front own.cluster = some t) : ¬ q.Leads own.cluster := by
    intro hl
    obtain hsingle | ⟨own', hs', hf', hl'⟩ := h.holder_cases hh
    · exact hl.not_single hsingle
    · rw [← hl.unique hl', hf] at hf'
      cases hf'
      cases hs.symm.trans hs'
  have hc := h.cluster_lt t own (own?_of_waiting hs)
  cases point with
  | served ticket =>
    intro hf
    exact hfront hf (h.leading _ hc t hf (by simp [roles, hs, role_waiting]))
  | closed => exact h.not_free hh
  | called => exact hfront (h.called_front hs)
  | opened => exact fun ha => h.not_free hh ha.1

/-- While nobody holds the lock, somebody may go: in front of the first cluster, or else where the
batch of a cluster is to be opened. -/
theorem Ordered.exists_admits (h : Ordered u q) (hfree : ∀ s, u.holds s = false)
    (hw : u.waits t = true) :
    ∃ s own point, u.seat s = .waiting own point ∧
      q.Admits s own.cluster (u.shared.nxt own.cluster) point := by
  have hsingle : q.single = none := by
    by_contra hne
    obtain ⟨s, hs⟩ := Option.ne_none_iff_exists'.mp hne
    have hh := h.single_holds s hs
    simp [hfree] at hh
  cases hl : q.line with
  | cons c rest =>
    obtain ⟨hc, hne⟩ := (h.mem_line c).mp (hl ▸ List.mem_cons_self)
    obtain ⟨s, hs⟩ := Option.ne_none_iff_exists'.mp hne
    obtain hr | hr | ⟨ticket, hr, -⟩ := (((h.batched c hc).front_iff s).mp hs).cases
    · obtain ⟨own, -, hh, -⟩ := role_eq_holds.mp hr
      simp [hfree] at hh
    · obtain ⟨own, hs', rfl⟩ := role_eq_waits.mp hr
      exact ⟨s, own, .called, hs', hsingle, by rw [hl]; rfl⟩
    · obtain ⟨own, hs', rfl⟩ := role_eq_waits.mp hr
      exact ⟨s, own, .served ticket, hs', hs⟩
  | nil =>
    have hq : q.Free := ⟨hsingle, hl⟩
    obtain ⟨own, point, hs⟩ := waits_iff.mp hw
    have hc := h.cluster_lt t own (own?_of_waiting hs)
    have hb := h.batched _ hc
    have hnone := h.front_of_free hq hc
    cases point with
    | served ticket =>
      have hr : roles u own.cluster t = some (.waits (.served ticket)) := by
        rw [roles, hs, role_waiting rfl]
      exact absurd hr ((hb.closed hnone).2.2 t ticket)
    | closed => exact ⟨t, own, .closed, hs, hq⟩
    | called =>
      have hf := h.called_front hs
      rw [hnone] at hf
      cases hf
    | opened =>
      obtain hzero | hneg := Int.le_iff_eq_or_lt.mp (hb.closed hnone).2.1
      · exact ⟨t, own, .opened, hs, hq, hzero⟩
      · -- The first of those who found no ticket left is to open the batch.
        have hlate := hb.late_length
        obtain ⟨a, rest, ha⟩ := List.exists_cons_of_ne_nil
          (show q.late own.cluster ≠ [] from fun hnil => by simp [hnil] at hlate; omega)
        obtain ⟨own', hs', -⟩ := role_eq_waits.mp ((hb.late.closed_iff a).mpr (by rw [ha]; rfl))
        exact ⟨a, own', .closed, hs', hq⟩

theorem Ordered.handsOver (h : Ordered u q) (hn : n < 0x80000000) : HandsOver u where
  holder_unique := by
    intro s t hs ht
    obtain hs | ⟨own, -, hf, hl⟩ := h.holder_cases hs
    · obtain ht | ⟨own', -, -, hl'⟩ := h.holder_cases ht
      · exact Option.some.inj (hs.symm.trans ht)
      · exact absurd hs hl'.not_single
    · obtain ht | ⟨own', -, hf', hl'⟩ := h.holder_cases ht
      · exact absurd ht hl.not_single
      · rw [← hl.unique hl', hf] at hf'
        exact Option.some.inj hf'
  held := by
    intro t hh
    rw [← Bool.not_eq_true, h.isFree_iff]
    exact h.not_free hh
  held_waits := by
    intro s t hh hw
    obtain ⟨own, point, hs⟩ := waits_iff.mp hw
    have he := (h.turns_resume hs hn).waits (h.not_admits hh hs _)
    rw [step_resume hs]
    exact ⟨waits_settle he, he⟩
  free_done := by
    rintro hfree ⟨t, hw⟩
    obtain ⟨s, own, point, hs, ha⟩ := h.exists_admits hfree hw
    have he := (h.turns_resume hs hn).done ha
    refine ⟨s, waits_iff.mpr ⟨own, point, hs⟩, ?_⟩
    rw [step_resume hs]
    exact ⟨holds_settle (hfree s) he, he⟩

variable {config : Config} {schedule : Schedule n}

theorem hands_over_run (hn : n < 0x80000000) (hv : config.Valid)
    (hp : (opening clusterTicket config n).Proper clusterTicket schedule) :
    HandsOver ((opening clusterTicket config n).run clusterTicket schedule).1 ∧
      ∀ answer ∈ ((opening clusterTicket config n).run clusterTicket schedule).2,
        answer.faults = false := by
  obtain ⟨⟨q, h⟩, hgood⟩ := ordered_run hn hv hp
  exact ⟨h.handsOver hn, hgood⟩

/-- The second thread takes the lock in a single attempt while the first waits for the ticket of its
cluster. -/
theorem hands_over_attempt :
    let schedule : Schedule 2 :=
      [(0, .join ⟨.pair, 0⟩), (1, .join ⟨.pair, 1⟩), (1, .start .tryAcquire),
        (0, .start .acquire), (1, .start .release), (1, .start .acquire), (0, .resume),
        (0, .start .release)]
    2 < 0x80000000 ∧ Config.pair.Valid ∧
      (opening clusterTicket .pair 2).Proper clusterTicket schedule ∧
      HandsOver ((opening clusterTicket .pair 2).run clusterTicket schedule).1 := by
  intro schedule
  have hp : (opening clusterTicket .pair 2).Proper clusterTicket schedule := by decide
  exact ⟨by decide, Config.valid_pair, hp, (hands_over_run (by decide) Config.valid_pair hp).1⟩

end SpinLocks.ClusterTicket
