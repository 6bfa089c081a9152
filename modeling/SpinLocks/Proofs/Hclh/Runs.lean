import SpinLocks.Proofs.Hclh.Steps
import SpinLocks.Proofs.Valid

namespace SpinLocks.Hclh

open Shared Usage

variable {n : Nat} {u : Threads n} {q : Order n} {t : Fin n} {action : Action Entry Command}

theorem Queued.resume (h : Queued u q) {own : Own} {point : Wait}
    (hs : u.seat t = .waiting own point) :
    (∃ q', Queued (u.step hclh t .resume).1 q') ∧
      ((u.step hclh t .resume).2 = .waiting ∨ (u.step hclh t .resume).2 = .done .done) := by
  obtain hm | ⟨c, hm⟩ := (h.engaged_iff t).mp (.inr (waits_iff.mpr ⟨own, point, hs⟩))
  · rw [h.resume_line hs hm]
    split
    · next hf => exact ⟨⟨q, h.grant hs hf⟩, .inr rfl⟩
    · exact ⟨⟨q, h⟩, .inl rfl⟩
  · obtain ⟨own', p, hs', rfl⟩ := h.apart_waits c t hm
    cases hs.symm.trans hs'
    by_cases hl : ∃ k, ahead u t = some k ∧ u.shared.Local own.cluster k
    · obtain ⟨k, ha, hl⟩ := hl
      rw [h.resume_follower hs hm ha hl]
      exact ⟨⟨q, h⟩, .inl rfl⟩
    · obtain ⟨⟨last, h'⟩, he⟩ := h.resume_master hs hm fun k ha hk => hl ⟨k, ha, hk⟩
      refine ⟨⟨_, h'⟩, ?_⟩
      rw [he]
      split
      · exact .inr rfl
      · exact .inl rfl

theorem Queued.acquire (h : Queued u q) {own : Own} {command : Command}
    (hs : u.seat t = .idle own) (hf : u.holds t = false) (hc : command.asks = true) :
    (∃ q', Queued (u.step hclh t (.start command)).1 q') ∧
      ((u.step hclh t (.start command)).2 = .waiting ∨
        (u.step hclh t (.start command)).2 = .done .done) := by
  by_cases hl : ∃ k, u.shared.tail own.cluster = some k ∧ u.shared.Local own.cluster k
  · obtain ⟨k, hk, hl⟩ := hl
    obtain ⟨he, h'⟩ := h.acquire_follower hs hf hc hk hl
    exact ⟨⟨_, h'⟩, .inl (by rw [he])⟩
  · obtain ⟨k, hk, -⟩ := h.node_claimed t own (own?_of_idle hs)
    have hn : own.node = some k := (node_of_own? (own?_of_idle hs)).symm.trans hk
    obtain ⟨h', he⟩ := h.acquire_master hs hf hc hn fun k hk hl' => hl ⟨k, hk, hl'⟩
    refine ⟨⟨_, h'⟩, ?_⟩
    rw [he]
    split
    · exact .inr rfl
    · exact .inl rfl

/-- Each permitted step keeps the threads queued, and none fails a check. -/
theorem Queued.step (h : Queued u q) (hp : u.permits t action = true) :
    (∃ q', Queued (u.step hclh t action).1 q') ∧ (u.step hclh t action).2.faults = false := by
  obtain ⟨cause, -, he⟩ | ⟨entry, rfl, hs⟩ | ⟨own, rfl, hs⟩ | ⟨own, command, rfl, hs⟩ |
    ⟨own, point, rfl, hs⟩ := step_cases hclh u t action
  · rw [he]
    exact ⟨⟨q, h⟩, rfl⟩
  · obtain ⟨-, he⟩ | ⟨k, c, -, -, -, -, he, h'⟩ := h.join_cases entry hs
    · rw [he]
      exact ⟨⟨q, h⟩, rfl⟩
    · exact ⟨⟨q, h'⟩, by rw [he]; rfl⟩
  · obtain ⟨k, -, he, h'⟩ := h.leave hs (by simpa [permits] using hp)
    exact ⟨⟨q, h'⟩, by rw [he]; rfl⟩
  · have hholds : command.givesBack = u.holds t := by simpa [permits] using hp
    cases hh : u.holds t with
    | true =>
      obtain ⟨_, k, _, -, -, -, he, h'⟩ := h.release hh (hholds.trans hh)
      exact ⟨⟨_, h'⟩, by rw [he]; rfl⟩
    | false =>
      by_cases hc : command.asks = true
      · obtain ⟨h', he⟩ := h.acquire hs hh hc
        exact ⟨h', by obtain he | he := he <;> rw [he] <;> rfl⟩
      · rw [attempt_eq hs (hholds.trans hh) (Bool.not_eq_true _ ▸ hc)]
        exact ⟨⟨q, h⟩, faults_rejection ..⟩
  · obtain ⟨h', he⟩ := h.resume hs
    exact ⟨h', by obtain he | he := he <;> rw [he] <;> rfl⟩

theorem tail_create (config : Config) (c : UInt8) : (create config).tail c = none := by
  simp only [tail, create, List.getElem?_replicate]
  split <;> rfl

theorem sentinel_lt (threads : Nat) (state : NodeState) :
    sentinel < (Arena.replicate (threads + 1) state).size := by
  rw [Arena.size_replicate, nilIndex, sentinel]
  omega

theorem open_create (config : Config) : (create config).Open sentinel := by
  have hs := sentinel_lt config.maxThreads (.ofParts 0 false false)
  rw [Arena.size_replicate] at hs
  simp [Open, create, Arena.node?_setClaimed, Arena.node?_replicate, hs]

theorem isClaimed_create (config : Config) :
    (create config).nodes.isClaimed sentinel = true := by
  simp only [create, Arena.isClaimed_setClaimed (sentinel_lt config.maxThreads _)]
  rfl

variable {config : Config}

theorem queued_opening (hv : config.Valid) (n : Nat) :
    Queued (opening hclh config n) ⟨sentinel, [], fun _ => [], fun _ => none⟩ := by
  have hvacant := seat_opening hclh config n
  have hown := own?_opening hclh config n
  have hnode : ∀ t, node (opening hclh config n) t = none := by
    intro t
    simp [node, hown]
  have hahead : ∀ t, ahead (opening hclh config n) t = none := by
    intro t
    simp [ahead, hvacant, aheadOf]
  have hengaged := not_engaged_opening hclh config n
  have hlength : (opening hclh config n).shared.queues.length = config.topology.numClusters :=
    List.length_replicate
  exact {
    clusters_pos := hlength ▸ hv.clusters_pos
    clusters_le := by
      have := hv.clusters_le
      omega
    cluster_lt := by simp [hown]
    gate_open := open_create config
    gate_claimed := isClaimed_create config
    gate_unowned := by simp [hnode]
    node_claimed := by simp [hown]
    node_inj := by simp [hnode]
    node_shut := by simp [hnode]
    node_local := by simp [hown]
    node_fresh := by simp [hvacant]
    tail_lt := by
      intro c k hk
      cases (tail_create config c).symm.trans hk
    ahead_lt := by simp [hahead]
    pred_lt := by simp [hown]
    holder_idle := fun t hh => absurd (.inl hh) (hengaged t)
    line_chain := rfl
    apart_chain := fun c => (tail_create config c).symm
    line_nodup := List.nodup_nil
    apart_nodup := fun _ => List.nodup_nil
    engaged_iff := by simp [hengaged, Order.Has]
    apart_out := by simp
    apart_waits := by simp
    apart_local := by simp
    holder_first := fun t hh => absurd (.inl hh) (hengaged t)
    line_local := by simp
    base_shut := by simp
    base_some := by simp }

theorem queued_run (hv : config.Valid) {schedule : Schedule n}
    (hp : (opening hclh config n).Proper hclh schedule) :
    (∃ q, Queued ((opening hclh config n).run hclh schedule).1 q) ∧
      ∀ answer ∈ ((opening hclh config n).run hclh schedule).2, answer.faults = false :=
  run_induction (fun u => ∃ q, Queued u q) (fun answer => answer.faults = false)
    (fun _ _ _ ⟨_, h⟩ => h.step) ⟨_, queued_opening hv n⟩ hp

end SpinLocks.Hclh
