import SpinLocks.Proofs.ClusterTicket.Steps
import SpinLocks.Proofs.Valid

namespace SpinLocks.ClusterTicket

open Usage

variable {n : Nat} {u : Threads n} {q : Order n} {t : Fin n} {own : Own} {point : Wait}
  {action : Action Entry Command}

theorem Ordered.step_join (h : Ordered u q) (hs : u.seat t = .vacant) (entry : Entry) :
    (u.step clusterTicket t (.join entry)).2 = .joined ∧
      Change t (u, q) .joined ((u.step clusterTicket t (.join entry)).1, q) := by
  have hf := not_holds_vacant h.holder_idle hs
  have hlt := Nat.mod_lt (entry.config.topology.clusterFor entry.core) h.clusters_pos
  rw [step_join_ok clusterTicket hs rfl, hf]
  refine ⟨rfl, .join hs ⟨rfl, rfl, rfl⟩ rfl (h.frame ?_ hf (fun _ => role_idle) ?_)⟩
  · intro c
    rw [roles, hs, role_vacant]
  · rintro own ⟨⟩
    exact ⟨hlt, rfl⟩

theorem Ordered.step_leave (h : Ordered u q) (hs : u.seat t = .idle own)
    (hf : u.holds t = false) :
    (u.step clusterTicket t .leave).2 = .left ∧
      Change t (u, q) .left ((u.step clusterTicket t .leave).1, q) := by
  rw [Usage.step_leave clusterTicket hs rfl, hf]
  refine ⟨rfl, .leave hs hf rfl (h.frame ?_ hf (fun _ => role_vacant) ?_)⟩
  · intro c
    rw [roles, hs, hf, role_idle]
  · rintro own ⟨⟩

theorem Turns.answer {turn : LockTurn Shared Own Wait} {admitted : Prop}
    (h : Turns u q t turn admitted) :
    turn.answer = .done .done ∨ turn.answer = .waiting := by
  by_cases ha : admitted
  · exact .inl (h.done ha)
  · exact .inr (h.waits ha)

theorem Turns.faults {turn : LockTurn Shared Own Wait} {admitted : Prop}
    (h : Turns u q t turn admitted) : turn.answer.faults = false := by
  obtain he | he := h.answer <;> rw [he] <;> rfl

/-- What the moves of a turn come to as a step. -/
theorem Turns.changes {turn : LockTurn Shared Own Wait} {admitted : Prop}
    (h : Turns u q t turn admitted) :
    ∃ q', Change t (u, q) turn.answer (u.settle t turn, q') := by
  obtain ⟨q', ha⟩ := h.advances
  refine ⟨q', .advance ha ?_ ?_⟩ <;> obtain he | he := h.answer <;> rw [he] <;> simp

theorem Ordered.changes (h : Ordered u q) (hn : n < 0x80000000) (hp : u.permits t action = true) :
    (u.step clusterTicket t action).2.faults = false ∧
      ∃ q', Change t (u, q) (u.step clusterTicket t action).2
        ((u.step clusterTicket t action).1, q') := by
  obtain ⟨cause, -, he⟩ | ⟨entry, rfl, hs⟩ | ⟨own, rfl, hs⟩ | ⟨own, command, rfl, hs⟩ |
    ⟨own, point, rfl, hs⟩ := step_cases clusterTicket u t action
  · rw [he]
    exact ⟨rfl, q, .advance .refl (by simp [Answer.refused]) (by simp [Answer.refused])⟩
  · obtain ⟨he, hc⟩ := h.step_join hs entry
    rw [he]
    exact ⟨rfl, q, hc⟩
  · obtain ⟨he, hc⟩ := h.step_leave hs (by simpa [permits] using hp)
    rw [he]
    exact ⟨rfl, q, hc⟩
  · have hholds : command.givesBack = u.holds t := by simpa [permits] using hp
    rw [step_start hs]
    cases hh : u.holds t with
    | true =>
      have hstart : clusterTicket.start command u.shared own = _ :=
        Command.exclusive_of_givesBack (hholds.trans hh)
      obtain ⟨he, hc⟩ := h.settle_release hs hh
      rw [hstart, he]
      exact ⟨rfl, hc⟩
    | false =>
      obtain hasks | rfl | rfl := Command.asks_or_attempts (hholds.trans hh)
      · have hstart : clusterTicket.start command u.shared own = _ :=
          Command.exclusive_of_asks hasks
        have hturn := h.turns_acquire hs hh hn
        rw [hstart]
        exact ⟨hturn.faults, hturn.changes⟩
      · have hstart : clusterTicket.start .tryAcquire u.shared own =
            ClusterTicket.tryAcquire u.shared own := rfl
        obtain ⟨taken, q', he, hc⟩ := h.settle_attempt hs hh
        rw [hstart, he]
        exact ⟨rfl, q', hc⟩
      · have hstart : clusterTicket.start .tryAcquireRead u.shared own =
            ⟨u.shared, own, .failed (.refusal .noSuchOperation)⟩ := rfl
        rw [hstart, settle_failed, ← hs, put_self]
        exact ⟨rfl, q, .advance .refl (by simp [Turn.answer]) (by simp [Turn.answer])⟩
  · have hturn := h.turns_resume hs hn
    rw [step_resume hs]
    exact ⟨hturn.faults, hturn.changes⟩

/-- Each permitted step keeps the clusters in order, and none fails a check. -/
theorem Ordered.step (h : Ordered u q) (hn : n < 0x80000000) (hp : u.permits t action = true) :
    (∃ q', Ordered (u.step clusterTicket t action).1 q') ∧
      (u.step clusterTicket t action).2.faults = false := by
  obtain ⟨hfaults, q', hc⟩ := h.changes hn hp
  exact ⟨⟨q', h.change hc⟩, hfaults⟩

def Order.empty (n : Nat) : Order n :=
  ⟨none, [], fun _ => none, fun _ => []⟩

variable {config : Config}

theorem toInt_batch_create (hv : config.Valid) :
    (create config).batch.toInt = config.batchSize := by
  have hlt := hv.batch_lt
  have hbatch : (create config).batch = Int32.ofNat config.batchSize :=
    if_pos (Nat.lt_trans hlt (by decide))
  rw [hbatch, Int32.toInt_ofNat_of_lt (Nat.lt_trans hlt (by decide))]

theorem counters_create {c : Nat} (hc : c < config.topology.numClusters) :
    (create config).counters c = ⟨0, (create config).idle⟩ := by
  simp [Shared.counters, create, Shared.idle, hc]

theorem ordered_opening (hv : config.Valid) (n : Nat) :
    Ordered (opening clusterTicket config n) (.empty n) := by
  have hvacant := seat_opening clusterTicket config n
  have hown := own?_opening clusterTicket config n
  have hroles : ∀ c, roles (opening clusterTicket config n) c = fun _ => none := by
    intro c
    funext t
    rw [roles, hvacant, role_vacant]
  have hshared : (opening clusterTicket config n).shared = create config := rfl
  have hlength : (create config).clusters.length = config.topology.numClusters :=
    List.length_replicate
  have hbatch := toInt_batch_create hv
  have hlt := hv.batch_lt
  have hpos := hv.batch_pos
  exact {
    batch_pos := by
      rw [hshared]
      omega
    batch_lt := by
      rw [hshared]
      omega
    clusters_pos := hlength ▸ hv.clusters_pos
    clusters_le := hlength ▸ hv.clusters_le
    cluster_lt := by simp [hown]
    holder_idle := by
      intro t hh
      cases hh
    viaTry_iff := by simp [hown]
    single_holds := by simp [Order.empty]
    word := show Ticket.Word.free.tail = Ticket.Word.free.head + .ofNat 0 by decide
    line_nodup := List.nodup_nil
    mem_line := by simp [Order.empty]
    batched := by
      intro c hc
      rw [hshared, hlength] at hc
      have hcounters := counters_create hc
      have hcur : (create config).cur c = (create config).batch.toInt + 1 := by
        rw [Shared.cur, hcounters, toInt_idle (by omega)]
      have hnxt : (create config).nxt c = 0 := by
        rw [Shared.nxt, hcounters]
        rfl
      simp only [Batched, hshared, hcur, hnxt, hroles]
      exact .empty _
    ticket := by simp [hvacant]
    leading := by simp [Order.empty] }

theorem ordered_run (hn : n < 0x80000000) (hv : config.Valid) {schedule : Schedule n}
    (hp : (opening clusterTicket config n).Proper clusterTicket schedule) :
    (∃ q, Ordered ((opening clusterTicket config n).run clusterTicket schedule).1 q) ∧
      ∀ answer ∈ ((opening clusterTicket config n).run clusterTicket schedule).2,
        answer.faults = false :=
  run_induction (fun u => ∃ q, Ordered u q) (fun answer => answer.faults = false)
    (fun _ _ _ ⟨_, h⟩ => h.step hn) ⟨_, ordered_opening hv n⟩ hp

end SpinLocks.ClusterTicket
