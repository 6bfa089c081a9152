import SpinLocks.Proofs.Claims
import SpinLocks.Proofs.Clh.Turns
import SpinLocks.Proofs.Hclh.Spliced

namespace SpinLocks.Hclh

open Shared Usage

variable {n : Nat}

def mirror : Seat Own Wait → Seat Clh.Own Clh.Wait
  | .vacant => .vacant
  | .idle own => .idle ⟨own.node, own.pred⟩
  | .waiting own point => .waiting ⟨own.node, aheadOf (.waiting own point)⟩ .pred

theorem refusal?_mirror (seat : Seat Own Wait) (action : Action Entry Command) :
    (mirror seat).refusal? action = seat.refusal? action := by
  cases seat <;> cases action <;> rfl

structure Mirrored (u : Threads n) (q : Order n) (v : Clh.Threads n) : Prop
    extends Spliced u q where
  tail_claimed : ∀ c k, u.shared.tail c = some k → u.shared.nodes.isClaimed k = true
  tail_eq : v.shared.tail = u.shared.global
  claims_eq : v.shared.nodes.claims = u.shared.nodes.claims
  line_busy : ∀ t ∈ q.line, ∀ k, node u t = some k → v.shared.nodes.node? k = some true
  gate_idle : v.shared.nodes.node? q.gate = some false
  seat_eq : ∀ t, v.seat t = mirror (u.seat t)
  holds_eq : ∀ t, v.holds t = u.holds t

variable {u : Threads n} {q : Order n} {v : Clh.Threads n} {t : Fin n} {own : Own}
  {point : Wait} {k : Nat} {command : Command}

theorem Mirrored.size_eq (h : Mirrored u q v) : v.shared.nodes.size = u.shared.nodes.size := by
  rw [← Arena.length_claims, h.claims_eq, Arena.length_claims]

theorem Mirrored.isFree_eq (h : Mirrored u q v) : u.shared.isFree = v.shared.isFree := by
  obtain ⟨hl, he⟩ | ⟨t, ht, k, hk, he, hshut⟩ := h.global_eq
  · rw [Clh.isFree_eq (h.tail_eq.trans he) h.gate_idle]
    exact isFree_eq_true he h.gate_open
  · rw [Clh.isFree_eq (h.tail_eq.trans he) (h.line_busy t ht k hk)]
    exact isFree_eq_false he hshut

theorem seat_eq_put (h : ∀ s, v.seat s = mirror (u.seat s)) (t : Fin n) (shared : Shared)
    (shared' : Clh.Shared) (seat : Seat Own Wait) (holds holds' : Bool) (s : Fin n) :
    (v.put t shared' (mirror seat) holds).seat s =
      mirror ((u.put t shared seat holds').seat s) := by
  rw [seat_put, seat_put]
  split
  · rfl
  · exact h s

theorem holds_eq_put (h : ∀ s, v.holds s = u.holds s) (t : Fin n) (shared : Shared)
    (shared' : Clh.Shared) (seat : Seat Own Wait) (seat' : Seat Clh.Own Clh.Wait) (holds : Bool)
    (s : Fin n) :
    (v.put t shared' seat' holds).holds s = (u.put t shared seat holds).holds s := by
  rw [holds_put, holds_put]
  split
  · rfl
  · exact h s

theorem Mirrored.resume (h : Mirrored u q v) (hs : u.seat t = .waiting own point) :
    (v.step clh t .resume).2 = (u.step hclh t .resume).2 ∧
      Mirrored (u.step hclh t .resume).1 q (v.step clh t .resume).1 := by
  have hm := h.mem_line (.inr (waits_iff.mpr ⟨own, point, hs⟩))
  have ho := own?_of_waiting hs
  have hn := node_of_own? ho
  obtain ⟨he, h'⟩ := h.toSpliced.resume hs
  have hs' : v.seat t = .waiting ⟨own.node, ahead u t⟩ .pred := by
    rw [h.seat_eq t, hs, mirror, ahead, hs]
  have hf' : v.holds t = false := (h.holds_eq t).trans (h.holds_of_waiting hs)
  rw [step_resume hs', he] at *
  by_cases hf : q.line.head? = some t
  · obtain ⟨rest, hl⟩ := List.head?_eq_some_iff.mp hf
    have ht : clh.resume .pred v.shared ⟨own.node, ahead u t⟩ =
        ⟨v.shared, ⟨own.node, ahead u t⟩, .done .done⟩ :=
      Clh.await_eq (h.ahead_first hl) h.gate_idle
    rw [if_pos hf] at h' ⊢
    rw [ht, settle_done, hf', h.ahead_first hl]
    refine ⟨rfl, { h' with
      tail_claimed := h.tail_claimed
      tail_eq := h.tail_eq
      claims_eq := h.claims_eq
      line_busy := ?_
      gate_idle := h.gate_idle
      seat_eq := seat_eq_put h.seat_eq t _ _ (.idle { own with pred := some q.gate }) _ _
      holds_eq := holds_eq_put h.holds_eq t _ _ _ _ true }⟩
    intro s hs k hk
    rw [node_put] at hk
    split at hk
    · next hst => exact h.line_busy s hs k (hst ▸ hn.trans hk)
    · exact h.line_busy s hs k hk
  · obtain ⟨s, hsm, hsk⟩ := h.ahead_line hm hf
    obtain ⟨k, -, -, hk, -⟩ := h.node_of_has (.inl hsm)
    have ht : clh.resume .pred v.shared ⟨own.node, ahead u t⟩ =
        ⟨v.shared, ⟨own.node, ahead u t⟩, .waiting .pred⟩ :=
      Clh.await_eq (hsk.symm.trans hk) (h.line_busy s hsm k hk)
    rw [if_neg hf, ht, settle_self hs']
    exact ⟨rfl, h⟩

theorem Mirrored.node_ne (h : Mirrored u q v) (hk : node u t = some k) (ht : t ∉ q.line) :
    ∀ s ∈ q.line, ∀ j, node u s = some j → j ≠ k := by
  rintro s hs j hj rfl
  exact ht (h.node_inj s t j hj hk ▸ hs)

theorem Mirrored.put_acquire (h : Mirrored u q v) (hs : u.seat t = .idle own)
    (hf : u.holds t = false) (hk : own.node = some k) {seat : Seat Own Wait} {holds : Bool}
    (hn : seat.own?.bind Own.node = own.node)
    (h' : Spliced (u.put t ((u.shared.enqueue own.cluster own.node).spliceTo k) seat holds)
      ((q.enqueue own.cluster t).splice own.cluster k)) :
    Mirrored (u.put t ((u.shared.enqueue own.cluster own.node).spliceTo k) seat holds)
      ((q.enqueue own.cluster t).splice own.cluster k)
      (v.put t (v.shared.enqueue k) (mirror seat) holds) := by
  have ho := own?_of_idle hs
  have hnode : node u t = some k := (node_of_own? ho).trans hk
  have hline := (h.not_mem (not_engaged_idle hs hf)).1
  have hclaims : ((u.shared.enqueue own.cluster own.node).spliceTo k).nodes.claims =
      u.shared.nodes.claims := Arena.claims_modify ..
  have hclaimed : u.shared.nodes.isClaimed k = true := by
    obtain ⟨j, hj, hc⟩ := h.node_claimed t own ho
    exact Option.some.inj (hj.symm.trans hnode) ▸ hc
  have hkv : k < v.shared.nodes.size := h.size_eq ▸ Arena.lt_of_isClaimed hclaimed
  refine { h' with
    tail_claimed := ?_
    tail_eq := rfl
    claims_eq := ?_
    line_busy := ?_
    gate_idle := ?_
    seat_eq := seat_eq_put h.seat_eq t _ _ _ _ _
    holds_eq := holds_eq_put h.holds_eq t _ _ _ _ holds }
  · intro c j hj
    have hj : (u.shared.enqueue own.cluster own.node).tail c = some j := hj
    rw [Arena.isClaimed_eq_claims]
    show (((u.shared.enqueue own.cluster own.node).spliceTo k).nodes.claims[j]?.getD false) = true
    rw [hclaims, ← Arena.isClaimed_eq_claims]
    rw [tail_enqueue (h.cluster_lt t own ho)] at hj
    split at hj
    · exact Option.some.inj (hk.symm.trans hj) ▸ hclaimed
    · exact h.tail_claimed c j hj
  · exact (Arena.claims_modify ..).trans (h.claims_eq.trans hclaims.symm)
  · intro s hm j hj
    rw [h.line_acquire] at hm
    rw [node_put] at hj
    split at hj
    · rw [hn, hk] at hj
      cases hj
      exact Clh.Shared.node?_enqueue_self hkv
    · next hst =>
      have hsl : s ∈ q.line := by simpa [hst] using hm
      have hjk := h.node_ne hnode hline s hsl j hj
      exact (Clh.Shared.node?_enqueue_of_ne hjk).trans (h.line_busy s hsl j hj)
  · refine (Clh.Shared.node?_enqueue_of_ne fun he => ?_).trans h.gate_idle
    exact h.gate_unowned t (he ▸ hnode)

theorem Mirrored.acquire (h : Mirrored u q v) (hs : u.seat t = .idle own)
    (hf : u.holds t = false) (hc : command.asks = true) (hk : own.node = some k) :
    (v.step clh t (.start command)).2 = (u.step hclh t (.start command)).2 ∧
      Mirrored (u.step hclh t (.start command)).1 ((q.enqueue own.cluster t).splice own.cluster k)
        (v.step clh t (.start command)).1 := by
  have ho := own?_of_idle hs
  have hnode : node u t = some k := (node_of_own? ho).trans hk
  have hline := (h.not_mem (not_engaged_idle hs hf)).1
  have hkv : k < v.shared.nodes.size := h.size_eq ▸ (h.node_shut t k hnode).lt
  obtain ⟨he, h'⟩ := h.toSpliced.acquire hs hf hc hk
  have hs' : v.seat t = .idle ⟨own.node, own.pred⟩ := by rw [h.seat_eq t, hs, mirror]
  have hf' : v.holds t = false := (h.holds_eq t).trans hf
  have ht : clh.start command v.shared ⟨own.node, own.pred⟩ =
      Clh.await (v.shared.enqueue k) ⟨own.node, u.shared.global⟩ :=
    (Command.exclusive_of_asks hc).trans (h.tail_eq ▸ Clh.acquire_eq hk hkv)
  rw [step_start hs', ht]
  rw [he] at h' ⊢
  obtain ⟨hl, hg⟩ | ⟨s, hm, j, hj, hg, -⟩ := h.global_eq
  · have hgk : q.gate ≠ k := fun he => h.gate_unowned t (he ▸ hnode)
    have hgate : (v.shared.enqueue k).nodes.node? q.gate = some false :=
      (Clh.Shared.node?_enqueue_of_ne hgk).trans h.gate_idle
    rw [if_pos hl] at h' ⊢
    rw [Clh.await_eq hg hgate, hg]
    exact ⟨rfl, by simpa [settle_done, hf', mirror] using h.put_acquire hs hf hk rfl h'⟩
  · have hjk := h.node_ne hnode hline s hm j hj
    have hbusy : (v.shared.enqueue k).nodes.node? j = some true :=
      (Clh.Shared.node?_enqueue_of_ne hjk).trans (h.line_busy s hm j hj)
    rw [if_neg (List.ne_nil_of_mem hm)] at h' ⊢
    rw [Clh.await_eq hg hbusy]
    exact ⟨rfl, by simpa [settle_waiting, hf', mirror, aheadOf] using h.put_acquire hs hf hk rfl h'⟩

theorem Mirrored.release (h : Mirrored u q v) (hh : u.holds t = true)
    (hc : command.givesBack = true) :
    (v.step clh t (.start command)).2 = (u.step hclh t (.start command)).2 ∧
      ∃ q', Mirrored (u.step hclh t (.start command)).1 q' (v.step clh t (.start command)).1 := by
  obtain ⟨own, k, rest, hs, hk, hl, he, h'⟩ := h.toSpliced.release hh hc
  have ho := own?_of_idle hs
  have hnode : node u t = some k := (node_of_own? ho).trans hk
  have hnodup := h.line_nodup
  rw [hl] at hnodup
  have hrest := (List.nodup_cons.mp hnodup).1
  have hline : (q.pass k).line = rest := congrArg List.tail hl
  obtain ⟨own, pred, cluster⟩ := own
  obtain rfl : pred = some q.gate := by simpa [ahead, hs, aheadOf] using h.ahead_first hl
  have hs' : v.seat t = .idle ⟨own, some q.gate⟩ := by rw [h.seat_eq t, hs, mirror]
  have hkv : k < v.shared.nodes.size := h.size_eq ▸ (h.node_shut t k hnode).lt
  have ht : clh.start command v.shared ⟨own, some q.gate⟩ = _ :=
    (Command.exclusive_of_givesBack hc).trans (Clh.release_eq hk hkv)
  have hclaims : (u.shared.pass cluster k q.gate).nodes.claims = u.shared.nodes.claims := by
    simp [Shared.pass, Arena.claims_modify]
  rw [step_start hs', ht, settle_done, h.holds_eq t, hh]
  rw [he] at h' ⊢
  refine ⟨rfl, q.pass k, { h' with
    tail_claimed := ?_
    tail_eq := h.tail_eq
    claims_eq := (Arena.claims_modify ..).trans (h.claims_eq.trans hclaims.symm)
    line_busy := ?_
    gate_idle := ?_
    seat_eq := seat_eq_put h.seat_eq t _ _ (.idle ⟨some q.gate, some q.gate, cluster⟩) _ _
    holds_eq := holds_eq_put h.holds_eq t _ _ _ _ false }⟩
  · intro c j hj
    exact (isClaimed_pass j).trans (h.tail_claimed c j hj)
  · intro s hm j hj
    rw [hline] at hm
    have hst : s ≠ t := fun he => hrest (he ▸ hm)
    rw [node_put, if_neg hst] at hj
    have hjk : j ≠ k := fun he => hst (h.node_inj s t k (he ▸ hj) hnode)
    have hbusy := h.line_busy s (hl ▸ List.mem_cons_of_mem t hm) j hj
    exact (Clh.Shared.node?_pass_of_ne hjk).trans hbusy
  · exact Clh.Shared.node?_pass_self hkv

/-- As long as nobody leaves, the nodes at the ends of the queues are claimed. -/
theorem Mirrored.not_recycles (h : Mirrored u q v) (action : Action Entry Command) :
    ¬ Recycles u t action := by
  intro hr
  obtain ⟨k, c, -, hfree, htail, -⟩ := h.exists_of_recycles hr
  simp [h.tail_claimed c k htail] at hfree

theorem Mirrored.join (h : Mirrored u q v) (entry : Entry) (hs : u.seat t = .vacant) :
    (v.step clh t (.join entry)).2.anonymous = (u.step hclh t (.join entry)).2.anonymous ∧
      Mirrored (u.step hclh t (.join entry)).1 q (v.step clh t (.join entry)).1 := by
  have hs' : v.seat t = .vacant := by rw [h.seat_eq t, hs, mirror]
  have hf : u.holds t = false :=
    Bool.eq_false_iff.mpr fun hh => h.not_engaged_of_vacant hs (.inl hh)
  have hf' : v.holds t = false := (h.holds_eq t).trans hf
  have hclaim : v.shared.nodes.claim?.map Prod.fst = u.shared.nodes.claim?.map Prod.fst := by
    rw [Arena.claim?_map_fst, Arena.claim?_map_fst, h.claims_eq]
  obtain ⟨hn, he⟩ | ⟨k, c, hfree, hn, he, h'⟩ := h.join_cases entry hs (h.not_recycles _)
  · rw [hn] at hclaim
    have hj := Clh.join_none (Option.map_eq_none_iff.mp hclaim) entry
    have hself : v.step clh t (.join entry) = _ := step_join_error clh hs' hj
    rw [← hs', put_self] at hself
    rw [hself, he]
    exact ⟨by simp [Answer.anonymous, Clh.Shared.capacity, Shared.capacity, h.size_eq], h⟩
  · rw [hn] at hclaim
    obtain ⟨⟨k', nodes⟩, hn', hk⟩ := Option.map_eq_some_iff.mp hclaim
    cases hk
    obtain ⟨-, -, rfl⟩ := Arena.isClaimed_of_claim? hn'
    have hlt := (Arena.isClaimed_of_claim? hn).1
    rw [step_join_ok clh hs' (Clh.join_some hn' entry), hf']
    rw [he] at h' ⊢
    refine ⟨rfl, { h' with
      tail_claimed := ?_
      tail_eq := h.tail_eq
      claims_eq := ?_
      line_busy := ?_
      gate_idle := (Arena.node?_setClaimed ..).trans h.gate_idle
      seat_eq := seat_eq_put h.seat_eq t _ _ (.idle ⟨some k, none, c⟩) _ _
      holds_eq := holds_eq_put h.holds_eq t _ _ _ _ false }⟩
    · intro d j hj
      refine (isClaimed_claim hlt j).trans ?_
      split
      · rfl
      · exact h.tail_claimed d j hj
    · show (v.shared.nodes.setClaimed k true).claims = (u.shared.claim c k).nodes.claims
      rw [claim, Arena.claims_modify, Arena.claims_setClaimed, Arena.claims_setClaimed, h.claims_eq]
    · intro s hm j hj
      have hst : s ≠ t := by
        rintro rfl
        exact h.not_engaged_of_vacant hs ((h.engaged_iff s).mpr (.inl hm))
      rw [node_put, if_neg hst] at hj
      exact (Arena.node?_setClaimed ..).trans (h.line_busy s hm j hj)

theorem Mirrored.step (h : Mirrored u q v) {action : Action Entry Command}
    (hp : u.permits t action = true) (hstay : action ≠ .leave) :
    (v.step clh t action).2.anonymous = (u.step hclh t action).2.anonymous ∧
      ∃ q', Mirrored (u.step hclh t action).1 q' (v.step clh t action).1 := by
  obtain ⟨cause, hcause, he⟩ | ⟨entry, rfl, hs⟩ | ⟨own, rfl, hs⟩ | ⟨own, command, rfl, hs⟩ |
    ⟨own, point, rfl, hs⟩ := step_cases hclh u t action
  · have hcause' : (v.seat t).refusal? action = some cause := by
      rw [h.seat_eq t, refusal?_mirror, hcause]
    rw [he, step_refused clh hcause']
    exact ⟨rfl, q, h⟩
  · obtain ⟨he, h'⟩ := h.join entry hs
    exact ⟨he, q, h'⟩
  · exact absurd rfl hstay
  · have hholds : command.givesBack = u.holds t := by simpa [permits] using hp
    cases hh : u.holds t with
    | true =>
      obtain ⟨he, h'⟩ := h.release hh (hholds.trans hh)
      exact ⟨congrArg Answer.anonymous he, h'⟩
    | false =>
      by_cases hc : command.asks = true
      · obtain ⟨k, hk, -⟩ := h.node_claimed t own (own?_of_idle hs)
        have hn : own.node = some k := (node_of_own? (own?_of_idle hs)).symm.trans hk
        obtain ⟨he, h'⟩ := h.acquire hs hh hc hn
        exact ⟨congrArg Answer.anonymous he, _, h'⟩
      · have hc := Bool.not_eq_true _ ▸ hc
        have hs' : v.seat t = .idle ⟨own.node, own.pred⟩ := by rw [h.seat_eq t, hs, mirror]
        rw [attempt_eq hs (hholds.trans hh) hc, Clh.attempt_eq hs' (hholds.trans hh) hc]
        exact ⟨anonymous_rejection .., q, h⟩
  · obtain ⟨he, h'⟩ := h.resume hs
    exact ⟨congrArg Answer.anonymous he, q, h'⟩

theorem mirrored_opening {config : Config} (hv : config.Valid) (n : Nat) :
    Mirrored (opening hclh config n) ⟨sentinel, [], fun _ => [], fun _ => none⟩
      (opening clh config n) := by
  have hs := sentinel_lt config.maxThreads (.ofParts 0 false false)
  rw [Arena.size_replicate] at hs
  exact { spliced_opening hv n with
    tail_claimed := fun c k hk => by cases (tail_create config c).symm.trans hk
    tail_eq := rfl
    claims_eq := by
      show (Clh.create config).nodes.claims = (create config).nodes.claims
      simp [Clh.create, create, Arena.claims_setClaimed, Arena.claims_replicate, sentinel,
        Clh.sentinel]
    line_busy := by simp
    gate_idle := by
      show (Clh.create config).nodes.node? sentinel = some false
      simp [Clh.create, Arena.node?_setClaimed, Arena.node?_replicate, hs]
    seat_eq := fun t => by
      rw [seat_opening hclh config n t, seat_opening clh config n t, mirror]
    holds_eq := fun _ => rfl }

end SpinLocks.Hclh
