import SpinLocks.Proofs.Hclh.Order

namespace SpinLocks.Hclh

open Shared Usage

variable {n : Nat} {u : Threads n} {t : Fin n} {own own' : Own} {gate k : Nat} {shared : Shared}
  {seat : Seat Own Wait} {holds : Bool}

theorem node_put_eq (ho : u.own? t = some own) (hseat : seat.own? = some own')
    (hn : own'.node = own.node) (s : Fin n) : node (u.put t shared seat holds) s = node u s := by
  rw [node_put]
  split
  · next he => rw [he, hseat, node_of_own? ho, ← hn, Option.bind_some]
  · rfl

theorem Seated.put (h : Seated u) (hlength : shared.queues.length = u.shared.queues.length)
    (hown : ∀ own, seat.own? = some own → own.cluster.toNat < u.shared.queues.length)
    (hidle : holds = true → ∃ own, seat = .idle own) : Seated (u.put t shared seat holds) where
  clusters_pos := by
    simp only [shared_put, hlength]
    exact h.clusters_pos
  clusters_le := by
    simp only [shared_put, hlength]
    exact h.clusters_le
  cluster_lt := by
    intro s own hs
    rw [own?_put] at hs
    simp only [shared_put, hlength]
    split at hs
    · exact hown own hs
    · exact h.cluster_lt s own hs
  holder_idle := holder_idle_put h.holder_idle hidle

theorem Linked.put (h : Linked u) (hsize : shared.nodes.size = u.shared.nodes.size)
    (htail : ∀ c k, shared.tail c = some k → k < u.shared.nodes.size)
    (hahead : ∀ k, aheadOf seat = some k → k < u.shared.nodes.size)
    (hpred : ∀ own k, seat.own? = some own → own.pred = some k → k < u.shared.nodes.size) :
    Linked (u.put t shared seat holds) where
  tail_lt := by
    simp only [shared_put, hsize]
    exact htail
  ahead_lt := by
    intro s k hs
    rw [ahead_put] at hs
    simp only [shared_put, hsize]
    split at hs
    · exact hahead k hs
    · exact h.ahead_lt s k hs
  pred_lt := by
    intro s own k hs hk
    rw [own?_put] at hs
    simp only [shared_put, hsize]
    split at hs
    · exact hpred own k hs hk
    · exact h.pred_lt s own k hs hk

section Owned

variable (h : Owned u gate)
include h

theorem Owned.put (ho : u.own? t = some own) (hseat : seat.own? = some own')
    (hn : own'.node = own.node)
    (hclaimed : ∀ j, shared.nodes.isClaimed j = u.shared.nodes.isClaimed j) :
    Owned (u.put t shared seat holds) gate where
  gate_claimed := by
    simp only [shared_put, hclaimed]
    exact h.gate_claimed
  gate_unowned := by
    intro s
    rw [node_put_eq ho hseat hn]
    exact h.gate_unowned s
  node_claimed := by
    intro s own₁ hs
    simp only [shared_put, hclaimed, node_put_eq ho hseat hn]
    rw [own?_put] at hs
    split at hs
    · next he => exact he ▸ h.node_claimed t own ho
    · exact h.node_claimed s own₁ hs
  node_inj := by
    intro r s k hr hs
    rw [node_put_eq ho hseat hn] at hr hs
    exact h.node_inj r s k hr hs

theorem Owned.node_ne_unclaimed (hf : u.shared.nodes.isClaimed k = false) (s : Fin n) :
    node u s ≠ some k := by
  intro he
  obtain ⟨own, ho, -⟩ := Option.bind_eq_some_iff.mp (show (u.own? s).bind Own.node = some k from he)
  obtain ⟨j, hj, hc⟩ := h.node_claimed s own ho
  cases he.symm.trans hj
  simp [hf] at hc

theorem Owned.pass (ho : u.own? t = some own) (hn : own.node = some k)
    (hseat : seat.own?.bind Own.node = some gate)
    (hclaimed : ∀ j, shared.nodes.isClaimed j = u.shared.nodes.isClaimed j) :
    Owned (u.put t shared seat holds) k := by
  have hnode : node u t = some k := (node_of_own? ho).trans hn
  have hk : u.shared.nodes.isClaimed k = true := by
    obtain ⟨j, hj, hc⟩ := h.node_claimed t own ho
    cases hnode.symm.trans hj
    exact hc
  exact {
    gate_claimed := by
      simp only [shared_put, hclaimed]
      exact hk
    gate_unowned := by
      intro s hs
      rw [node_put, hseat] at hs
      split at hs
      · exact h.gate_unowned t (hnode.trans hs.symm)
      · next hst => exact hst (h.node_inj s t k hs hnode)
    node_claimed := by
      intro s own₁ hs
      simp only [shared_put, hclaimed, node_put, hseat]
      rw [own?_put] at hs
      split at hs
      · next he => exact ⟨gate, by rw [if_pos he], h.gate_claimed⟩
      · next hst =>
        rw [if_neg hst]
        exact h.node_claimed s own₁ hs
    node_inj := by
      intro r s j hr hs
      rw [node_put, hseat] at hr hs
      split at hr
      · next he =>
        split at hs
        · next he' => exact he.trans he'.symm
        · exact absurd (hs.trans hr.symm) (h.gate_unowned s)
      · split at hs
        · exact absurd (hr.trans hs.symm) (h.gate_unowned r)
        · exact h.node_inj r s j hr hs }

theorem Owned.join (hf : u.shared.nodes.isClaimed k = false)
    (hseat : seat.own?.bind Own.node = some k)
    (hclaimed : ∀ j, shared.nodes.isClaimed j =
      if j = k then true else u.shared.nodes.isClaimed j) :
    Owned (u.put t shared seat holds) gate := by
  have hgate : gate ≠ k := by
    rintro rfl
    simp [h.gate_claimed] at hf
  have hclaimed' : ∀ j, u.shared.nodes.isClaimed j = true →
      shared.nodes.isClaimed j = true := by
    intro j hj
    rw [hclaimed, hj, ite_self]
  exact {
    gate_claimed := hclaimed' gate h.gate_claimed
    gate_unowned := by
      intro s hs
      rw [node_put, hseat] at hs
      split at hs
      · exact hgate (Option.some.inj hs).symm
      · exact h.gate_unowned s hs
    node_claimed := by
      intro s own₁ hs
      simp only [shared_put, node_put, hseat]
      rw [own?_put] at hs
      split at hs
      · next he => exact ⟨k, by rw [if_pos he], by rw [hclaimed, if_pos rfl]⟩
      · next hst =>
        obtain ⟨j, hj, hc⟩ := h.node_claimed s own₁ hs
        exact ⟨j, by rw [if_neg hst, hj], hclaimed' j hc⟩
    node_inj := by
      intro r s j hr hs
      rw [node_put, hseat] at hr hs
      split at hr
      · next he =>
        split at hs
        · next he' => exact he.trans he'.symm
        · exact absurd (hs.trans hr.symm) (h.node_ne_unclaimed hf s)
      · split at hs
        · exact absurd (hr.trans hs.symm) (h.node_ne_unclaimed hf r)
        · exact h.node_inj r s j hr hs }

theorem Owned.leave (ho : u.own? t = some own) (hn : own.node = some k)
    (hclaimed : ∀ j, shared.nodes.isClaimed j =
      if j = k then false else u.shared.nodes.isClaimed j) :
    Owned (u.put t shared .vacant holds) gate := by
  have hnode : node u t = some k := (node_of_own? ho).trans hn
  have hvacant : (Seat.vacant : Seat Own Wait).own?.bind Own.node = none := rfl
  exact {
    gate_claimed := by
      have hgate : gate ≠ k := fun he => h.gate_unowned t (he ▸ hnode)
      simp only [shared_put, hclaimed, if_neg hgate]
      exact h.gate_claimed
    gate_unowned := by
      intro s hs
      rw [node_put, hvacant] at hs
      split at hs
      · cases hs
      · exact h.gate_unowned s hs
    node_claimed := by
      intro s own₁ hs
      rw [own?_put] at hs
      split at hs
      · cases hs
      next hst =>
      obtain ⟨j, hj, hc⟩ := h.node_claimed s own₁ hs
      have hjk : j ≠ k := fun he => hst (h.node_inj s t k (he ▸ hj) hnode)
      simp only [shared_put, node_put, if_neg hst, hclaimed]
      exact ⟨j, hj, by rw [if_neg hjk, hc]⟩
    node_inj := by
      intro r s j hr hs
      rw [node_put, hvacant] at hr hs
      split at hr
      · cases hr
      split at hs
      · cases hs
      exact h.node_inj r s j hr hs }

end Owned

/-- What a thread has to see to that moves: the state of its own node, and that nothing changes for
the nodes of the others. -/
theorem Marked.put {gate' : Nat} (h : Marked u gate) (hopen : shared.Open gate')
    (hmine : ∀ own k, seat.own? = some own → own.node = some k → shared.Shut k ∧
      (∀ c, shared.Local c k → c = own.cluster) ∧
      (seat = .idle own → holds = false → shared.Local own.cluster k))
    (hothers : ∀ s k, s ≠ t → node u s = some k → (u.shared.Shut k → shared.Shut k) ∧
      (∀ c, shared.Local c k → u.shared.Local c k) ∧
      ∀ own, u.seat s = .idle own → u.shared.Local own.cluster k → shared.Local own.cluster k) :
    Marked (u.put t shared seat holds) gate' where
  gate_open := hopen
  node_shut := by
    intro s k hs
    rw [node_put] at hs
    split at hs
    · obtain ⟨own, ho, hn⟩ := Option.bind_eq_some_iff.mp hs
      exact (hmine own k ho hn).1
    · next hst => exact (hothers s k hst hs).1 (h.node_shut s k hs)
  node_local := by
    intro s own k c ho hs hl
    rw [node_put] at hs
    rw [own?_put] at ho
    split at hs
    · next he =>
      rw [if_pos he] at ho
      rw [ho] at hs
      exact (hmine own k ho hs).2.1 c hl
    · next hst =>
      rw [if_neg hst] at ho
      exact h.node_local s own k c ho hs ((hothers s k hst hs).2.1 c hl)
  node_fresh := by
    intro s own k hseat hf hs
    rw [node_put] at hs
    rw [seat_put] at hseat
    rw [holds_put] at hf
    split at hs
    · next he =>
      rw [if_pos he] at hseat hf
      have ho : seat.own? = some own := by rw [hseat]; rfl
      rw [ho] at hs
      exact (hmine own k ho hs).2.2 hseat hf
    · next hst =>
      rw [if_neg hst] at hseat hf
      exact (hothers s k hst hs).2.2 own hseat (h.node_fresh s own k hseat hf hs)

theorem Placed.node_ne_unclaimed (h : Placed u gate) (hf : u.shared.nodes.isClaimed k = false)
    (s : Fin n) : node u s ≠ some k :=
  h.toOwned.node_ne_unclaimed hf s

theorem Placed.enqueue (h : Placed u gate) (hs : u.seat t = .idle own) :
    Placed (u.put t (u.shared.enqueue own.cluster own.node)
      (.waiting own (.localPred (u.shared.tail own.cluster))) false) gate := by
  have ho := own?_of_idle hs
  have hlt := h.cluster_lt t own ho
  obtain ⟨k, hk, hclaimed⟩ := h.node_claimed t own ho
  have hn : own.node = some k := (node_of_own? ho).symm.trans hk
  refine ⟨h.toSeated.put length_enqueue ?_ (by simp), h.toOwned.put ho rfl rfl fun _ => rfl,
    h.toMarked.put h.gate_open ?_ ?_, h.toLinked.put rfl ?_ ?_ ?_⟩
  · rintro own' ⟨⟩
    exact hlt
  · rintro own' j ⟨⟩ hj
    have hj : node u t = some j := (node_of_own? ho).trans hj
    exact ⟨h.node_shut t j hj, fun c => h.node_local t own j c ho hj, by simp⟩
  · exact fun s j _ _ => ⟨id, fun _ => id, fun _ _ => id⟩
  · intro c j hj
    rw [tail_enqueue hlt] at hj
    split at hj
    · rw [hn] at hj
      cases hj
      exact Arena.lt_of_isClaimed hclaimed
    · exact h.tail_lt c j hj
  · exact h.tail_lt own.cluster
  · rintro own' j ⟨⟩ hj
    exact h.pred_lt t own j ho hj

theorem Placed.splice {last : Nat} {p w : Link} (h : Placed u gate)
    (hs : u.seat t = .waiting own (.localPred p)) {a : Fin n} (ha : node u a = some last)
    (haw : u.waits a = true) (hw : ∀ k, w = some k → k < u.shared.nodes.size) :
    Placed (u.put t (u.shared.spliceTo last) (.waiting own (.globalPred w)) false) gate := by
  have ho := own?_of_waiting hs
  refine ⟨h.toSeated.put rfl ?_ (by simp),
    h.toOwned.put ho rfl rfl fun j => isClaimed_spliceTo j,
    h.toMarked.put (open_spliceTo.mpr h.gate_open) ?_ ?_,
    h.toLinked.put size_spliceTo h.tail_lt hw ?_⟩
  · rintro own' ⟨⟩
    exact h.cluster_lt t own ho
  · rintro own' j ⟨⟩ hj
    have hj : node u t = some j := (node_of_own? ho).trans hj
    exact ⟨shut_spliceTo.mpr (h.node_shut t j hj),
      fun c hc => h.node_local t own j c ho hj (local_spliceTo.mp hc).2, by simp⟩
  · refine fun s j _ hj => ⟨shut_spliceTo.mpr, fun c hc => (local_spliceTo.mp hc).2,
      fun own' hs' hc => local_spliceTo.mpr ⟨?_, hc⟩⟩
    -- The thread whose node is marked waits.
    rintro rfl
    cases h.node_inj s a j hj ha
    simp [waits, hs', Seat.waits] at haw
  · rintro own' j ⟨⟩ hj
    exact h.pred_lt t own j ho hj

theorem Placed.grant {w : Wait} (h : Placed u gate) (hs : u.seat t = .waiting own w)
    (ha : ahead u t = some k) :
    Placed (u.put t u.shared (.idle { own with pred := some k }) true) gate := by
  have ho := own?_of_waiting hs
  have hk := h.ahead_lt t k ha
  refine ⟨h.toSeated.put rfl ?_ (fun _ => ⟨_, rfl⟩), h.toOwned.put ho rfl rfl fun _ => rfl,
    h.toMarked.put h.gate_open ?_ ?_, h.toLinked.put rfl h.tail_lt ?_ ?_⟩
  · rintro own' ⟨⟩
    exact h.cluster_lt t own ho
  · rintro own' j ⟨⟩ hj
    have hj : node u t = some j := (node_of_own? ho).trans hj
    exact ⟨h.node_shut t j hj, fun c => h.node_local t own j c ho hj, by simp⟩
  · exact fun s j _ _ => ⟨id, fun _ => id, fun _ _ => id⟩
  · rintro j ⟨⟩
    exact hk
  · rintro own' j ⟨⟩ ⟨⟩
    exact hk

theorem Placed.pass (h : Placed u gate) (hs : u.seat t = .idle own) (hn : own.node = some k) :
    Placed (u.put t (u.shared.pass own.cluster k gate) (.idle { own with node := some gate })
      false) k := by
  have ho := own?_of_idle hs
  have hnode : node u t = some k := (node_of_own? ho).trans hn
  have hlt := (h.node_shut t k hnode).lt
  have hglt := h.gate_open.lt
  have hne : k ≠ gate := fun he => h.gate_unowned t (he ▸ hnode)
  have hpred : ∀ j, own.pred = some j → j < u.shared.nodes.size := fun j => h.pred_lt t own j ho
  refine ⟨h.toSeated.put rfl ?_ (by simp), h.toOwned.pass ho hn rfl fun j => isClaimed_pass j,
    h.toMarked.put (open_pass hlt hne) ?_ ?_, h.toLinked.put size_pass h.tail_lt hpred ?_⟩
  · rintro own' ⟨⟩
    exact h.cluster_lt t own ho
  · rintro own' j ⟨⟩ ⟨⟩
    exact ⟨shut_pass_pred hglt, fun c hc => ((local_pass_pred hglt).mp hc).symm,
      fun _ _ => (local_pass_pred hglt).mpr rfl⟩
  · intro s j hst hj
    have hjk : j ≠ k := fun he => hst (h.node_inj s t k (he ▸ hj) hnode)
    have hjg : j ≠ gate := fun he => h.gate_unowned s (he ▸ hj)
    exact ⟨(shut_pass_of_ne hjk hjg).mpr, fun c => (local_pass_of_ne hjg).mp,
      fun _ _ => (local_pass_of_ne hjg).mpr⟩
  · rintro own' j ⟨⟩ hj
    exact hpred j hj

theorem Placed.join {c : UInt8} (h : Placed u gate)
    (hk : k < u.shared.nodes.size) (hf : u.shared.nodes.isClaimed k = false)
    (hc : c.toNat < u.shared.queues.length) :
    Placed (u.put t (u.shared.claim c k) (.idle ⟨some k, none, c⟩) false) gate := by
  have hgate : gate ≠ k := by
    rintro rfl
    simp [h.gate_claimed] at hf
  refine ⟨h.toSeated.put rfl ?_ (by simp), h.toOwned.join hf rfl (isClaimed_claim hk),
    h.toMarked.put ((open_claim hk).mpr ⟨hgate, h.gate_open⟩) ?_ ?_,
    h.toLinked.put size_claim h.tail_lt (by simp [aheadOf]) ?_⟩
  · rintro own' ⟨⟩
    exact hc
  · rintro own' j ⟨⟩ ⟨⟩
    have hl (d : UInt8) : (u.shared.claim c k).Local d k ↔ c = d := by
      rw [local_claim hk, if_pos rfl]
    exact ⟨(shut_claim hk).mpr (.inl rfl), fun d hd => ((hl d).mp hd).symm,
      fun _ _ => (hl c).mpr rfl⟩
  · intro s j _ hj
    have hjk : j ≠ k := fun he => h.node_ne_unclaimed hf s (he ▸ hj)
    have hl (d : UInt8) : (u.shared.claim c k).Local d j ↔ u.shared.Local d j := by
      rw [local_claim hk, if_neg hjk]
    exact ⟨fun hs => (shut_claim hk).mpr (.inr hs), fun d => (hl d).mp,
      fun own _ => (hl own.cluster).mpr⟩
  · rintro own' j ⟨⟩ ⟨⟩

theorem Placed.leave (h : Placed u gate) (hs : u.seat t = .idle own) (hn : own.node = some k) :
    Placed (u.put t (u.shared.unclaim k) .vacant false) gate := by
  have ho := own?_of_idle hs
  have hk := (h.node_shut t k ((node_of_own? ho).trans hn)).lt
  refine ⟨h.toSeated.put rfl (by simp [Seat.own?]) (by simp),
    h.toOwned.leave ho hn (isClaimed_unclaim hk),
    h.toMarked.put (open_unclaim.mpr h.gate_open) (by simp [Seat.own?]) ?_,
    h.toLinked.put size_unclaim h.tail_lt (by simp [aheadOf]) (by simp [Seat.own?])⟩
  exact fun s j _ _ => ⟨shut_unclaim.mpr, fun _ => local_unclaim.mp,
    fun _ _ => local_unclaim.mpr⟩

end SpinLocks.Hclh
