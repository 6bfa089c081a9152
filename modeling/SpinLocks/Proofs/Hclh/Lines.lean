import SpinLocks.Proofs.Hclh.Nodes

namespace SpinLocks.Hclh

open Shared Usage

variable {n : Nat} {u : Threads n} {q : Order n} {t : Fin n} {own : Own} {k : Nat}

theorem Shared.Local.unique {shared : Shared} {c d : UInt8} (hc : shared.Local c k)
    (hd : shared.Local d k) : c = d := by
  obtain ⟨state, hs, -, rfl⟩ := hc
  obtain ⟨state', hs', -, rfl⟩ := hd
  cases hs.symm.trans hs'
  rfl

theorem Ordered.not_mem (h : Ordered u q) (ht : ¬ u.Engaged t) :
    t ∉ q.line ∧ ∀ c, t ∉ q.apart c :=
  ⟨fun hm => ht ((h.engaged_iff t).mpr (.inl hm)),
    fun c hm => ht ((h.engaged_iff t).mpr (.inr ⟨c, hm⟩))⟩

theorem Ordered.node_of_has (h : Ordered u q) (ht : q.Has t) :
    ∃ k own, u.own? t = some own ∧ node u t = some k ∧ u.shared.Shut k := by
  obtain ⟨own, ho⟩ := exists_own_of_engaged h.holder_idle ((h.engaged_iff t).mpr ht)
  obtain ⟨k, hk, -⟩ := h.node_claimed t own ho
  exact ⟨k, own, ho, hk, h.node_shut t k hk⟩

/-- The global tail is the gate, or the node of the last of the line. -/
theorem Ordered.global_eq (h : Ordered u q) :
    (q.line = [] ∧ u.shared.global = some q.gate) ∨
      ∃ t ∈ q.line, ∃ k, node u t = some k ∧ u.shared.global = some k ∧ u.shared.Shut k := by
  by_cases hl : q.line = []
  · have hc := h.line_chain
    rw [hl] at hc
    exact .inl ⟨hl, hc.symm⟩
  · obtain ⟨t, ht, he⟩ := h.line_chain.last_mem hl
    obtain ⟨k, own, -, hk, hshut⟩ := h.node_of_has (.inl ht)
    exact .inr ⟨t, ht, k, hk, he.symm.trans hk, hshut⟩

theorem Ordered.apart_unique (h : Ordered u q) {c d : UInt8} (hc : t ∈ q.apart c)
    (hd : t ∈ q.apart d) : c = d := by
  obtain ⟨own, pred, hs, rfl⟩ := h.apart_waits c t hc
  obtain ⟨own', pred', hs', rfl⟩ := h.apart_waits d t hd
  cases hs.symm.trans hs'
  rfl

section Put

variable (h : Ordered u q) {shared : Shared} {seat : Seat Own Wait} {holds : Bool}
include h

theorem Ordered.apart_waits_put (hout : ∀ c, t ∉ q.apart c) (c : UInt8) (s : Fin n)
    (hm : s ∈ q.apart c) : ∃ own pred,
      (u.put t shared seat holds).seat s = .waiting own (.localPred pred) ∧ own.cluster = c := by
  have hst : s ≠ t := fun he => hout c (he ▸ hm)
  rw [seat_put, if_neg hst]
  exact h.apart_waits c s hm

theorem Ordered.holder_first_put (s : Fin n)
    (hh : (u.put t shared seat false).holds s = true) : ∃ rest, q.line = s :: rest := by
  rw [holds_put] at hh
  split at hh
  · cases hh
  · exact h.holder_first s hh

end Put

theorem Ordered.enqueue (h : Ordered u q) (hs : u.seat t = .idle own) (hf : u.holds t = false) :
    Ordered (u.put t (u.shared.enqueue own.cluster own.node)
        (.waiting own (.localPred (u.shared.tail own.cluster))) false)
      (q.enqueue own.cluster t) := by
  have ho := own?_of_idle hs
  have hn := node_of_own? ho
  have hw : u.waits t = false := by simp [waits, hs, Seat.waits]
  obtain ⟨hline, hapart⟩ := h.not_mem (t := t) (by simp [Engaged, hf, hw])
  have hlt := h.cluster_lt t own ho
  exact {
    h.toPlaced.enqueue hs with
    line_chain := chain_put h.line_chain hline ..
    apart_chain := by
      intro c
      have hc := chain_put (h.apart_chain c) (hapart c) (u.shared.enqueue own.cluster own.node)
        (.waiting own (.localPred (u.shared.tail own.cluster))) false
      simp only [Order.apart_enqueue, Order.base_enqueue, shared_put, tail_enqueue hlt]
      split
      · next he =>
        subst he
        exact hc.append ⟨by simp [ahead_put, aheadOf], by simp [Chain, node_put, Seat.own?]⟩
      · exact hc
    line_nodup := h.line_nodup
    apart_nodup := by
      intro c
      rw [Order.apart_enqueue]
      split
      · exact List.concat_eq_append ▸ (h.apart_nodup _).concat (hapart _)
      · exact h.apart_nodup c
    engaged_iff := by
      intro s
      rw [engaged_put, Order.has_enqueue, ← h.engaged_iff]
      by_cases he : s = t <;> simp [he, Seat.waits]
    apart_out := by
      intro c s hm
      obtain hm | ⟨-, rfl⟩ := Order.mem_apart_enqueue.mp hm
      · exact h.apart_out c s hm
      · exact hline
    apart_waits := by
      intro c s hm
      obtain hm | ⟨rfl, rfl⟩ := Order.mem_apart_enqueue.mp hm
      · have hst : s ≠ t := fun he => hapart c (he ▸ hm)
        rw [seat_put, if_neg hst]
        exact h.apart_waits c s hm
      · exact ⟨own, _, seat_put_self .., rfl⟩
    apart_local := by
      intro c s k hm hk
      obtain hm | ⟨rfl, rfl⟩ := Order.mem_apart_enqueue.mp hm
      · have hst : s ≠ t := fun he => hapart c (he ▸ hm)
        rw [node_put, if_neg hst] at hk
        exact h.apart_local c s k hm hk
      · rw [node_put, if_pos rfl] at hk
        exact h.node_fresh s own k hs hf (hn.trans hk)
    holder_first := h.holder_first_put
    line_local := by
      intro s hm own' k hs'
      have hst : s ≠ t := fun he => hline (he ▸ hm)
      rw [seat_put, if_neg hst] at hs'
      exact h.line_local s hm own' k hs'
    base_shut := by
      intro c k hb hlocal
      obtain ⟨hshut, hout⟩ := h.base_shut c k hb hlocal
      refine ⟨hshut, fun s hm he => ?_⟩
      have hst : s ≠ t := fun he => hline (he ▸ hm)
      rw [node_put, if_neg hst] at he
      exact hout s hm he }

section Splice

variable {p : Link} {last : Nat} {rest : List (Fin n)} (h : Ordered u q)
include h

theorem Ordered.global_lt (hk : u.shared.global = some k) : k < u.shared.nodes.size := by
  obtain ⟨-, he⟩ | ⟨s, -, j, -, he, hshut⟩ := h.global_eq
  · cases hk.symm.trans he
    exact h.gate_open.lt
  · cases hk.symm.trans he
    exact hshut.lt

theorem Ordered.node_inj_of_has {r s : Fin n} (hr : q.Has r) (he : node u r = node u s) :
    r = s := by
  obtain ⟨k, -, -, hk, -⟩ := h.node_of_has hr
  exact h.node_inj r s k hk (he ▸ hk)

/-- The queue of a cluster in which threads wait apart ends at the node of one of them. -/
theorem Ordered.exists_last {c : UInt8} (ha : q.apart c ≠ [])
    (hl : u.shared.tail c = some last) :
    ∃ a ∈ q.apart c, u.waits a = true ∧ node u a = some last := by
  obtain ⟨a, ham, hlast⟩ := (h.apart_chain c).last_mem ha
  obtain ⟨own', pred, hs', -⟩ := h.apart_waits c a ham
  exact ⟨a, ham, waits_iff.mpr ⟨own', _, hs'⟩, hlast.trans hl⟩

/-- The node that ends the queue of a cluster is ahead of nobody in the line, and of nobody who
waits apart. -/
theorem Ordered.local_spliceTo_ahead {a s : Fin n} {own' : Own}
    (ha : q.apart own.cluster = t :: rest) (hl : u.shared.tail own.cluster = some last)
    (ham : a ∈ q.apart own.cluster) (hlast : node u a = some last) (hst : s ≠ t)
    (hm : s ∈ q.line ++ q.apart own.cluster)
    (hs : u.seat s = .waiting own' (.localPred (some k))) :
    (u.shared.spliceTo last).Local own'.cluster k := by
  have hahead : ahead u s = some k := by simp [ahead, hs, aheadOf]
  refine local_spliceTo.mpr ?_
  obtain hleft | hr := List.mem_append.mp hm
  · refine ⟨?_, h.line_local s hleft own' k hs⟩
    rintro rfl
    obtain he | ⟨b, hb, he⟩ := h.line_chain.ahead_mem hleft
    · exact h.gate_unowned a (hlast.trans (hahead.symm.trans he))
    · have hba := h.node_inj_of_has (s := a) (.inl hb) (he.trans (hahead.trans hlast.symm))
      exact h.apart_out _ a ham (hba ▸ hb)
  · have hchain := h.apart_chain own.cluster
    have hnodup := h.apart_nodup own.cluster
    rw [ha] at hchain hnodup
    rw [hl] at hchain
    obtain ⟨own'', pred, hs', hc⟩ := h.apart_waits _ s hr
    cases hs.symm.trans hs'
    have hm' : s ∈ rest := (List.mem_cons.mp (ha ▸ hr)).resolve_left hst
    obtain ⟨b, hb, he, hne⟩ := hchain.ahead_mem_rest hnodup
      (fun r hr s _ he => h.node_inj_of_has (.inr ⟨_, ha ▸ hr⟩) he) hm'
    rw [hahead] at he
    rw [hc]
    exact ⟨fun hk => hne (he.trans (congrArg some hk)), h.apart_local _ b k (ha ▸ hb) he⟩

theorem Ordered.splice (hs : u.seat t = .waiting own (.localPred p))
    (ha : q.apart own.cluster = t :: rest) (hl : u.shared.tail own.cluster = some last) :
    Ordered (u.put t (u.shared.spliceTo last) (.waiting own (.globalPred u.shared.global)) false)
      (q.splice own.cluster last) := by
  have hn := node_of_own? (own?_of_waiting hs)
  have htm : t ∈ q.apart own.cluster := ha ▸ List.mem_cons_self
  obtain ⟨a, ham, haw, hlast⟩ := h.exists_last (List.ne_nil_of_mem htm) hl
  have hnode : ∀ s, node (u.put t (u.shared.spliceTo last)
      (.waiting own (.globalPred u.shared.global)) false) s = node u s := by
    intro s
    by_cases he : s = t <;> simp [node_put, Seat.own?, he, hn]
  have hother : ∀ c, c ≠ own.cluster → t ∉ q.apart c := fun c hc hm => hc (h.apart_unique hm htm)
  exact {
    h.toPlaced.splice hs hlast haw fun k => h.global_lt with
    line_chain := by
      -- Those who waited apart keep their links, but for the first, who waits for the old tail now.
      have hchain := h.apart_chain own.cluster
      have hnodup := h.apart_nodup own.cluster
      rw [ha] at hchain hnodup
      rw [hl] at hchain
      refine (chain_put h.line_chain (h.apart_out _ t htm) ..).append ?_
      rw [ha]
      refine ⟨by simp [ahead_put, aheadOf], ?_⟩
      have hc := chain_put hchain.2 (List.nodup_cons.mp hnodup).1 (u.shared.spliceTo last)
        (.waiting own (.globalPred u.shared.global)) false
      rw [hnode]
      exact hc
    apart_chain := by
      intro c
      rw [Order.apart_splice, Order.base_splice]
      split
      · next he => exact (he ▸ hl).symm
      · next he => exact chain_put (h.apart_chain c) (hother c he) ..
    line_nodup := List.nodup_append.mpr ⟨h.line_nodup, h.apart_nodup _, fun s hs r hr he =>
      h.apart_out _ r hr (he ▸ hs)⟩
    apart_nodup := by
      intro c
      rw [Order.apart_splice]
      split
      · exact List.nodup_nil
      · exact h.apart_nodup c
    engaged_iff := by
      intro s
      rw [engaged_put, Order.has_splice, ← h.engaged_iff]
      by_cases he : s = t
      · subst he
        simp [Seat.waits, Engaged, waits, hs]
      · simp [he]
    apart_out := by
      intro c s hm
      obtain ⟨hc, hm⟩ := Order.mem_apart_splice.mp hm
      rw [Order.line_splice, List.mem_append]
      exact not_or.mpr ⟨h.apart_out c s hm, fun hm' => hc (h.apart_unique hm hm')⟩
    apart_waits := by
      intro c s hm
      obtain ⟨hc, hm⟩ := Order.mem_apart_splice.mp hm
      have hst : s ≠ t := fun he => hother c hc (he ▸ hm)
      rw [seat_put, if_neg hst]
      exact h.apart_waits c s hm
    apart_local := by
      intro c s k hm hk
      obtain ⟨hc, hm⟩ := Order.mem_apart_splice.mp hm
      rw [hnode] at hk
      refine local_spliceTo.mpr ⟨fun he => hc ?_, h.apart_local c s k hm hk⟩
      have hsa : s = a := h.node_inj s a last (he ▸ hk) hlast
      exact h.apart_unique hm (hsa ▸ ham)
    holder_first := by
      intro s hh
      obtain ⟨rest', hl'⟩ := h.holder_first_put s hh
      exact ⟨rest' ++ q.apart own.cluster, by rw [Order.line_splice, hl', List.cons_append]⟩
    line_local := by
      intro s hm own' k hs'
      by_cases hst : s = t
      · simp [seat_put, hst] at hs'
      · rw [seat_put, if_neg hst] at hs'
        exact h.local_spliceTo_ahead ha hl ham hlast hst hm hs'
    base_shut := by
      intro c k hb hlocal
      obtain ⟨hk, hlocal⟩ := local_spliceTo.mp hlocal
      rw [Order.base_splice] at hb
      split at hb
      · exact absurd (Option.some.inj hb).symm hk
      · next hc =>
        obtain ⟨hshut, hout⟩ := h.base_shut c k hb hlocal
        refine ⟨shut_spliceTo.mpr hshut, fun s hm he => ?_⟩
        rw [hnode] at he
        obtain hm | hm := List.mem_append.mp hm
        · exact hout s hm he
        · exact hc (hlocal.unique (h.apart_local _ s k hm he)) }

end Splice

theorem Ordered.grant {w : Wait} {rest : List (Fin n)} (h : Ordered u q)
    (hs : u.seat t = .waiting own w) (hl : q.line = t :: rest) :
    Ordered (u.put t u.shared (.idle { own with pred := some q.gate }) true) q := by
  have ho := own?_of_waiting hs
  have hn := node_of_own? ho
  have hchain := h.line_chain
  rw [hl] at hchain
  have ha := hchain.1
  have hsame : ∀ s,
      ahead (u.put t u.shared (.idle { own with pred := some q.gate }) true) s = ahead u s ∧
        node (u.put t u.shared (.idle { own with pred := some q.gate }) true) s = node u s := by
    intro s
    by_cases he : s = t <;> simp [ahead_put, node_put, he, aheadOf, Seat.own?, ha, hn]
  have hout : ∀ c, t ∉ q.apart c := fun c hm => h.apart_out c t hm (hl ▸ List.mem_cons_self)
  exact {
    h.toPlaced.grant hs ha with
    line_chain := h.line_chain.congr fun s _ => hsame s
    apart_chain := fun c => (h.apart_chain c).congr fun s _ => hsame s
    line_nodup := h.line_nodup
    apart_nodup := h.apart_nodup
    engaged_iff := by
      intro s
      rw [engaged_put, ← h.engaged_iff]
      by_cases he : s = t
      · subst he
        simp [Engaged, waits, hs, Seat.waits]
      · simp [he]
    apart_out := h.apart_out
    apart_waits := h.apart_waits_put hout
    apart_local := by
      intro c s k hm hk
      exact h.apart_local c s k hm ((hsame s).2.symm.trans hk)
    holder_first := by
      intro s hh
      rw [holds_put] at hh
      split at hh
      · next he => exact ⟨rest, he ▸ hl⟩
      · exact h.holder_first s hh
    line_local := by
      intro s hm own' k hs'
      rw [seat_put] at hs'
      split at hs'
      · cases hs'
      · exact h.line_local s hm own' k hs'
    base_shut := by
      intro c k hb hlocal
      obtain ⟨hshut, hout⟩ := h.base_shut c k hb hlocal
      exact ⟨hshut, fun s hm he => hout s hm ((hsame s).2.symm.trans he)⟩ }

theorem Ordered.pass {rest : List (Fin n)} (h : Ordered u q) (hs : u.seat t = .idle own)
    (hn : own.node = some k) (hl : q.line = t :: rest) :
    Ordered (u.put t (u.shared.pass own.cluster k q.gate) (.idle { own with node := some q.gate })
      false) (q.pass k) := by
  have ho := own?_of_idle hs
  have hnode := node_of_own? ho
  have hk := hnode.trans hn
  have hchain := h.line_chain
  have hnodup := h.line_nodup
  rw [hl] at hchain hnodup
  obtain ⟨hrest, hnodup⟩ := List.nodup_cons.mp hnodup
  have hline : (q.pass k).line = rest := congrArg List.tail hl
  have hmem : ∀ s ∈ rest, s ∈ q.line ∧ s ≠ t := fun s hm =>
    ⟨hl ▸ List.mem_cons_of_mem t hm, fun he => hrest (he ▸ hm)⟩
  have hout : ∀ c, t ∉ q.apart c := fun c hm => h.apart_out c t hm (hl ▸ List.mem_cons_self)
  have hglt := h.gate_open.lt
  have hne : k ≠ q.gate := fun he => h.gate_unowned t (he ▸ hk)
  exact {
    h.toPlaced.pass hs hn with
    line_chain := by
      rw [hline]
      exact hk ▸ chain_put hchain.2 hrest ..
    apart_chain := fun c => chain_put (h.apart_chain c) (hout c) ..
    line_nodup := hline ▸ hnodup
    apart_nodup := h.apart_nodup
    engaged_iff := by
      intro s
      rw [engaged_put, Order.Has, hline]
      by_cases he : s = t
      · subst he
        simpa [Seat.waits, hrest, Order.pass] using fun c => hout c
      · rw [if_neg he, h.engaged_iff, Order.Has, hl]
        simp [he, Order.pass]
    apart_out := fun c s hm hm' => h.apart_out c s hm (hmem s (hline ▸ hm')).1
    apart_waits := h.apart_waits_put hout
    apart_local := by
      intro c s j hm hj
      have hst : s ≠ t := fun he => hout c (he ▸ hm)
      rw [node_put, if_neg hst] at hj
      have hj' : j ≠ q.gate := fun he => h.gate_unowned s (he ▸ hj)
      exact (local_pass_of_ne hj').mpr (h.apart_local c s j hm hj)
    holder_first := by
      intro s hh
      rw [holds_put] at hh
      split at hh
      · cases hh
      · next he =>
        obtain ⟨rest', hl'⟩ := h.holder_first s hh
        exact absurd (List.cons.inj (hl'.symm.trans hl)).1 he
    line_local := by
      intro s hm own' j hs'
      obtain ⟨hm', hst⟩ := hmem s (hline ▸ hm)
      rw [seat_put, if_neg hst] at hs'
      have hahead : ahead u s = some j := by simp [ahead, hs', aheadOf]
      have hj : j ≠ q.gate := by
        rintro rfl
        obtain he | ⟨b, -, he⟩ := hchain.2.ahead_mem (hline ▸ hm)
        · exact h.gate_unowned t (he.symm.trans hahead)
        · exact h.gate_unowned b (he.trans hahead)
      exact (local_pass_of_ne hj).mpr (h.line_local s hm' own' j hs')
    base_shut := by
      intro c j hb hlocal
      have hb : q.base c = some j := hb
      by_cases hj : j = q.gate
      · subst hj
        refine ⟨shut_pass_pred hglt, fun s hm he => ?_⟩
        rw [node_put, if_neg (hmem s (hline ▸ hm)).2] at he
        exact h.gate_unowned s he
      · obtain ⟨hshut, hbase⟩ := h.base_shut c j hb ((local_pass_of_ne hj).mp hlocal)
        have hjk : j ≠ k := fun he => hbase t (hl ▸ List.mem_cons_self) (he ▸ hk)
        refine ⟨(shut_pass_of_ne hjk hj).mpr hshut, fun s hm he => ?_⟩
        obtain ⟨hm, hst⟩ := hmem s (hline ▸ hm)
        rw [node_put, if_neg hst] at he
        exact hbase s hm he }

theorem Ordered.join {c : UInt8} (h : Ordered u q) (hs : u.seat t = .vacant)
    (hk : k < u.shared.nodes.size) (hf : u.shared.nodes.isClaimed k = false)
    (hc : c.toNat < u.shared.queues.length) :
    Ordered (u.put t (u.shared.claim c k) (.idle ⟨some k, none, c⟩) false) q := by
  have hn := h.node_ne_unclaimed hf
  have hvacant := not_engaged_vacant h.holder_idle hs
  obtain ⟨hline, hapart⟩ := h.not_mem hvacant
  exact {
    h.toPlaced.join hk hf hc with
    line_chain := chain_put h.line_chain hline ..
    apart_chain := fun c => chain_put (h.apart_chain c) (hapart c) ..
    line_nodup := h.line_nodup
    apart_nodup := h.apart_nodup
    engaged_iff := by
      intro s
      rw [engaged_put, ← h.engaged_iff]
      by_cases he : s = t
      · subst he
        simpa [Seat.waits] using hvacant
      · simp [he]
    apart_out := h.apart_out
    apart_waits := h.apart_waits_put hapart
    apart_local := by
      intro d s j hm hj
      have hst : s ≠ t := fun he => hapart d (he ▸ hm)
      rw [node_put, if_neg hst] at hj
      have hjk : j ≠ k := fun he => hn s (he ▸ hj)
      simpa [local_claim hk, hjk] using h.apart_local d s j hm hj
    holder_first := h.holder_first_put
    line_local := by
      intro s hm own' j hs'
      have hst : s ≠ t := fun he => hline (he ▸ hm)
      rw [seat_put, if_neg hst] at hs'
      have hahead : ahead u s = some j := by simp [ahead, hs', aheadOf]
      have hjk : j ≠ k := by
        rintro rfl
        obtain he | ⟨b, -, he⟩ := h.line_chain.ahead_mem hm
        · cases hahead.symm.trans he
          simp [h.gate_claimed] at hf
        · exact hn b (he.trans hahead)
      simpa [local_claim hk, hjk] using h.line_local s hm own' j hs'
    base_shut := by
      intro d j hb hlocal
      have hout : ∀ s ∈ q.line, s ≠ t := fun s hm he => hline (he ▸ hm)
      by_cases hjk : j = k
      · subst hjk
        refine ⟨(shut_claim hk).mpr (.inl rfl), fun s hm he => ?_⟩
        rw [node_put, if_neg (hout s hm)] at he
        exact hn s he
      · obtain ⟨hshut, hbase⟩ := h.base_shut d j hb (by simpa [local_claim hk, hjk] using hlocal)
        refine ⟨(shut_claim hk).mpr (.inr hshut), fun s hm he => ?_⟩
        rw [node_put, if_neg (hout s hm)] at he
        exact hbase s hm he }

theorem Ordered.leave (h : Ordered u q) (hs : u.seat t = .idle own) (hf : u.holds t = false)
    (hn : own.node = some k) :
    Ordered (u.put t (u.shared.unclaim k) .vacant false) q := by
  have ho := own?_of_idle hs
  have hnode := node_of_own? ho
  have hidle : ¬ u.Engaged t := by simp [Engaged, hf, waits, hs, Seat.waits]
  obtain ⟨hline, hapart⟩ := h.not_mem hidle
  exact {
    h.toPlaced.leave hs hn with
    line_chain := chain_put h.line_chain hline ..
    apart_chain := fun c => chain_put (h.apart_chain c) (hapart c) ..
    line_nodup := h.line_nodup
    apart_nodup := h.apart_nodup
    engaged_iff := by
      intro s
      rw [engaged_put, ← h.engaged_iff]
      by_cases he : s = t
      · subst he
        simpa [Seat.waits] using hidle
      · simp [he]
    apart_out := h.apart_out
    apart_waits := h.apart_waits_put hapart
    apart_local := by
      intro c s j hm hj
      have hst : s ≠ t := fun he => hapart c (he ▸ hm)
      rw [node_put, if_neg hst] at hj
      exact local_unclaim.mpr (h.apart_local c s j hm hj)
    holder_first := h.holder_first_put
    line_local := by
      intro s hm own' j hs'
      have hst : s ≠ t := fun he => hline (he ▸ hm)
      rw [seat_put, if_neg hst] at hs'
      exact local_unclaim.mpr (h.line_local s hm own' j hs')
    base_shut := by
      intro c j hb hlocal
      obtain ⟨hshut, hout⟩ := h.base_shut c j hb (local_unclaim.mp hlocal)
      refine ⟨shut_unclaim.mpr hshut, fun s hm he => ?_⟩
      have hst : s ≠ t := fun he => hline (he ▸ hm)
      rw [node_put, if_neg hst] at he
      exact hout s hm he }

end SpinLocks.Hclh
