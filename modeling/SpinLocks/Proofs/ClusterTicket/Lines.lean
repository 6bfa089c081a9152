import SpinLocks.Proofs.ClusterTicket.Order

namespace SpinLocks.ClusterTicket

open Usage

variable {n : Nat} {u : Threads n} {q : Order n} {t : Fin n} {own own' : Own} {point : Wait}
  {c : Nat}

theorem Placed.move {single single' : Option (Fin n)} {shared : Shared} {seat : Seat Own Wait}
    {holds : Bool} (h : Placed u single) (ho : u.own? t = some own)
    (hseat : seat.own? = some own') (hc' : own'.cluster = own.cluster)
    (hv' : own'.viaTry = true ↔ single' = some t) (hbatch : shared.batch = u.shared.batch)
    (hlength : shared.clusters.length = u.shared.clusters.length)
    (hidle : holds = true → ∃ own, seat = .idle own) (hholds : single' = some t → holds = true)
    (hsingle : ∀ s, s ≠ t → (single' = some s ↔ single = some s)) :
    Placed (u.put t shared seat holds) single' :=
  h.put hbatch hlength
    (fun own₁ h₁ => by
      obtain rfl := Option.some.inj (hseat.symm.trans h₁)
      exact ⟨hc' ▸ h.cluster_lt t own ho, hv'⟩)
    hidle hholds hsingle

/-- A move in a cluster where no batch is opened or closed, to wait elsewhere than in the line. -/
theorem Ordered.move (h : Ordered u q) {shared : Shared} {late : List (Fin n)}
    (ho : u.own? t = some own) (hf : u.holds t = false) (hc' : own'.cluster = own.cluster)
    (hv' : own'.viaTry = false) (hpoint : point ≠ .called) (hfront : q.front own.cluster ≠ some t)
    (hglobal : shared.global = u.shared.global) (hbatch : shared.batch = u.shared.batch)
    (hlength : shared.clusters.length = u.shared.clusters.length)
    (hcounters : ∀ d, d ≠ own.cluster → shared.counters d = u.shared.counters d)
    (hb : Batched (u.put t shared (.waiting own' point) false) own.cluster
      (q.front own.cluster) late) :
    Ordered (u.put t shared (.waiting own' point) false) (q.setLate own.cluster late) := by
  have hbatched := h.batched_put hb ho rfl hc' hcounters hbatch
  rw [Function.update_eq_self] at hbatched
  have hsingle : q.single ≠ some t := fun he => by simp [h.single_holds t he] at hf
  have hplaced : Placed (u.put t shared (.waiting own' point) false) q.single :=
    h.toPlaced.move ho rfl hc' (by simp [hv', hsingle]) hbatch hlength (by simp)
      (fun he => absurd he hsingle) fun _ _ => Iff.rfl
  exact {
    hplaced with
    word := hglobal ▸ h.word
    line_nodup := h.line_nodup
    mem_line := fun c => hlength ▸ h.mem_line c
    batched := fun c hc => hbatched c (hlength ▸ hc)
    ticket := h.ticket_put (by simp [hpoint]) hglobal
    leading := by
      intro c hc s hs hr
      simp only [shared_put, hlength] at hc
      refine h.leading c hc s hs ?_
      by_cases hd : c = own.cluster
      · subst hd
        have hst : s ≠ t := by
          rintro rfl
          exact hfront hs
        rwa [roles_put, Function.update_of_ne hst] at hr
      · rwa [roles_put_of_ne ho rfl hc' hd] at hr }

def Draws (u : Threads n) (t : Fin n) (own own' : Own) : Prop :=
  own'.cluster = own.cluster ∧ own'.viaTry = false ∧ u.own? t = some own ∧ u.holds t = false ∧
    (u.seat t = .idle own ∨ u.seat t = .waiting own .opened)

theorem Draws.roles_eq (hd : Draws u t own own') :
    roles u own.cluster t = none ∨ roles u own.cluster t = some (.waits .opened) := by
  obtain ⟨-, -, -, hf, hs | hs⟩ := hd
  · left
    rw [roles, hs, hf, role_idle]
  · right
    rw [roles, hs, role_waiting rfl]

section Draw

variable (h : Ordered u q) (hd : Draws u t own own')
include h hd

/-- What a thread does that draws a local ticket, or finds none, is done in its cluster. -/
theorem Ordered.lower {late : List (Fin n)} (hpoint : point ≠ .called)
    (hmin : -0x80000000 < u.shared.nxt own.cluster)
    (hb : Batch u.shared.batch.toInt (u.shared.cur own.cluster) (u.shared.nxt own.cluster - 1)
      (Function.update (roles u own.cluster) t (some (.waits point))) (q.front own.cluster) late) :
    Ordered (u.put t (u.shared.lower own.cluster) (.waiting own' point) false)
      (q.setLate own.cluster late) := by
  obtain ⟨hc', hv', ho, hf, -⟩ := id hd
  have hc := h.cluster_lt t own ho
  have hb : Batched (u.put t (u.shared.lower own.cluster) (.waiting own' point) false) own.cluster
      (q.front own.cluster) late :=
    hb.put (role_waiting hc') (cur_lower hc) (nxt_lower hc hmin) rfl
  exact h.move ho hf hc' hv' hpoint (h.front_ne hc hd.roles_eq) rfl rfl (length_setCounters ..)
    (fun d hne => counters_of_ne hne _) hb

theorem Ordered.draw (hpos : 0 < u.shared.nxt own.cluster) :
    Ordered (u.put t (u.shared.lower own.cluster)
      (.waiting own' (.served ((u.shared.counters own.cluster).nxt - 1))) false) q := by
  have hmin : -0x80000000 < u.shared.nxt own.cluster := Int.lt_trans (by decide) hpos
  have hb := (h.batched _ (h.cluster_lt t own hd.2.2.1)).draw hd.roles_eq hpos
    (toInt_sub_one hmin)
  have h' := h.lower hd (by simp) hmin hb
  rwa [Order.setLate, Function.update_eq_self] at h'

theorem Ordered.drawFirst (hzero : u.shared.nxt own.cluster = 0) :
    Ordered (u.put t (u.shared.lower own.cluster) (.waiting own' .closed) false)
      (q.setLate own.cluster [t]) :=
  h.lower hd (by simp) (by omega)
    ((h.batched _ (h.cluster_lt t own hd.2.2.1)).drawFirst hd.roles_eq hzero)

theorem Ordered.drawLate (hs : u.seat t = .idle own)
    (hmin : -0x80000000 < u.shared.nxt own.cluster) (hneg : u.shared.nxt own.cluster < 0) :
    Ordered (u.put t (u.shared.lower own.cluster) (.waiting own' .opened) false)
      (q.setLate own.cluster (q.late own.cluster ++ [t])) := by
  have hr : roles u own.cluster t = none := by
    rw [roles, hs, hd.2.2.2.1, role_idle]
  exact h.lower hd (by simp) hmin
    ((h.batched _ (h.cluster_lt t own hd.2.2.1)).drawLate hr hneg)

end Draw

theorem Ordered.not_holds (h : Ordered u q) (hs : u.seat t = .waiting own point) :
    u.holds t = false :=
  not_holds_waiting h.holder_idle hs

theorem Ordered.viaTry_of_not_holds (h : Ordered u q) (ho : u.own? t = some own)
    (hf : u.holds t = false) : own.viaTry = false := by
  refine Bool.eq_false_iff.mpr fun hv => ?_
  have hh := h.single_holds t ((h.viaTry_iff t own ho).mp hv)
  simp [hf] at hh

theorem Ordered.openBatch (h : Ordered u q) (hs : u.seat t = .waiting own .closed)
    (hfront : q.front own.cluster = none) :
    Ordered (u.put t (u.shared.openBatch own.cluster) (.waiting (own.draw u.shared.global) .called)
      false) (q.enqueue own.cluster t) := by
  have ho := own?_of_waiting hs
  have hf := h.not_holds hs
  have hc := h.cluster_lt t own ho
  have hv := h.viaTry_of_not_holds ho hf
  have hsingle : q.single ≠ some t := fun he => by simp [h.single_holds t he] at hf
  have hb := h.batched _ hc
  rw [hfront] at hb
  have hb : Batched (u.put t (u.shared.openBatch own.cluster)
      (.waiting (own.draw u.shared.global) .called) false) own.cluster (some t) [] :=
    (hb.openBatch (by rw [roles, hs, role_waiting rfl]) h.batch_pos).put (role_waiting rfl)
      (cur_openBatch hc) (nxt_openBatch hc) batch_openBatch
  have hline : own.cluster ∉ q.line := fun hm => ((h.mem_line _).mp hm).2 hfront
  have hplaced : Placed (u.put t (u.shared.openBatch own.cluster)
      (.waiting (own.draw u.shared.global) .called) false) q.single :=
    h.toPlaced.move ho rfl rfl (by simp [Own.draw, hv, hsingle]) batch_openBatch
      (length_openBatch ..) (by simp) (fun he => absurd he hsingle) fun _ _ => Iff.rfl
  have hbatched :=
    h.batched_put hb ho rfl rfl (fun d hd => counters_openBatch_of_ne hd) batch_openBatch
  have hglobal := global_openBatch u.shared own.cluster
  exact {
    hplaced with
    word := by
      simp only [shared_put, hglobal, Ticket.Word.tail_draw, Ticket.Word.head_draw, h.word]
      rw [ofNat_succ, Order.before_enqueue, Order.line_enqueue, List.length_append]
      rfl
    line_nodup := by
      simpa [Order.line_enqueue, List.nodup_append] using
        ⟨h.line_nodup, fun c hm he => hline (he ▸ hm)⟩
    mem_line := by
      intro c
      simp only [shared_put, length_openBatch, Order.line_enqueue, Order.front_enqueue,
        List.mem_append, List.mem_singleton, h.mem_line]
      by_cases hd : c = own.cluster
      · simp [hd, hc]
      · simp [hd]
    batched := fun c hc => hbatched c (length_openBatch u.shared own.cluster ▸ hc)
    ticket := by
      intro s own₁ hs'
      simp only [shared_put, hglobal, Ticket.Word.head_draw, Order.before_enqueue,
        Order.line_enqueue]
      rw [seat_put] at hs'
      split at hs'
      · cases hs'
        refine ⟨q.line.length, by simp [Own.draw], ?_⟩
        exact h.word
      · obtain ⟨j, hj, hticket⟩ := h.ticket s own₁ hs'
        have hlt := (List.getElem?_eq_some_iff.mp hj).1
        exact ⟨j, by rw [List.getElem?_append_left hlt, hj], hticket⟩
    leading := by
      intro c hc s he hr
      rw [Order.front_enqueue] at he
      split at he
      · next hd =>
        cases he
        rw [roles_put, Function.update_self] at hr
        exact (hr (role_waiting hd.symm)).elim
      · next hd =>
        have hcluster : (own.draw u.shared.global).cluster = own.cluster := rfl
        rw [roles_put_of_ne ho rfl hcluster hd] at hr
        simp only [shared_put, length_openBatch] at hc
        obtain ⟨hnone, hhead⟩ := h.leading c hc s he hr
        refine ⟨hnone, ?_⟩
        rw [Order.line_enqueue, List.head?_append, hhead]
        rfl }

theorem Ordered.called_front (h : Ordered u q) (hs : u.seat t = .waiting own .called) :
    q.front own.cluster = some t :=
  (h.batched _ (h.cluster_lt t own (own?_of_waiting hs))).front_of
    (.inr (by rw [roles, hs, role_waiting rfl]))

theorem Ordered.called_iff (h : Ordered u q) (hs : u.seat t = .waiting own .called) :
    u.shared.global.head = own.global.ticket ↔ q.Leads own.cluster := by
  obtain ⟨j, hj, hticket⟩ := h.ticket t own hs
  have hlt := (List.getElem?_eq_some_iff.mp hj).1
  have hlen := h.line_length_le
  have hle := q.before_le
  rw [hticket]
  constructor
  · intro he
    have hzero : u.shared.global.head + .ofNat 0 =
        u.shared.global.head + .ofNat (q.before + j) := by
      simpa using he
    have hzero := ofNat_inj (by omega) (by omega) hzero
    obtain rfl : j = 0 := by omega
    have hnone : q.single = none := by
      by_contra hne
      simp [Order.before, Option.isSome_iff_ne_none.mpr hne] at hzero
    exact ⟨hnone, List.head?_eq_getElem?.trans hj⟩
  · intro hl
    obtain ⟨rest, hline⟩ := hl.exists_line
    have hzero : q.line[0]? = some own.cluster := by simp [hline]
    have hj0 : j = 0 := (List.getElem?_inj hlt h.line_nodup).mp (hj.trans hzero.symm)
    simp [hj0, hl.before_eq]

theorem Ordered.served_iff (h : Ordered u q) {ticket : Int32}
    (hs : u.seat t = .waiting own (.served ticket)) :
    u.shared.cur own.cluster = ticket.toInt ↔ q.front own.cluster = some t := by
  have hb := h.batched _ (h.cluster_lt t own (own?_of_waiting hs))
  have hr : roles u own.cluster t = some (.waits (.served ticket)) := by
    rw [roles, hs, role_waiting rfl]
  rw [hb.front_iff, hr]
  exact eq_comm

theorem Ordered.grant (h : Ordered u q) (hs : u.seat t = .waiting own point)
    (hfront : q.front own.cluster = some t) (hl : q.Leads own.cluster)
    (hc' : own'.cluster = own.cluster) (hv' : own'.viaTry = false) :
    Ordered (u.put t u.shared (.idle own') true) q := by
  have ho := own?_of_waiting hs
  have hc := h.cluster_lt t own ho
  have hb := h.batched _ hc
  rw [hfront] at hb
  have hb : Batched (u.put t u.shared (.idle own') true) own.cluster (some t)
      (q.late own.cluster) :=
    hb.grant.put (role_holder hc' hv') rfl rfl rfl
  have hbatched := h.batched_put hb ho rfl hc' (fun _ _ => rfl) rfl
  rw [← hfront, Function.update_eq_self, Function.update_eq_self] at hbatched
  have hplaced : Placed (u.put t u.shared (.idle own') true) q.single :=
    h.toPlaced.move ho rfl hc' (by simp [hv', hl.1]) rfl rfl (fun _ => ⟨own', rfl⟩)
      (fun _ => rfl) fun _ _ => Iff.rfl
  exact {
    hplaced with
    word := h.word
    line_nodup := h.line_nodup
    mem_line := h.mem_line
    batched := hbatched
    ticket := h.ticket_put (by simp) rfl
    leading := by
      intro c hc s hs' hr
      by_cases hd : c = own.cluster
      · exact hd ▸ hl
      · rw [roles_put_of_ne ho rfl hc' hd] at hr
        exact h.leading c hc s hs' hr }

theorem roles_holder (hs : u.seat t = .idle own) (hh : u.holds t = true)
    (hv : own.viaTry = false) : roles u own.cluster t = some .holds := by
  rw [roles, hs, hh, role_holder rfl hv]

section Holder

variable (h : Ordered u q) (hs : u.seat t = .idle own) (hh : u.holds t = true)
  (hv : own.viaTry = false)
include h hs hh hv

theorem Ordered.holder_leads : q.front own.cluster = some t ∧ q.Leads own.cluster := by
  have hr := roles_holder hs hh hv
  have hc := h.cluster_lt t own (own?_of_idle hs)
  have hfront := (h.batched _ hc).front_of (.inl hr)
  exact ⟨hfront, h.leading _ hc t hfront (by simp [hr])⟩

theorem Ordered.closeBatch (hc' : own'.cluster = own.cluster) (hv' : own'.viaTry = false)
    (hlast : u.shared.cur own.cluster = 0 ∨ u.shared.cur own.cluster = u.shared.nxt own.cluster) :
    Ordered (u.put t (u.shared.closeBatch own.cluster (u.shared.rest own.cluster)) (.idle own')
      false) (q.dequeue own.cluster) := by
  have ho := own?_of_idle hs
  have hc := h.cluster_lt t own ho
  obtain ⟨hfront, hl⟩ := h.holder_leads hs hh hv
  obtain ⟨rest, hline⟩ := hl.exists_line
  have hnodup := h.line_nodup
  rw [hline, List.nodup_cons] at hnodup
  have hglobal := global_closeBatch u.shared own.cluster (u.shared.rest own.cluster)
  have hb := h.batched _ hc
  rw [hfront] at hb
  have hb : Batched (u.put t (u.shared.closeBatch own.cluster (u.shared.rest own.cluster))
      (.idle own') false) own.cluster none (q.late own.cluster) :=
    (hb.closeBatch (roles_holder hs hh hv) hlast).put role_idle
      ((cur_closeBatch hc _).trans (toInt_idle h.batch_lt))
      ((nxt_closeBatch hc _).trans (toInt_rest ..)) (batch_closeBatch _)
  have hbatched := h.batched_put hb ho rfl hc' (fun d hd => counters_closeBatch_of_ne hd _)
    (batch_closeBatch _)
  rw [Function.update_eq_self (f := q.late)] at hbatched
  have hplaced : Placed (u.put t (u.shared.closeBatch own.cluster (u.shared.rest own.cluster))
      (.idle own') false) q.single :=
    h.toPlaced.move ho rfl hc' (by simp [hv', hl.1]) (batch_closeBatch _) (length_closeBatch ..)
      (by simp) (fun he => by simp [hl.1] at he) fun _ _ => Iff.rfl
  exact {
    hplaced with
    word := by
      have := h.word
      simp only [shared_put, hglobal, Ticket.Word.head_call, Ticket.Word.tail_call,
        Order.before_dequeue, Order.line_dequeue, hline, List.tail_cons, ofNat_add_succ]
      rwa [hline] at this
    line_nodup := by
      rw [Order.line_dequeue, hline]
      exact hnodup.2
    mem_line := by
      intro c
      have hm := h.mem_line c
      simp only [shared_put, length_closeBatch, Order.line_dequeue, Order.front_dequeue, hline,
        List.tail_cons]
      by_cases hd : c = own.cluster
      · simp [hd, hnodup.1]
      · simpa [hline, hd] using hm
    batched := fun c hc => hbatched c (length_closeBatch u.shared .. ▸ hc)
    ticket := by
      intro s own₁ hs'
      rw [seat_put] at hs'
      split at hs'
      · cases hs'
      next hst =>
      obtain ⟨j, hj, hticket⟩ := h.ticket s own₁ hs'
      simp only [shared_put, hglobal, Ticket.Word.head_call, Order.before_dequeue,
        Order.line_dequeue, ofNat_add_succ]
      cases j with
      | zero =>
        -- The first cluster is that of the holder, who does not wait.
        rw [hline] at hj
        have hfront₁ := h.called_front hs'
        rw [← Option.some.inj hj, hfront] at hfront₁
        exact absurd (Option.some.inj hfront₁).symm hst
      | succ j => exact ⟨j, by simpa [hline] using hj, hticket⟩
    leading := by
      intro c hc s he hr
      rw [Order.front_dequeue] at he
      split at he
      · cases he
      next hd =>
      simp only [shared_put, length_closeBatch] at hc
      rw [roles_put_of_ne ho rfl hc' hd] at hr
      exact absurd ((h.leading c hc s he hr).unique hl) hd }

theorem Ordered.pass (hpos : 0 < u.shared.cur own.cluster)
    (hlast : u.shared.cur own.cluster ≠ u.shared.nxt own.cluster) :
    ∃ s, Ordered (u.put t (u.shared.pass own.cluster) (.idle own) false)
      (q.setFront own.cluster (some s)) := by
  have ho := own?_of_idle hs
  have hc := h.cluster_lt t own ho
  obtain ⟨hfront, hl⟩ := h.holder_leads hs hh hv
  have hb := h.batched _ hc
  rw [hfront] at hb
  obtain ⟨s, ticket, -, hb⟩ := hb.pass (roles_holder hs hh hv) hpos hlast
  have hb : Batched (u.put t (u.shared.pass own.cluster) (.idle own) false) own.cluster (some s)
      (q.late own.cluster) :=
    hb.put role_idle (cur_pass hc hpos) (nxt_pass hc) batch_pass
  have hbatched := h.batched_put hb ho rfl rfl (fun d hd => counters_of_ne hd _) batch_pass
  rw [Function.update_eq_self (f := q.late)] at hbatched
  have hplaced : Placed (u.put t (u.shared.pass own.cluster) (.idle own) false) q.single :=
    h.toPlaced.move ho rfl rfl (by simp [hv, hl.1]) batch_pass (length_setCounters ..) (by simp)
      (fun he => by simp [hl.1] at he) fun _ _ => Iff.rfl
  refine ⟨s, ?_⟩
  exact {
    hplaced with
    word := h.word
    line_nodup := h.line_nodup
    mem_line := by
      intro c
      simp only [shared_put, Shared.pass, length_setCounters, Order.line_setFront,
        Order.front_setFront, h.mem_line]
      by_cases hd : c = own.cluster
      · simp [hd, hfront]
      · simp [hd]
    batched := fun c hc => hbatched c (length_setCounters .. ▸ hc)
    ticket := h.ticket_put (by simp) rfl
    leading := by
      intro c hc r he hr
      rw [Order.front_setFront] at he
      split at he
      · next hd => exact hd ▸ hl
      · next hd =>
        rw [roles_put_of_ne ho rfl (Eq.refl own.cluster) hd] at hr
        exact h.leading c (length_setCounters .. ▸ hc) r he hr }

end Holder

theorem Ordered.attempt (h : Ordered u q) (hs : u.seat t = .idle own) (hf : u.holds t = false)
    (hfree : q.Free) (hc' : own'.cluster = own.cluster) (hv' : own'.viaTry = true) :
    Ordered (u.put t (u.shared.setGlobal u.shared.global.draw) (.idle own') true)
      (q.setSingle (some t)) := by
  have ho := own?_of_idle hs
  have hplaced : Placed (u.put t (u.shared.setGlobal u.shared.global.draw) (.idle own') true)
      (some t) :=
    h.toPlaced.move ho rfl hc' (by simp [hv']) (batch_setGlobal _) (length_setGlobal _)
      (fun _ => ⟨own', rfl⟩) (fun _ => rfl) fun s hst => by simp [hfree.1, Ne.symm hst]
  have hbefore : q.before = 0 := by simp [Order.before, hfree.1]
  have hbefore' : (q.setSingle (some t)).before = 1 := rfl
  exact {
    hplaced with
    word := by
      have := h.word
      simp only [shared_put, global_setGlobal, Ticket.Word.head_draw, Ticket.Word.tail_draw, this,
        ofNat_succ, hbefore, hbefore']
      rw [Nat.zero_add, Nat.add_comm 1]
      rfl
    line_nodup := h.line_nodup
    mem_line := by
      simp only [shared_put, length_setGlobal]
      exact h.mem_line
    batched := by
      intro c hc
      simp only [shared_put, length_setGlobal] at hc
      have hr : roles u c t = none := by rw [roles, hs, hf, role_idle]
      exact (h.batched c hc).frame (roles_put_of_none hr (role_viaTry hv') _)
        (counters_setGlobal ..) (batch_setGlobal _)
    ticket := by
      intro s own₁ hs'
      rw [seat_put] at hs'
      split at hs'
      · cases hs'
      · obtain ⟨j, hj, -⟩ := h.ticket s own₁ hs'
        simp [hfree.2] at hj
    leading := by
      intro c hc s he _
      simp only [shared_put, length_setGlobal] at hc
      have he : q.front c = some s := he
      have hm := (h.mem_line c).mpr ⟨hc, by simp [he]⟩
      simp [hfree.2] at hm }

theorem Ordered.letGo (h : Ordered u q) (hs : u.seat t = .idle own) (hv : own.viaTry = true)
    (hc' : own'.cluster = own.cluster) (hv' : own'.viaTry = false) :
    Ordered (u.put t (u.shared.setGlobal u.shared.global.call) (.idle own') false)
      (q.setSingle none) := by
  have ho := own?_of_idle hs
  have hsingle := (h.viaTry_iff t own ho).mp hv
  have hplaced : Placed (u.put t (u.shared.setGlobal u.shared.global.call) (.idle own') false)
      none :=
    h.toPlaced.move ho rfl hc' (by simp [hv']) (batch_setGlobal _) (length_setGlobal _) (by simp)
      (by simp) fun s hst => by simp [hsingle, Ne.symm hst]
  have hroles (c : Nat) :
      roles (u.put t (u.shared.setGlobal u.shared.global.call) (.idle own') false) c = roles u c :=
    roles_put_of_none (by rw [roles, hs, role_viaTry hv]) role_idle _
  have hbefore : q.before = 1 := by simp [Order.before, hsingle]
  have hbefore' : (q.setSingle none).before = 0 := rfl
  exact {
    hplaced with
    word := by
      have := h.word
      simp only [shared_put, global_setGlobal, Ticket.Word.head_call, Ticket.Word.tail_call, this,
        ofNat_add_succ, hbefore, hbefore']
      rw [Nat.add_comm 1, Nat.zero_add]
      rfl
    line_nodup := h.line_nodup
    mem_line := by
      simp only [shared_put, length_setGlobal]
      exact h.mem_line
    batched := by
      intro c hc
      simp only [shared_put, length_setGlobal] at hc
      exact (h.batched c hc).frame (hroles c) (counters_setGlobal ..) (batch_setGlobal _)
    ticket := by
      intro s own₁ hs'
      rw [seat_put] at hs'
      split at hs'
      · cases hs'
      · obtain ⟨j, hj, hticket⟩ := h.ticket s own₁ hs'
        refine ⟨j, hj, ?_⟩
        simp only [shared_put, global_setGlobal, Ticket.Word.head_call, ofNat_add_succ, hbefore',
          hticket, hbefore]
        rw [Nat.add_comm 1, Nat.zero_add]
    leading := by
      intro c hc s he hr
      simp only [shared_put, length_setGlobal] at hc
      rw [hroles] at hr
      exact absurd hsingle (h.leading c hc s he hr).not_single }

end SpinLocks.ClusterTicket
