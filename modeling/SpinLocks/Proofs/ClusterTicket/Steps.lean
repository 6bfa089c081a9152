import SpinLocks.Proofs.ClusterTicket.Moves

namespace SpinLocks.ClusterTicket

open Usage

variable {n : Nat} {u : Threads n} {q : Order n} {t : Fin n} {own own' : Own} {point : Wait}
  {c : Nat}

/-- That the turn is the one by which the thread takes the lock. -/
def Order.Admits (q : Order n) (t : Fin n) (c : Nat) (nxt : Int) : Wait → Prop
  | .served _ => q.front c = some t
  | .closed => q.Free
  | .called => q.Leads c
  | .opened => q.Free ∧ nxt = 0

/-- The turn is made up of moves on the way to the lock. It ends with the lock where that is
admitted, and else the thread waits. -/
structure Turns (u : Threads n) (q : Order n) (t : Fin n) (turn : LockTurn Shared Own Wait)
    (admitted : Prop) : Prop where
  advances : ∃ q', Advances t (u, q) (u.settle t turn, q')
  done : admitted → turn.answer = .done .done
  waits : ¬ admitted → turn.answer = .waiting

theorem Turns.congr {turn : LockTurn Shared Own Wait} {admitted admitted' : Prop}
    (h : Turns u q t turn admitted) (hiff : admitted ↔ admitted') : Turns u q t turn admitted' :=
  propext hiff ▸ h

theorem Turns.of_put {q' : Order n} {shared : Shared} {seat : Seat Own Wait}
    {turn : LockTurn Shared Own Wait} {admitted : Prop}
    (h : Turns (u.put t shared seat false) q' t turn admitted)
    (ha : Advance t (u, q) (u.put t shared seat false, q')) (hf : u.holds t = false) :
    Turns u q t turn admitted := by
  refine ⟨?_, h.done, h.waits⟩
  obtain ⟨last, hlast⟩ := h.advances
  rw [settle_put hf] at hlast
  exact ⟨last, .head ha hlast⟩

theorem Ordered.turns_done (h : Ordered u q) (hs : u.seat t = .waiting own point)
    (hfront : q.front own.cluster = some t) (hl : q.Leads own.cluster)
    (hc' : (own.granted point).cluster = own.cluster)
    (hv' : (own.granted point).viaTry = own.viaTry) {admitted : Prop} (ha : admitted) :
    Turns u q t ⟨u.shared, own.granted point, .done .done⟩ admitted where
  advances := by
    have hf := h.not_holds hs
    have hv := hv'.trans (h.viaTry_of_not_holds (own?_of_waiting hs) hf)
    rw [settle_done, hf]
    exact ⟨q, .single (.grant hs hfront hl rfl (h.grant hs hfront hl hc' hv))⟩
  done _ := rfl
  waits hn := absurd ha hn

theorem Ordered.turns_waiting (hs : u.seat t = .waiting own point)
    {admitted : Prop} (hn : ¬ admitted) :
    Turns u q t ⟨u.shared, own, .waiting point⟩ admitted where
  advances := by
    rw [settle_self hs]
    exact ⟨q, .refl⟩
  done ha := absurd ha hn
  waits _ := rfl

theorem Ordered.turns_called (h : Ordered u q) (hs : u.seat t = .waiting own .called) :
    Turns u q t (awaitCalled u.shared own) (q.Leads own.cluster) := by
  rw [awaitCalled_eq]
  split
  · next he =>
    have hl := (h.called_iff hs).mp he
    have hcluster : own.count.cluster = own.cluster := rfl
    exact h.turns_done hs (h.called_front hs) hl hcluster rfl hl
  · next hne => exact turns_waiting hs fun hl => hne ((h.called_iff hs).mpr hl)

theorem Ordered.turns_served (h : Ordered u q) {ticket : Int32}
    (hs : u.seat t = .waiting own (.served ticket)) :
    Turns u q t (awaitServed ticket u.shared own) (q.front own.cluster = some t) := by
  have ho := own?_of_waiting hs
  rw [awaitServed_eq (h.cluster_lt t own ho)]
  split
  · next he =>
    have hfront := (h.served_iff hs).mp he
    have hl := h.leading _ (h.cluster_lt t own ho) t hfront (by simp [roles, hs, role_waiting])
    exact h.turns_done hs hfront hl rfl rfl hfront
  · next hne => exact turns_waiting hs fun hf => hne ((h.served_iff hs).mpr hf)

theorem Ordered.idle_iff (h : Ordered u q) (hc : c < u.shared.clusters.length) :
    (u.shared.counters c).cur = u.shared.idle ↔ q.front c = none := by
  have hb := h.batched c hc
  have hidle := toInt_idle h.batch_lt
  rw [← Int32.toInt_inj, hidle]
  constructor
  · intro he
    by_contra hne
    have hle := (hb.opened hne).2.1
    have he : u.shared.cur c = u.shared.batch.toInt + 1 := he
    omega
  · intro hn
    exact (hb.closed hn).1

theorem Ordered.front_of_free (h : Ordered u q) (hf : q.Free) (hc : c < u.shared.clusters.length) :
    q.front c = none := by
  by_contra hne
  have hm := (h.mem_line c).mpr ⟨hc, hne⟩
  simp [hf.2] at hm

theorem Ordered.leads_enqueue (h : Ordered u q) (hn : q.front c = none) :
    (q.enqueue c t).Leads c ↔ q.Free := by
  rw [Order.Leads, Order.Free, Order.single_enqueue, Order.line_enqueue]
  refine and_congr_right fun _ => ?_
  cases hl : q.line with
  | nil => simp
  | cons d rest =>
    have hd := (h.mem_line d).mp (hl ▸ List.mem_cons_self)
    have hne : d ≠ c := by
      rintro rfl
      exact hd.2 hn
    simp [hne]

theorem Ordered.turns_closed (h : Ordered u q) (hs : u.seat t = .waiting own .closed) :
    Turns u q t (awaitClosed u.shared own) q.Free := by
  have hc := h.cluster_lt t own (own?_of_waiting hs)
  have hf := h.not_holds hs
  by_cases hi : (u.shared.counters own.cluster).cur = u.shared.idle
  · have hn := (h.idle_iff hc).mp hi
    rw [awaitClosed_of_idle hc hi]
    have h' := h.openBatch hs hn
    have hturn := (h'.turns_called (seat_put_self ..)).congr (h.leads_enqueue hn)
    simp only [shared_put] at hturn
    exact hturn.of_put (.openBatch hs hn rfl rfl h') hf
  · rw [awaitClosed_of_not_idle hc hi]
    exact turns_waiting hs fun hfree => hi ((h.idle_iff hc).mpr (h.front_of_free hfree hc))

theorem Order.free_setLate (late : List (Fin n)) : (q.setLate c late).Free ↔ q.Free :=
  Iff.rfl

theorem Ordered.nxt_gt (h : Ordered u q) (hn : n < 0x80000000) (hc : c < u.shared.clusters.length) :
    -0x80000000 < u.shared.nxt c := by
  have hb := h.batched c hc
  have hle := hb.late.nodup.length_le_card
  have hlate := hb.late_length
  rw [Fintype.card_fin] at hle
  omega

theorem Ordered.turns_draw (h : Ordered u q) (ha : Asks u t own own') (hn : n < 0x80000000)
    (hs : u.seat t = .idle own ∨ 0 ≤ u.shared.nxt own.cluster) :
    Turns u q t (ClusterTicket.draw u.shared own') (q.Free ∧ u.shared.nxt own.cluster = 0) := by
  have hd := h.draws ha
  obtain ⟨hc', hv', ho, hf, -⟩ := id hd
  have hc := h.cluster_lt t own ho
  have hc₁ : own'.cluster < u.shared.clusters.length := hc' ▸ hc
  have hmin := h.nxt_gt hn hc
  obtain hneg | hzero | hpos := Int.lt_trichotomy (u.shared.nxt own.cluster) 0
  · have hidle := hs.resolve_right (by omega)
    rw [draw_of_neg hc₁ (hc' ▸ hmin) (hc' ▸ hneg), hc']
    refine ⟨?_, fun ha => by omega, fun _ => rfl⟩
    rw [settle_waiting, hf]
    exact ⟨_, .single (.ask ha (by simp) rfl rfl (h.drawLate hd hidle hmin hneg))⟩
  · have h' := h.drawFirst hd hzero
    have hturn := h'.turns_closed (seat_put_self ..)
    rw [draw_of_zero hc₁ (hc' ▸ hzero), hc']
    exact (hturn.of_put (.ask ha (by simp) rfl rfl h') hf).congr
      (by simp [Order.free_setLate, hzero])
  · have h' := h.draw hd hpos
    have hturn := h'.turns_served (seat_put_self ..)
    have hfront : q.front own'.cluster ≠ some t := hc' ▸ h.front_ne hc hd.roles_eq
    have hq : q = q.setLate own.cluster (q.late own.cluster) := by
      rw [Order.setLate, Function.update_eq_self]
    rw [draw_of_pos hc₁ (hc' ▸ hpos), hc']
    exact (hturn.of_put (.ask ha (by simp) rfl hq h') hf).congr
      ⟨fun he => absurd he hfront, fun ha => by omega⟩

theorem Ordered.turns_opened (h : Ordered u q) (hs : u.seat t = .waiting own .opened)
    (hn : n < 0x80000000) :
    Turns u q t (awaitOpened u.shared own) (q.Free ∧ u.shared.nxt own.cluster = 0) := by
  rw [awaitOpened_eq (h.cluster_lt t own (own?_of_waiting hs))]
  split
  · next hneg => exact turns_waiting hs fun ha => by omega
  · next hle => exact h.turns_draw ⟨h.not_holds hs, .inr ⟨hs, rfl⟩⟩ hn (.inr (by omega))

theorem Ordered.turns_resume (h : Ordered u q) (hs : u.seat t = .waiting own point)
    (hn : n < 0x80000000) :
    Turns u q t (ClusterTicket.resume point u.shared own)
      (q.Admits t own.cluster (u.shared.nxt own.cluster) point) := by
  cases point with
  | served ticket => exact h.turns_served hs
  | closed => exact h.turns_closed hs
  | called => exact h.turns_called hs
  | opened => exact h.turns_opened hs hn

theorem Ordered.turns_acquire (h : Ordered u q) (hs : u.seat t = .idle own)
    (hf : u.holds t = false) (hn : n < 0x80000000) :
    Turns u q t (ClusterTicket.acquire u.shared own)
      (q.Free ∧ u.shared.nxt own.cluster = 0) := by
  rw [acquire_eq (h.cluster_lt t own (own?_of_idle hs))]
  exact h.turns_draw ⟨hf, .inl ⟨hs, rfl⟩⟩ hn (.inl hs)

theorem Ordered.settle_release (h : Ordered u q) (hs : u.seat t = .idle own)
    (hh : u.holds t = true) :
    (ClusterTicket.release u.shared own).answer = .done .done ∧
      ∃ q', Change t (u, q) (.done .done)
        (u.settle t (ClusterTicket.release u.shared own), q') := by
  have hc := h.cluster_lt t own (own?_of_idle hs)
  cases hv : own.viaTry with
  | true =>
    rw [release_of_viaTry hv, settle_done, hh]
    exact ⟨rfl, _, .letGo hs hv rfl rfl (h.letGo hs hv rfl rfl)⟩
  | false =>
    rw [release_of_not_viaTry hv]
    by_cases hlast : u.shared.cur own.cluster = 0 ∨
        u.shared.cur own.cluster = u.shared.nxt own.cluster
    · rw [releaseBatch_of_last hc hlast, settle_done, hh]
      exact ⟨rfl, _, .close hs hh hv rfl rfl (h.closeBatch hs hh hv rfl hv hlast)⟩
    · obtain ⟨hzero, hne⟩ := not_or.mp hlast
      have hfront := (h.holder_leads hs hh hv).1
      have hle := ((h.batched _ hc).opened (by simp [hfront])).1
      have hpos : 0 < u.shared.cur own.cluster := by omega
      rw [releaseBatch_of_not_last hc hpos hne, settle_done, hh]
      obtain ⟨s, h'⟩ := h.pass hs hh hv hpos hne
      exact ⟨rfl, _, .pass hs hh hv hpos rfl rfl h'⟩

theorem Ordered.settle_attempt (h : Ordered u q) (hs : u.seat t = .idle own)
    (hf : u.holds t = false) :
    ∃ taken q', (ClusterTicket.tryAcquire u.shared own).answer = .done (.took taken) ∧
      Change t (u, q) (.done (.took taken))
        (u.settle t (ClusterTicket.tryAcquire u.shared own), q') := by
  rw [tryAcquire_eq]
  split
  · next he =>
    have hfree := h.isFree_iff.mp ((Ticket.Word.isFree_iff _).mpr he)
    rw [settle_took, hf]
    exact ⟨true, _, rfl, .attempt hs hf hfree rfl rfl (h.attempt hs hf hfree rfl rfl)⟩
  · rw [settle_took, Bool.xor_false, ← hs, put_self]
    exact ⟨false, q, rfl, .advance .refl (by simp) (by simp)⟩

end SpinLocks.ClusterTicket
