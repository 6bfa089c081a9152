import SpinLocks.Proofs.ClusterTicket.Runs

namespace SpinLocks.ClusterTicket

open Usage

variable {n : Nat}

/-- The role of the thread in front of an open batch, and the ticket that is served. -/
structure Standing where
  role : Role
  cur : Int

def standing (u : Threads n) (q : Order n) (c : Nat) : Option Standing :=
  (q.front c).bind fun s => (roles u c s).map fun r => ⟨r, u.shared.cur c⟩

/-- A batch whose global ticket is not called yet is untouched, and a batch that was passed on is
not. -/
def Standing.Tally (batch : Int) : Standing → Prop
  | ⟨.holds, cur⟩ => cur ≤ batch
  | ⟨.waits .called, cur⟩ => cur = batch
  | ⟨.waits (.served _), cur⟩ => cur < batch
  | ⟨.waits .closed, _⟩ | ⟨.waits .opened, _⟩ => False

def Tallied (u : Threads n) (q : Order n) : Prop :=
  ∀ c st, standing u q c = some st → st.Tally u.shared.batch.toInt

variable {u u' : Threads n} {q q' : Order n} {s t : Fin n} {own own' : Own} {r : Role}
  {shared : Shared} {seat : Seat Own Wait} {holds : Bool} {point : Wait} {c : Nat}
  {answer : Answer Reply}

theorem standing_of_front (hfront : q.front c = some s) (hr : roles u c s = some r) :
    standing u q c = some ⟨r, u.shared.cur c⟩ := by
  rw [standing, hfront, Option.bind_some, hr, Option.map_some]

theorem standing_of_none (hfront : q.front c = none) : standing u q c = none := by
  rw [standing, hfront, Option.bind_none]

theorem standing_put (ho : u.own? t = some own) (hseat : seat.own? = some own')
    (hc' : own'.cluster = own.cluster)
    (hcounters : ∀ d, d ≠ own.cluster → shared.counters d = u.shared.counters d)
    (hfront : ∀ d, d ≠ own.cluster → q'.front d = q.front d) {st : Option Standing}
    (hst : standing (u.put t shared seat holds) q' own.cluster = st) :
    standing (u.put t shared seat holds) q' = Function.update (standing u q) own.cluster st := by
  funext d
  rw [Function.update_apply]
  split
  · next hd => rw [hd, hst]
  · next hd =>
    have hcur : shared.cur d = u.shared.cur d := congrArg (·.cur.toInt) (hcounters d hd)
    simp only [standing, shared_put]
    rw [hfront d hd, roles_put_of_ne ho hseat hc' hd, hcur]

theorem standing_frame (hb : ∀ c, roles u c t = none) (ha : ∀ c, role seat holds c = none)
    (hcounters : ∀ c, shared.counters c = u.shared.counters c) (hfront : q'.front = q.front) :
    standing (u.put t shared seat holds) q' = standing u q := by
  funext c
  have hcur : shared.cur c = u.shared.cur c := congrArg (·.cur.toInt) (hcounters c)
  simp only [standing, shared_put]
  rw [hfront, roles_put_of_none (hb c) (ha c), hcur]

theorem standing_waiting (hs : u.seat t = .waiting own point)
    (hfront : q.front own.cluster = some t) :
    standing u q own.cluster = some ⟨.waits point, u.shared.cur own.cluster⟩ :=
  standing_of_front hfront (by rw [roles, hs, role_waiting rfl])

theorem standing_join (hs : u.seat t = .vacant) :
    standing (u.put t u.shared (.idle own) false) q = standing u q := by
  refine standing_frame (fun c => ?_) (fun _ => role_idle) (fun _ => rfl) rfl
  rw [roles, hs, role_vacant]

theorem standing_leave (hs : u.seat t = .idle own) (hf : u.holds t = false) :
    standing (u.put t u.shared .vacant false) q = standing u q := by
  refine standing_frame (fun c => ?_) (fun _ => role_vacant) (fun _ => rfl) rfl
  rw [roles, hs, hf, role_idle]

theorem standing_attempt (hs : u.seat t = .idle own) (hf : u.holds t = false)
    (word : Ticket.Word) (single : Option (Fin n)) (ticket : UInt32) :
    standing (u.put t (u.shared.setGlobal word) (.idle (own.attempted ticket)) true)
      (q.setSingle single) = standing u q := by
  have hv : (own.attempted ticket).viaTry = true := rfl
  refine standing_frame (fun c => ?_) (fun _ => role_viaTry hv) (counters_setGlobal _) rfl
  rw [roles, hs, hf, role_idle]

theorem standing_letGo (hs : u.seat t = .idle own) (hv : own.viaTry = true) (word : Ticket.Word)
    (single : Option (Fin n)) :
    standing (u.put t (u.shared.setGlobal word) (.idle own') false) (q.setSingle single) =
      standing u q := by
  refine standing_frame (fun c => ?_) (fun _ => role_idle) (counters_setGlobal _) rfl
  rw [roles, hs, role_viaTry hv]

section Ordered

variable (h : Ordered u q)
include h

theorem Ordered.standing_lower (hd : Draws u t own own') (late : List (Fin n)) :
    standing (u.put t (u.shared.lower own.cluster) (.waiting own' point) false)
      (q.setLate own.cluster late) = standing u q := by
  obtain ⟨hc', -, ho, -, -⟩ := id hd
  have hc := h.cluster_lt t own ho
  refine (standing_put ho rfl hc' (fun d hd => counters_lower_of_ne hd) (fun _ _ => rfl) ?_).trans
    (Function.update_eq_self own.cluster _)
  have hfront : (q.setLate own.cluster late).front own.cluster = q.front own.cluster := rfl
  rw [standing, standing, hfront]
  refine Option.bind_congr fun s hs => ?_
  have hst : s ≠ t := by
    rintro rfl
    exact h.front_ne hc hd.roles_eq hs
  simp only [shared_put]
  rw [roles_put, Function.update_of_ne hst, cur_lower hc]

theorem Ordered.standing_openBatch (hs : u.seat t = .waiting own .closed) :
    standing (u.put t (u.shared.openBatch own.cluster) (.waiting (own.draw u.shared.global) .called)
      false) (q.enqueue own.cluster t) =
      Function.update (standing u q) own.cluster (some ⟨.waits .called, u.shared.batch.toInt⟩) := by
  have ho := own?_of_waiting hs
  have hrole : role (.waiting (own.draw u.shared.global) .called) false own.cluster =
      some (.waits .called) := if_pos rfl
  have hc' : (own.draw u.shared.global).cluster = own.cluster := rfl
  refine standing_put ho rfl hc' (fun d hd => counters_openBatch_of_ne hd)
    (fun d hd => by rw [Order.front_enqueue, if_neg hd]) ?_
  rw [standing_of_front (by rw [Order.front_enqueue, if_pos rfl])
    (by rw [roles_put, Function.update_self, hrole])]
  simp only [shared_put]
  rw [cur_openBatch (h.cluster_lt t own ho)]

theorem Ordered.standing_grant (hs : u.seat t = .waiting own point)
    (hfront : q.front own.cluster = some t) :
    standing (u.put t u.shared (.idle (own.granted point)) true) q =
      Function.update (standing u q) own.cluster
        (some ⟨.holds, u.shared.cur own.cluster⟩) := by
  have ho := own?_of_waiting hs
  have hv := h.viaTry_of_not_holds ho (h.not_holds hs)
  have hv' : (own.granted point).viaTry = false := by
    rw [← hv]
    cases point <;> rfl
  refine standing_put ho rfl (own.cluster_granted point) (fun _ _ => rfl) (fun _ _ => rfl) ?_
  rw [standing_of_front hfront
    (by rw [roles_put, Function.update_self, role_holder (own.cluster_granted point) hv'])]
  rfl

section Holder

variable (hs : u.seat t = .idle own) (hh : u.holds t = true) (hv : own.viaTry = false)
include hs hh hv

theorem Ordered.standing_holder :
    standing u q own.cluster = some ⟨.holds, u.shared.cur own.cluster⟩ :=
  standing_of_front (h.holder_leads hs hh hv).1 (roles_holder hs hh hv)

omit h hh hv in
theorem standing_close (closed : Own) (hc' : closed.cluster = own.cluster) :
    standing (u.put t (u.shared.closeBatch own.cluster (u.shared.rest own.cluster)) (.idle closed)
      false) (q.dequeue own.cluster) = Function.update (standing u q) own.cluster none := by
  refine standing_put (own?_of_idle hs) rfl hc' (fun d hd => counters_closeBatch_of_ne hd _)
    (fun d hd => by rw [Order.front_dequeue, if_neg hd]) ?_
  exact standing_of_none (by rw [Order.front_dequeue, if_pos rfl])

theorem Ordered.standing_pass (hpos : 0 < u.shared.cur own.cluster)
    (h' : Ordered (u.put t (u.shared.pass own.cluster) (.idle own) false)
      (q.setFront own.cluster (some s))) :
    ∃ ticket, standing (u.put t (u.shared.pass own.cluster) (.idle own) false)
      (q.setFront own.cluster (some s)) =
        Function.update (standing u q) own.cluster
          (some ⟨.waits (.served ticket), u.shared.cur own.cluster - 1⟩) := by
  have ho := own?_of_idle hs
  have hc := h.cluster_lt t own ho
  have hfront : (q.setFront own.cluster (some s)).front own.cluster = some s := by
    rw [Order.front_setFront, if_pos rfl]
  have hc' : own.cluster < (u.shared.pass own.cluster).clusters.length := by
    rw [Shared.pass, length_setCounters]
    exact hc
  have hat := ((h'.batched _ hc').front_iff s).mp hfront
  obtain ⟨hbefore, -⟩ := h.holder_leads hs hh hv
  have hst : s ≠ t := by
    rintro rfl
    rw [roles_put, Function.update_self, role_idle] at hat
    exact hat
  -- nobody but the holder stood in front of the batch before
  have hother : q.front own.cluster ≠ some s := by
    rw [hbefore]
    exact fun he => hst (Option.some.inj he).symm
  have hr : roles (u.put t (u.shared.pass own.cluster) (.idle own) false) own.cluster s =
      roles u own.cluster s := by
    rw [roles_put, Function.update_of_ne hst]
  rw [hr] at hat
  obtain ⟨ticket, hserved⟩ : ∃ ticket, roles u own.cluster s = some (.waits (.served ticket)) := by
    obtain hr | hr | ⟨ticket, hr, -⟩ := hat.cases
    · exact absurd ((h.batched _ hc).front_of (.inl hr)) hother
    · exact absurd ((h.batched _ hc).front_of (.inr hr)) hother
    · exact ⟨ticket, hr⟩
  refine ⟨ticket, ?_⟩
  refine standing_put ho rfl rfl (fun d hd => counters_pass_of_ne hd)
    (fun d hd => by rw [Order.front_setFront, if_neg hd]) ?_
  rw [standing_of_front hfront (hr.trans hserved)]
  simp only [shared_put]
  rw [cur_pass hc hpos]

end Holder

end Ordered

/-- What is to be told of the cluster for which something changes. -/
theorem Tallied.update (h : Tallied u q) {st : Option Standing}
    (hbatch : u'.shared.batch = u.shared.batch)
    (hst : standing u' q' = Function.update (standing u q) c st)
    (hnew : ∀ new, st = some new → new.Tally u.shared.batch.toInt) : Tallied u' q' := by
  intro d new hd
  rw [hbatch]
  rw [hst, Function.update_apply] at hd
  split at hd
  · exact hnew new hd
  · exact h d new hd

theorem Tallied.congr (h : Tallied u q) (hbatch : u'.shared.batch = u.shared.batch)
    (hst : standing u' q' = standing u q) : Tallied u' q' := by
  intro c st hc
  rw [hbatch]
  rw [hst] at hc
  exact h c st hc

theorem Standing.Tally.cur_le {st : Standing} {batch : Int} (h : st.Tally batch) :
    st.cur ≤ batch := by
  obtain ⟨_ | _ | _ | _ | _, cur⟩ := st
  · exact h
  · exact Int.le_of_lt h
  · exact h.elim
  · exact Int.le_of_eq h
  · exact h.elim

theorem Tallied.advance (h : Tallied u q) (ho : Ordered u q) (ha : Advance t (u, q) (u', q')) :
    Tallied u' q' := by
  cases ha with
  | @ask _ _ _ _ own _ _ late ha _ hu hq _ =>
    subst hu hq
    exact h.congr rfl (ho.standing_lower (ho.draws ha) late)
  | @openBatch _ _ _ _ own hs _ hu hq _ =>
    subst hu hq
    refine h.update batch_openBatch (ho.standing_openBatch hs) ?_
    rintro new ⟨⟩
    rfl
  | @grant _ _ _ own point hs hfront _ hu h' =>
    subst hu
    refine h.update rfl (ho.standing_grant hs hfront) ?_
    rintro new ⟨⟩
    exact (h _ _ (standing_waiting hs hfront)).cur_le

theorem Tallied.change (h : Tallied u q) (ho : Ordered u q)
    (hc : Change t (u, q) answer (u', q')) : Tallied u' q' := by
  cases hc with
  | advance ha _ _ => exact ha.induction (fun _ _ _ _ ho h => h.advance ho) ho h
  | join hs _ hu _ =>
    subst hu
    exact h.congr rfl (standing_join hs)
  | leave hs hf hu _ =>
    subst hu
    exact h.congr rfl (standing_leave hs hf)
  | attempt hs hf _ hu hq _ =>
    subst hu hq
    exact h.congr (batch_setGlobal _) (standing_attempt hs hf _ _ _)
  | letGo hs hv hu hq _ =>
    subst hu hq
    exact h.congr (batch_setGlobal _) (standing_letGo hs hv _ _)
  | @close _ _ _ _ own hs _ _ hu hq _ =>
    subst hu hq
    refine h.update (batch_closeBatch _) (standing_close hs (own.closed _) rfl) ?_
    rintro new ⟨⟩
  | pass hs hh hv hpos hu hq h' =>
    subst hu hq
    obtain ⟨ticket, hst⟩ := ho.standing_pass hs hh hv hpos h'
    refine h.update batch_pass hst ?_
    rintro new ⟨⟩
    exact Int.sub_one_lt_of_le (h _ _ (ho.standing_holder hs hh hv)).cur_le

theorem tallied_opening (config : Config) (n : Nat) :
    Tallied (opening clusterTicket config n) (.empty n) := by
  intro c st hst
  cases (standing_of_none rfl).symm.trans hst

/-- What is to be told of the batches holds after every proper schedule. -/
theorem tallied_run {config : Config} {schedule : Schedule n} (hn : n < 0x80000000)
    (hv : config.Valid) (hp : (opening clusterTicket config n).Proper clusterTicket schedule) :
    ∃ q, Ordered ((opening clusterTicket config n).run clusterTicket schedule).1 q ∧
      Tallied ((opening clusterTicket config n).run clusterTicket schedule).1 q ∧
      ((opening clusterTicket config n).run clusterTicket schedule).1.shared.batch.toInt =
        config.batchSize := by
  refine (run_induction (fun u => ∃ q, Ordered u q ∧ Tallied u q ∧
    u.shared.batch.toInt = config.batchSize) (fun _ => True) ?_
    ⟨_, ordered_opening hv n, tallied_opening config n, toInt_batch_create hv⟩ hp).1
  rintro u t action ⟨q, ho, h, hbatch⟩ hp
  obtain ⟨-, q', hc⟩ := ho.changes hn hp
  exact ⟨⟨q', ho.change hc, h.change ho hc,
    (congrArg Int32.toInt (hc.batch_eq ho)).trans hbatch⟩, trivial⟩

end SpinLocks.ClusterTicket
