import SpinLocks.Proofs.ClusterTicket.Room
import SpinLocks.Proofs.History

namespace SpinLocks.ClusterTicket

open Usage

variable {n : Nat} {u u' : Threads n} {q q' : Order n} {t w : Fin n} {own : Own} {c d : Nat}
  {recent : Fin n → Bool} {recents : Bool} {action : Action Entry Command}
  {answer : Answer Reply}

def DrawsGlobal (u : Threads n) (t : Fin n) (action : Action Entry Command) : Prop :=
  (u.step clusterTicket t action).1.shared.global.tail ≠ u.shared.global.tail

instance DrawsGlobal.decidable (u : Threads n) (t : Fin n) (action : Action Entry Command) :
    Decidable (DrawsGlobal u t action) :=
  inferInstanceAs (Decidable (_ ≠ _))

/-- Whether the lock was taken for the cluster, where it may be asked that the thread came to be
engaged recently. -/
def takenFor (recents : Bool) (d : Nat) (taking : Taking Own n) : Bool :=
  taking.own.cluster = d ∧ (recents = true → taking.recent = true)

theorem takenFor_false (d : Nat) :
    takenFor false d = fun taking : Taking Own n => decide (taking.own.cluster = d) := by
  funext taking
  simp [takenFor]

theorem takenFor_true (d : Nat) : takenFor true d =
    fun taking : Taking Own n => decide (taking.own.cluster = d ∧ taking.recent = true) := by
  funext taking
  simp [takenFor]

/-- What is left of a batch: all of it, and the thread that drew the global ticket, where nobody has
taken the lock for it yet. -/
theorem Standing.Tally.left_le {st : Standing} {batch : Nat} (h : st.Tally batch)
    (hpos : 0 < batch) (recents : Bool) : st.left recents ≤ batch + (!recents).toNat := by
  obtain ⟨_ | _ | _ | _ | _, cur⟩ := st
  · have hle : cur ≤ batch := h
    simp only [Standing.left, Role.owes]
    omega
  · have hlt : cur < batch := h
    simp only [Standing.left, Role.owes]
    omega
  · exact h.elim
  · have he : cur = batch := h
    simp only [Standing.left, Role.owes]
    omega
  · exact h.elim

theorem Tallied.room_le {batch : Nat} (h : Tallied u q) (hbatch : u.shared.batch.toInt = batch)
    (hpos : 0 < batch) (recents : Bool) (c d : Nat) :
    room recents u q c d ≤ batch + (!recents).toNat := by
  unfold room pending
  split
  · cases hst : standing u q d with
    | none => exact Nat.zero_le _
    | some st =>
      have htally := h d st hst
      rw [hbatch] at htally
      exact htally.left_le hpos recents
  · exact Nat.zero_le _

theorem Ordered.not_takes_attempt (ho : Ordered u q) (hfree : ¬ q.Free) :
    u.takes clusterTicket t (.start .tryAcquire) = false := by
  obtain ⟨cause, -, he⟩ | ⟨_, ⟨⟩, _⟩ | ⟨_, ⟨⟩, _⟩ | ⟨own, command, _, hs⟩ | ⟨_, _, ⟨⟩, _⟩ :=
    step_cases clusterTicket u t (.start .tryAcquire)
  · simp [takes, he]
  · have hstart : clusterTicket.start .tryAcquire u.shared own =
        ClusterTicket.tryAcquire u.shared own := rfl
    have hheld : ¬ u.shared.global.head = u.shared.global.tail := fun he =>
      hfree (ho.isFree_iff.mp ((Ticket.Word.isFree_iff _).mpr he))
    rw [takes, step_start hs, hstart, tryAcquire_eq, if_neg hheld, settle_took, Bool.xor_false,
      holds_put_self, Bool.not_and_self]

theorem Ordered.attempt_of_mem (ho : Ordered u q) (hfree : ¬ q.Free) {taking : Taking Own n}
    (hm : taking ∈ (u.taking? clusterTicket recent t action).toList) : taking.attempt = false := by
  rw [Option.mem_toList, taking?] at hm
  split at hm
  · next htakes =>
    obtain ⟨own, -, rfl⟩ := Option.map_eq_some_iff.mp hm
    refine decide_eq_false ?_
    rintro rfl
    simp [ho.not_takes_attempt hfree] at htakes
  · cases hm

theorem countP_taking?_le (u : Threads n) (t : Fin n) (action : Action Entry Command)
    (recents : Bool) (recent : Fin n → Bool) (d : Nat) :
    (u.taking? clusterTicket recent t action).toList.countP (takenFor recents d) ≤
      taken recents recent (u.step clusterTicket t action).1 t d - taken recents recent u t d := by
  rw [taking?]
  split
  · next h =>
    obtain ⟨hf, hh⟩ : u.holds t = false ∧ (u.step clusterTicket t action).1.holds t = true := by
      simpa [takes] using h
    cases ho : (u.step clusterTicket t action).1.own? t with
    | none => exact Nat.zero_le _
    | some own => cases recents <;> simp [taken, takenFor, hf, hh, ho, List.countP_singleton]
  · exact Nat.zero_le _

namespace Watched

theorem remember (h : Watched u q w c recent) (t : Fin n) (action : Action Entry Command) :
    Watched u q w c (u.remember clusterTicket recent t action) where
  called := h.called
  earlier := by
    intro s own hs hahead
    have hrecent := h.earlier s own hs hahead
    rw [Usage.remember, Function.update_apply]
    split
    · next he =>
      subst he
      have hengaged : u.Engaged s := .inr (waits_iff.mpr ⟨own, .called, hs⟩)
      simp [hrecent, enters, hengaged]
    · exact hrecent

theorem step_self (h : Watched u q w c recent)
    (hw : (u.step clusterTicket w action).1.waits w = true) :
    (u.step clusterTicket w action).1 = u := by
  obtain ⟨own, hcalled, -⟩ := h.called
  obtain ⟨cause, -, he⟩ | ⟨_, _, hs⟩ | ⟨_, _, hs⟩ | ⟨_, _, _, hs⟩ | ⟨own', point, rfl, hs⟩ :=
    step_cases clusterTicket u w action
  · rw [he]
  · cases hs.symm.trans hcalled
  · cases hs.symm.trans hcalled
  · cases hs.symm.trans hcalled
  · cases hs.symm.trans hcalled
    have hresume : clusterTicket.resume .called u.shared own = awaitCalled u.shared own := rfl
    by_cases he : u.shared.global.head = own.global.ticket
    · rw [step_resume hs, hresume, awaitCalled_eq, if_pos he, settle_done, waits_put,
        if_pos rfl] at hw
      cases hw
    · rw [step_resume hs, hresume, awaitCalled_eq, if_neg he]
      exact settle_self hs

theorem step (h : Watched u q w c recent) (ho : Ordered u q) (hn : n < 0x80000000)
    (hp : u.permits t action = true) (hw : (u.step clusterTicket t action).1.waits w = true) :
    ∃ q', Ordered (u.step clusterTicket t action).1 q' ∧
      Watched (u.step clusterTicket t action).1 q' w c
        (u.remember clusterTicket recent t action) ∧
      Spends (u.remember clusterTicket recent t action) t c (u, q)
        ((u.step clusterTicket t action).1, q') := by
  have h := h.remember t action
  by_cases htw : t = w
  · subst htw
    rw [h.step_self hw]
    exact ⟨q, ho, h, .refl _ _ _ _⟩
  · obtain ⟨-, q', hc⟩ := ho.changes hn hp
    exact ⟨q', ho.change hc, h.change ho htw hc⟩

/-- While the thread waits, the lock is taken no more often than there is room for. -/
theorem run (h : Watched u q w c recent) (ho : Ordered u q) (hn : n < 0x80000000)
    {schedule : Schedule n} (hp : u.Proper clusterTicket schedule)
    (hw : u.Throughout clusterTicket (fun u => u.waits w = true) schedule) :
    (∀ recents d, (u.takings clusterTicket recent schedule).countP (takenFor recents d) ≤
        room recents u q c d) ∧
      ∀ taking ∈ u.takings clusterTicket recent schedule, taking.attempt = false := by
  induction schedule generalizing u q recent with
  | nil => exact ⟨fun _ _ => Nat.zero_le _, by simp [takings]⟩
  | cons step rest ih =>
    obtain ⟨t, action⟩ := step
    obtain ⟨q', ho', h', hspends⟩ := h.step ho hn hp.1 hw.2.now
    obtain ⟨hcount, hattempt⟩ := ih h' ho' hp.2 hw.2
    refine ⟨fun recents d => ?_, fun taking hm => ?_⟩
    · have hfirst := countP_taking?_le u t action recents
        (u.remember clusterTicket recent t action) d
      have hroom := hspends recents d
      have hrest := hcount recents d
      dsimp only at hroom
      rw [takings, List.countP_append]
      omega
    · rw [takings, List.mem_append] at hm
      obtain hm | hm := hm
      · exact ho.attempt_of_mem (h.not_free ho) hm
      · exact hattempt taking hm

end Watched

/-- On its way to the lock a thread draws a global ticket once at most, and waits for that then. -/
theorem Ordered.called_of_advances (ho : Ordered u q) (ha : Advances t (u, q) (u', q')) :
    u'.shared.global.tail = u.shared.global.tail ∨ u'.holds t = true ∨
      ∃ own, u'.seat t = .waiting own .called := by
  refine ha.induction (P := fun u' _ => u'.shared.global.tail = u.shared.global.tail ∨
    u'.holds t = true ∨ ∃ own, u'.seat t = .waiting own .called) ?_ ho (.inl rfl)
  intro u₁ q₁ u₂ q₂ _ h₁ ha
  cases ha with
  | ask ha _ hu _ _ =>
    subst hu
    obtain htail | hh | ⟨own, hs⟩ := h₁
    · exact .inl htail
    · cases ha.1.symm.trans hh
    · obtain ⟨-, ⟨hs', -⟩ | ⟨hs', -⟩⟩ := ha
      · cases hs'.symm.trans hs
      · cases hs'.symm.trans hs
  | openBatch _ _ hu _ _ =>
    subst hu
    exact .inr (.inr ⟨_, seat_put_self ..⟩)
  | grant _ _ _ hu _ =>
    subst hu
    exact .inr (.inl (holds_put_self ..))

theorem Ordered.called_of_draws (ho : Ordered u q) (hc : Change t (u, q) answer (u', q'))
    (htail : u'.shared.global.tail ≠ u.shared.global.tail) (hw : u'.waits t = true) :
    ∃ own, u'.seat t = .waiting own .called := by
  obtain ⟨own, point, hs⟩ := waits_iff.mp hw
  cases hc with
  | advance ha _ _ =>
    obtain htail' | hh | hcalled := ho.called_of_advances ha
    · exact absurd htail' htail
    · cases ((ho.advances ha).not_holds hs).symm.trans hh
    · exact hcalled
  | join _ _ hu _ | leave _ _ hu _ | attempt _ _ _ hu _ _ | letGo _ _ hu _ _
  | close _ _ _ hu _ _ | pass _ _ _ _ hu _ _ =>
    subst hu
    rw [seat_put_self] at hs
    cases hs

variable {config : Config} {earlier between : Schedule n}

/-- Between the draw of a thread's global ticket and the turn in which the thread takes the lock, it
is taken for another cluster at most once more than a batch has tickets, and by threads that came
after the draw at most as often as a batch has tickets. It is not taken for the thread's own
cluster, nor in a single attempt. -/
theorem overtaking_bounded_run {action : Action Entry Command} (hn : n < 0x80000000)
    (hv : config.Valid)
    (hp : (opening clusterTicket config n).Proper clusterTicket
      (earlier ++ (w, action) :: between)) :
    let before := ((opening clusterTicket config n).run clusterTicket earlier).1
    let after := (before.step clusterTicket w action).1
    let takings := after.takings clusterTicket (fun _ => false) between
    DrawsGlobal before w action →
    after.Throughout clusterTicket (fun u => u.waits w = true) between →
    ∀ own, after.own? w = some own →
      (∀ c, c ≠ own.cluster →
        takings.countP (fun taking => taking.own.cluster = c) ≤ config.batchSize + 1 ∧
        takings.countP (fun taking => taking.own.cluster = c ∧ taking.recent = true) ≤
          config.batchSize) ∧
      ∀ taking ∈ takings, taking.own.cluster ≠ own.cluster ∧ taking.attempt = false := by
  intro before after takings hdraws hwaits own hown
  obtain ⟨hp, hpermits, hp'⟩ := along_append.mp hp
  obtain ⟨q₀, ho, ht, hbatch⟩ := tallied_run hn hv hp
  obtain ⟨-, q, hc⟩ := ho.changes hn hpermits
  obtain ⟨own', hcalled⟩ := ho.called_of_draws hc hdraws hwaits.now
  obtain rfl : own' = own := Option.some.inj ((own?_of_waiting hcalled).symm.trans hown)
  have ht := ht.change ho hc
  have hbatch := (congrArg Int32.toInt (hc.batch_eq ho)).trans hbatch
  have hwatched : Watched after q w own'.cluster fun _ => false :=
    ⟨⟨own', hcalled, rfl⟩, fun _ _ _ _ => rfl⟩
  obtain ⟨hcount, hattempt⟩ := hwatched.run (ho.change hc) hn hp' hwaits
  refine ⟨fun c _ => ⟨?_, ?_⟩, fun taking hm => ⟨?_, hattempt taking hm⟩⟩
  · rw [← takenFor_false]
    exact (hcount false c).trans (ht.room_le hbatch hv.batch_pos false _ c)
  · rw [← takenFor_true]
    exact (hcount true c).trans (ht.room_le hbatch hv.batch_pos true _ c)
  · -- there is no room for the cluster itself
    have hroom : room false after q own'.cluster own'.cluster = 0 :=
      if_neg (q.not_mem_ahead own'.cluster)
    have hzero := Nat.eq_zero_of_le_zero (hroom ▸ hcount false own'.cluster)
    intro he
    exact List.countP_eq_zero.mp hzero taking hm (decide_eq_true ⟨he, by simp⟩)

/-- The second thread holds the lock by a single attempt when the first and the third, on another
core, queue up. The first two take it before the third does. -/
theorem overtaking_bounded_batch :
    let earlier : Schedule 3 :=
      [(0, .join ⟨.pair, 0⟩), (1, .join ⟨.pair, 0⟩), (2, .join ⟨.pair, 1⟩),
        (1, .start .tryAcquire), (0, .start .acquire)]
    let between : Schedule 3 :=
      [(1, .start .release), (0, .resume), (1, .start .acquire), (0, .start .release),
        (1, .resume), (1, .start .release)]
    let before := ((opening clusterTicket .pair 3).run clusterTicket earlier).1
    let after := (before.step clusterTicket 2 (.start .acquire)).1
    let takings := after.takings clusterTicket (fun _ => false) between
    3 < 0x80000000 ∧ Config.pair.Valid ∧
      (opening clusterTicket .pair 3).Proper clusterTicket
        (earlier ++ (2, .start .acquire) :: between) ∧
      DrawsGlobal before 2 (.start .acquire) ∧
      after.Throughout clusterTicket (fun u => u.waits 2 = true) between ∧
      (after.own? 2).map Own.cluster = some 1 ∧
      takings.countP (fun taking => taking.own.cluster = 0) = Config.pair.batchSize + 1 ∧
      takings.countP (fun taking => taking.own.cluster = 0 ∧ taking.recent = true) ≤
        Config.pair.batchSize := by
  intro earlier between before after takings
  have hp : (opening clusterTicket .pair 3).Proper clusterTicket
      (earlier ++ (2, .start .acquire) :: between) := by decide
  have hdraws : DrawsGlobal before 2 (.start .acquire) := by decide
  have hwaits : after.Throughout clusterTicket (fun u => u.waits 2 = true) between := by decide
  have hcluster : (after.own? 2).map Own.cluster = some 1 := by decide
  obtain ⟨own, hown, hone⟩ := Option.map_eq_some_iff.mp hcluster
  have hbounds := (overtaking_bounded_run (by decide) Config.valid_pair hp hdraws hwaits own
    hown).1 0 (by simp [hone])
  exact ⟨by decide, Config.valid_pair, hp, hdraws, hwaits, hcluster,
    Nat.le_antisymm hbounds.1 (by decide), hbounds.2⟩

end SpinLocks.ClusterTicket
