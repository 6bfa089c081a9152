import Mathlib.Data.List.TakeWhile
import SpinLocks.Proofs.ClusterTicket.Standing

namespace SpinLocks.ClusterTicket

open Usage

variable {n : Nat}

def Order.ahead (q : Order n) (c : Nat) : List Nat :=
  q.line.takeWhile (· ≠ c)

/-- How often a thread in front of a batch is yet to take the lock, where the thread that waits for
the global ticket may be left out. -/
def Role.owes (recents : Bool) : Role → Nat
  | .holds => 0
  | .waits .called => (!recents).toNat
  | .waits _ => 1

/-- How often the lock may be taken before the batch is closed. -/
def Standing.left (recents : Bool) (st : Standing) : Nat :=
  st.cur.toNat + st.role.owes recents

def pending (recents : Bool) (u : Threads n) (q : Order n) (d : Nat) : Nat :=
  (standing u q d).elim 0 (Standing.left recents)

/-- How often the lock may be taken for a cluster `d` before it goes to the cluster `c`. -/
def room (recents : Bool) (u : Threads n) (q : Order n) (c d : Nat) : Nat :=
  if d ∈ q.ahead c then pending recents u q d else 0

def taken (recents : Bool) (recent : Fin n → Bool) (u : Threads n) (t : Fin n) (d : Nat) : Nat :=
  if u.holds t = true ∧ (∃ own, u.own? t = some own ∧ own.cluster = d) ∧
    (recents = true → recent t = true) then 1 else 0

/-- Where the thread takes the lock on the way from one state to another, this is made up for by
what is gone of the room. -/
def Spends (recent : Fin n → Bool) (t : Fin n) (c : Nat) (p p' : Threads n × Order n) : Prop :=
  ∀ recents d, room recents p'.1 p'.2 c d +
    (taken recents recent p'.1 t d - taken recents recent p.1 t d) ≤ room recents p.1 p.2 c d

/-- A thread waits for the global ticket that it drew for its cluster. Who waits for that of a
cluster ahead was engaged before. -/
structure Watched (u : Threads n) (q : Order n) (w : Fin n) (c : Nat) (recent : Fin n → Bool) :
    Prop where
  called : ∃ own, u.seat w = .waiting own .called ∧ own.cluster = c
  earlier : ∀ t own, u.seat t = .waiting own .called → own.cluster ∈ q.ahead c → recent t = false

variable {u u' : Threads n} {q q' : Order n} {t w : Fin n} {own : Own} {c d : Nat}
  {recent : Fin n → Bool} {recents : Bool} {shared : Shared} {seat : Seat Own Wait}
  {holds : Bool} {point : Wait} {answer : Answer Reply}

namespace Order

theorem mem_line_of_mem_ahead (h : d ∈ q.ahead c) : d ∈ q.line :=
  (List.takeWhile_prefix _).subset h

theorem not_mem_ahead (q : Order n) (c : Nat) : c ∉ q.ahead c := by
  intro h
  simpa using List.mem_takeWhile_imp h

theorem ahead_enqueue (h : c ∈ q.line) : (q.enqueue d t).ahead c = q.ahead c := by
  have hne : (q.line.takeWhile (· ≠ c)).length ≠ q.line.length := by
    intro he
    have hall := (List.takeWhile_prefix (p := (· ≠ c))).eq_of_length he
    refine q.not_mem_ahead c ?_
    rwa [ahead, hall]
  rw [ahead, line_enqueue, List.takeWhile_append, if_neg hne]
  rfl

theorem Leads.ahead_eq (hl : q.Leads d) (hne : d ≠ c) :
    q.ahead c = d :: (q.dequeue d).ahead c := by
  obtain ⟨rest, hline⟩ := hl.exists_line
  simp [ahead, line_dequeue, hline, hne]

end Order

theorem room_le (h : ∀ d ∈ q'.ahead c, d ∈ q.ahead c ∧
    pending recents u' q' d ≤ pending recents u q d) (d : Nat) :
    room recents u' q' c d ≤ room recents u q c d := by
  unfold room
  by_cases hd : d ∈ q'.ahead c
  · obtain ⟨hd', hle⟩ := h d hd
    rwa [if_pos hd, if_pos hd']
  · rw [if_neg hd]
    exact Nat.zero_le _

namespace Spends

theorem refl (recent : Fin n → Bool) (t : Fin n) (c : Nat) (p : Threads n × Order n) :
    Spends recent t c p p :=
  fun recents d => by rw [Nat.sub_self, Nat.add_zero]

theorem trans {p p' p'' : Threads n × Order n} (h : Spends recent t c p p')
    (h' : Spends recent t c p' p'') : Spends recent t c p p'' := by
  intro recents d
  have hfirst := h recents d
  have hlast := h' recents d
  omega

theorem of_not_holds (hf : u'.holds t = false)
    (h : ∀ recents, ∀ d ∈ q'.ahead c, d ∈ q.ahead c ∧
      pending recents u' q' d ≤ pending recents u q d) :
    Spends recent t c (u, q) (u', q') := by
  intro recents d
  have hzero : taken recents recent u' t d = 0 := if_neg (by simp [hf])
  rw [hzero, Nat.zero_sub]
  exact room_le (h recents) d

theorem of_standing_eq (hf : u'.holds t = false) (hline : q'.line = q.line)
    (hst : standing u' q' = standing u q) : Spends recent t c (u, q) (u', q') := by
  refine of_not_holds hf fun recents d hd => ⟨?_, ?_⟩
  · rwa [Order.ahead, hline] at hd
  · rw [pending, pending, hst]

/-- Where something changes for one cluster, its batch is to have no more left. -/
theorem of_standing_update {e : Nat} {st : Option Standing} (hf : u'.holds t = false)
    (hsub : q'.ahead c ⊆ q.ahead c)
    (hst : standing u' q' = Function.update (standing u q) e st)
    (hle : e ∈ q'.ahead c → ∀ recents,
      st.elim 0 (Standing.left recents) ≤ pending recents u q e) :
    Spends recent t c (u, q) (u', q') := by
  refine of_not_holds hf fun recents d hd => ⟨hsub hd, ?_⟩
  rw [pending, hst, Function.update_apply]
  split
  · next he => exact he ▸ hle (he ▸ hd) recents
  · exact Nat.le_refl _

end Spends

namespace Watched

section Ordered

variable (h : Watched u q w c recent) (ho : Ordered u q)
include h ho

theorem front_eq : q.front c = some w := by
  obtain ⟨own, hs, rfl⟩ := h.called
  exact ho.called_front hs

theorem mem_line : c ∈ q.line := by
  obtain ⟨own, hs, rfl⟩ := h.called
  refine (ho.mem_line _).mpr ⟨ho.cluster_lt w own (own?_of_waiting hs), ?_⟩
  rw [ho.called_front hs]
  exact Option.some_ne_none w

theorem not_free : ¬ q.Free := by
  intro hfree
  have hm := h.mem_line ho
  rw [hfree.2] at hm
  cases hm

theorem ne_of_front (htw : t ≠ w) (hfront : q.front d = some t) : d ≠ c := by
  rintro rfl
  exact htw (Option.some.inj (hfront.symm.trans (h.front_eq ho)))

theorem spends_grant (htw : t ≠ w) (hs : u.seat t = .waiting own point)
    (hfront : q.front own.cluster = some t) (hl : q.Leads own.cluster) :
    Spends recent t c (u, q) (u.put t u.shared (.idle (own.granted point)) true, q) := by
  have hahead : own.cluster ∈ q.ahead c := by
    rw [hl.ahead_eq (h.ne_of_front ho htw hfront)]
    exact List.mem_cons_self
  have ho' : (u.put t u.shared (.idle (own.granted point)) true).own? t =
      some (own.granted point) := by
    rw [own?_put, if_pos rfl]
    rfl
  intro recents d
  refine Nat.le_trans (Nat.add_le_add_left (Nat.sub_le _ _) _) ?_
  by_cases hd : d = own.cluster
  · subst hd
    have howes : taken recents recent (u.put t u.shared (.idle (own.granted point)) true) t
        own.cluster ≤ Role.owes recents (.waits point) := by
      unfold taken
      split
      · next htaken =>
        -- whoever waits for the global ticket did not come recently
        cases point with
        | called =>
          have hearlier := h.earlier t own hs hahead
          cases recents with
          | false => exact Nat.le_refl 1
          | true => simp [htaken.2.2 rfl] at hearlier
        | served ticket | closed | opened => exact Nat.le_refl 1
      · exact Nat.zero_le _
    simp only [room, if_pos hahead, pending, ho.standing_grant hs hfront, Function.update_self,
      standing_waiting hs hfront, Option.elim_some, Standing.left]
    have hnone : Role.owes recents .holds = 0 := rfl
    omega
  · have hzero : taken recents recent (u.put t u.shared (.idle (own.granted point)) true) t d
        = 0 := by
      refine if_neg ?_
      rintro ⟨-, ⟨own', hown, rfl⟩, -⟩
      obtain rfl := Option.some.inj (ho'.symm.trans hown)
      exact hd (own.cluster_granted point)
    rw [hzero]
    simp only [room, pending, ho.standing_grant hs hfront, Function.update_of_ne hd]
    exact Nat.le_refl _

end Ordered

theorem put (h : Watched u q w c recent) (htw : t ≠ w) (hsub : q'.ahead c ⊆ q.ahead c)
    (hseat : ∀ own, seat = .waiting own .called → own.cluster ∉ q'.ahead c) :
    Watched (u.put t shared seat holds) q' w c recent where
  called := by
    rw [seat_put, if_neg (Ne.symm htw)]
    exact h.called
  earlier := by
    intro s own hs hahead
    rw [seat_put] at hs
    split at hs
    · exact absurd hahead (hseat own hs)
    · exact h.earlier s own hs (hsub hahead)

theorem advance (h : Watched u q w c recent) (ho : Ordered u q) (htw : t ≠ w)
    (ha : Advance t (u, q) (u', q')) :
    Watched u' q' w c recent ∧ Spends recent t c (u, q) (u', q') := by
  cases ha with
  | @ask _ _ _ _ own own' point late ha hpoint hu hq _ =>
    subst hu hq
    refine ⟨h.put htw (List.Subset.refl _) ?_,
      .of_standing_eq (holds_put_self ..) rfl (ho.standing_lower (ho.draws ha) late)⟩
    rintro own ⟨⟩
    exact absurd rfl hpoint
  | @openBatch _ _ _ _ own hs hfront hu hq _ =>
    subst hu hq
    have hahead := Order.ahead_enqueue (d := own.cluster) (t := t) (h.mem_line ho)
    -- the cluster stood nowhere in the line before
    have hnot : own.cluster ∉ (q.enqueue own.cluster t).ahead c := by
      rw [hahead]
      intro hm
      exact ((ho.mem_line _).mp (Order.mem_line_of_mem_ahead hm)).2 hfront
    have hsub : (q.enqueue own.cluster t).ahead c ⊆ q.ahead c := hahead ▸ List.Subset.refl _
    refine ⟨h.put htw hsub ?_, .of_standing_update (holds_put_self ..) hsub
      (ho.standing_openBatch hs) fun hm => absurd hm hnot⟩
    rintro own' ⟨⟩
    exact hnot
  | grant hs hfront hl hu _ =>
    subst hu
    refine ⟨h.put htw (List.Subset.refl _) ?_, h.spends_grant ho htw hs hfront hl⟩
    rintro own ⟨⟩

theorem change (h : Watched u q w c recent) (ho : Ordered u q) (htw : t ≠ w)
    (hc : Change t (u, q) answer (u', q')) :
    Watched u' q' w c recent ∧ Spends recent t c (u, q) (u', q') := by
  have hidle : ∀ own own', (.idle own : Seat Own Wait) = .waiting own' .called →
      own'.cluster ∉ q'.ahead c := by
    rintro own own' ⟨⟩
  cases hc with
  | advance ha _ _ =>
    refine ha.induction
      (P := fun u' q' => Watched u' q' w c recent ∧ Spends recent t c (u, q) (u', q')) ?_ ho
      ⟨h, .refl recent t c (u, q)⟩
    rintro u₁ q₁ u₂ q₂ ho₁ ⟨h₁, hspends⟩ ha
    obtain ⟨h₂, hspends'⟩ := h₁.advance ho₁ htw ha
    exact ⟨h₂, hspends.trans hspends'⟩
  | join hs _ hu _ =>
    subst hu
    exact ⟨h.put htw (List.Subset.refl _) (hidle _),
      .of_standing_eq (holds_put_self ..) rfl (standing_join hs)⟩
  | leave hs hf hu _ =>
    subst hu
    refine ⟨h.put htw (List.Subset.refl _) ?_,
      .of_standing_eq (holds_put_self ..) rfl (standing_leave hs hf)⟩
    rintro own ⟨⟩
  | attempt _ _ hfree _ _ _ => exact absurd hfree (h.not_free ho)
  | letGo hs hv hu hq _ =>
    subst hu hq
    exact ⟨h.put htw (List.Subset.refl _) (hidle _),
      .of_standing_eq (holds_put_self ..) rfl (standing_letGo hs hv _ _)⟩
  | @close _ _ _ _ own hs hh hv hu hq _ =>
    subst hu hq
    obtain ⟨hfront, hl⟩ := ho.holder_leads hs hh hv
    have hsub : (q.dequeue own.cluster).ahead c ⊆ q.ahead c := by
      rw [hl.ahead_eq (h.ne_of_front ho htw hfront)]
      exact List.subset_cons_self _ _
    exact ⟨h.put htw hsub (hidle _), .of_standing_update (holds_put_self ..) hsub
      (standing_close hs (own.closed _) rfl) fun _ _ => Nat.zero_le _⟩
  | @pass _ _ _ _ own s hs hh hv hpos hu hq h' =>
    subst hu hq
    obtain ⟨ticket, hst⟩ := ho.standing_pass hs hh hv hpos h'
    refine ⟨h.put htw (List.Subset.refl _) (hidle _),
      .of_standing_update (holds_put_self ..) (List.Subset.refl _) hst ?_⟩
    -- one ticket less is left, and one more thread waits for its turn
    intro _ recents
    have howes : Role.owes recents (.waits (.served ticket)) = 1 := rfl
    simp only [pending, ho.standing_holder hs hh hv, Option.elim_some, Standing.left]
    omega

end Watched

end SpinLocks.ClusterTicket
