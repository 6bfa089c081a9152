import Mathlib.Data.List.DropRight
import SpinLocks.Proofs.ClusterTicket.LocalTickets
import SpinLocks.Proofs.Misuse

namespace SpinLocks.ClusterTicket

open Usage

variable {n : Nat}

/-- The tickets that were drawn so far. -/
structure Record (n : Nat) where
  /-- Who drew the tickets of the global lock, from the first on: a thread of the cluster, to open a
  batch with, or a single attempt. -/
  globals : List (Option Nat)
  tickets : Fin n → Option Int

namespace Record

def blank : Record n := ⟨[], fun _ => none⟩

def step (record : Record n) (u : Threads n) (t : Fin n) (action : Action Entry Command) :
    Record n where
  globals := record.globals ++
    if DrawsGlobal u t action then [if Opens u t action then (u.own? t).map Own.cluster else none]
    else []
  tickets := Function.update record.tickets t (ticketAfter u t action (record.tickets t))

theorem globals_step (record : Record n) (u : Threads n) (t : Fin n)
    (action : Action Entry Command) : (record.step u t action).globals = record.globals ++
      if DrawsGlobal u t action then [if Opens u t action then (u.own? t).map Own.cluster else none]
      else [] := rfl

theorem tickets_step (record : Record n) (u : Threads n) (t : Fin n)
    (action : Action Entry Command) : (record.step u t action).tickets =
      Function.update record.tickets t (ticketAfter u t action (record.tickets t)) := rfl

def run (record : Record n) (u : Threads n) : Schedule n → Record n
  | [] => record
  | (t, action) :: rest => (record.step u t action).run (u.step clusterTicket t action).1 rest

def outstanding (record : Record n) (u : Threads n) : List (Option Nat) :=
  record.globals.rtake u.shared.global.queued.toNat

end Record

def joined (u : Threads n) (c : Nat) : Finset (Fin n) :=
  {t | (u.own? t).map Own.cluster = some c}

def AwaitsClose (u : Threads n) (t : Fin n) : Prop :=
  ∃ own, u.seat t = .waiting own .closed

/-- The thread holds the lock, or waits for the global ticket with which it opened a batch, or is
granted its local ticket and has not been resumed. -/
def Fronts (u : Threads n) (t : Fin n) (cur : Int) : Prop :=
  u.holds t = true ∨ (∃ own, u.seat t = .waiting own .called) ∨
    ∃ own mine, u.seat t = .waiting own (.served mine) ∧ mine.toInt = cur

/-- The counters of a cluster account for its threads. -/
structure Accounts (batch : Int) (u : Threads n) (record : Record n) (c : Nat) : Prop where
  nxt_ge : -((joined u c).card : Int) ≤ u.shared.nxt c
  nxt_le : u.shared.nxt c ≤ batch
  cur_cases : u.shared.cur c = batch + 1 ∨ 0 ≤ u.shared.cur c ∧ u.shared.cur c ≤ batch
  late_iff : u.shared.nxt c < 0 ↔
    ∃ t ∈ joined u c, AwaitsClose u t ∧ record.tickets t = some (-1)
  late_unique : ∀ s ∈ joined u c, ∀ t ∈ joined u c, AwaitsClose u s → AwaitsClose u t → s = t
  closed : u.shared.cur c = batch + 1 →
    u.shared.nxt c ≤ 0 ∧ (∀ t ∈ joined u c, ∀ k, record.tickets t = some k → k < 0) ∧
      (record.outstanding u).count (some c) = 0
  opened : u.shared.cur c ≤ batch →
    (record.outstanding u).count (some c) = 1 ∧
      ∃ t ∈ joined u c, record.tickets t = some (u.shared.cur c) ∧ Fronts u t (u.shared.cur c) ∧
        ∀ s ∈ joined u c, record.tickets s = some (u.shared.cur c) → s = t
  waiting_iff : u.shared.cur c ≤ batch → ∀ k, 0 ≤ k → k ≠ u.shared.cur c →
    ((∃ t ∈ joined u c, u.waits t = true ∧ record.tickets t = some k) ↔
      max (u.shared.nxt c) 0 ≤ k ∧ k < u.shared.cur c)
  waiting_unique : ∀ k, 0 ≤ k → ∀ s ∈ joined u c, ∀ t ∈ joined u c,
    record.tickets s = some k → record.tickets t = some k → s = t

def Order.owners (q : Order n) : List (Option Nat) :=
  q.single.toList.map (fun _ => none) ++ q.line.map some

/-- What the record says is so. -/
structure Recorded (record : Record n) (u : Threads n) (q : Order n) : Prop where
  owners : q.owners <:+ record.globals
  tail_eq : u.shared.global.tail = .ofNat record.globals.length
  hasTicket : ∀ t, HasTicket u t (record.tickets t)

variable {u u' : Threads n} {q q' : Order n} {s t : Fin n} {c : Nat} {record : Record n}
  {action : Action Entry Command} {answer : Answer Reply}

namespace Order

theorem length_owners (q : Order n) : q.owners.length = q.before + q.line.length := by
  unfold owners before
  cases q.single <;> simp [Nat.add_comm]

theorem count_owners (q : Order n) (c : Nat) : q.owners.count (some c) = q.line.count c := by
  have hline : (q.line.map some).count (some c) = q.line.count c :=
    List.count_map_of_injective _ _ (Option.some_injective Nat) c
  unfold owners
  cases q.single <;> simp [hline]

theorem owners_enqueue (q : Order n) (c : Nat) (t : Fin n) :
    (q.enqueue c t).owners = q.owners ++ [some c] := by
  simp [owners, line_enqueue, single_enqueue]

end Order

namespace Ordered

variable (h : Ordered u q)
include h

theorem toNat_queued : u.shared.global.queued.toNat = q.owners.length := by
  have hlen := h.line_length_le
  have hle := q.before_le
  have hlt : q.before + q.line.length < UInt32.size :=
    Nat.lt_of_le_of_lt (show _ ≤ 255 by omega) (by decide)
  rw [Ticket.Word.queued, h.word, q.length_owners]
  exact Ticket.toNat_number_sub hlt

theorem owners_advances (ha : Advances t (u, q) (u', q')) :
    u'.shared.global.tail = u.shared.global.tail ∧ q'.owners = q.owners ∨
      u'.shared.global.tail = u.shared.global.tail + 1 ∧
        q'.owners = q.owners ++ [(u.own? t).map Own.cluster] := by
  -- once it has drawn the ticket, it waits for that or has the lock
  have hstep := ha.induction (P := fun u₁ q₁ =>
    (u₁.shared.global.tail = u.shared.global.tail ∧ q₁.owners = q.owners) ∧
        (u₁.own? t).map Own.cluster = (u.own? t).map Own.cluster ∨
      (u₁.shared.global.tail = u.shared.global.tail + 1 ∧
        q₁.owners = q.owners ++ [(u.own? t).map Own.cluster]) ∧
          (u₁.holds t = true ∨ ∃ own, u₁.seat t = .waiting own .called)) ?_ h
    (.inl ⟨⟨rfl, rfl⟩, rfl⟩)
  · exact hstep.imp And.left And.left
  intro u₁ q₁ u₂ q₂ h₁ hp ha
  cases ha with
  | @ask _ _ _ _ own own' _ _ ha _ hu hq _ =>
    subst hu hq
    obtain ⟨hc', -, ho, hf, hs⟩ := h₁.draws ha
    obtain ⟨hsame, hown⟩ | ⟨-, hh | ⟨_, hcalled⟩⟩ := hp
    · refine .inl ⟨hsame, ?_⟩
      rw [← hown, own?_put, if_pos rfl, ho]
      exact congrArg some hc'
    · cases hf.symm.trans hh
    · obtain hs | hs := hs <;> cases hs.symm.trans hcalled
  | @openBatch _ _ _ _ own hs _ hu hq _ =>
    subst hu hq
    obtain ⟨⟨htail, howners⟩, hown⟩ | ⟨-, hh | ⟨_, hcalled⟩⟩ := hp
    · refine .inr ⟨⟨?_, ?_⟩, .inr ⟨_, seat_put_self ..⟩⟩
      · rw [← htail]
        exact (congrArg Ticket.Word.tail (global_openBatch _ _)).trans (Ticket.Word.tail_draw _)
      · rw [Order.owners_enqueue, howners, ← hown, own?_of_waiting hs, Option.map_some]
    · cases (h₁.not_holds hs).symm.trans hh
    · cases hs.symm.trans hcalled
  | @grant _ _ _ own point hs _ _ hu _ =>
    subst hu
    refine hp.imp ?_ fun ⟨hdrawn, _⟩ => ⟨hdrawn, .inl (holds_put_self ..)⟩
    rintro ⟨hsame, hown⟩
    refine ⟨hsame, ?_⟩
    rw [← hown, own?_put, if_pos rfl, own?_of_waiting hs]
    exact congrArg some (own.cluster_granted point)

/-- A step draws one global ticket at most. Others are done with in the order in which they were
drawn. -/
theorem owners_change (hc : Change t (u, q) answer (u', q')) :
    u'.shared.global.tail = u.shared.global.tail ∧ q'.owners <:+ q.owners ∨
      u'.shared.global.tail = u.shared.global.tail + 1 ∧ q'.owners = q.owners ++
        [if answer = .done (.took true) then none else (u.own? t).map Own.cluster] := by
  cases hc with
  | advance ha _ htook =>
    rw [if_neg htook]
    refine (h.owners_advances ha).imp_left fun ⟨htail, howners⟩ => ⟨htail, ?_⟩
    rw [howners]
  | join _ _ hu _ | leave _ _ hu _ =>
    subst hu
    exact .inl ⟨rfl, List.suffix_refl _⟩
  | attempt _ _ hfree hu hq _ =>
    subst hu hq
    refine .inr ⟨Ticket.Word.tail_draw _, ?_⟩
    simp [Order.owners, Order.setSingle, hfree.1, hfree.2]
  | letGo hs hv hu hq _ =>
    subst hu hq
    refine .inl ⟨Ticket.Word.tail_call _, ?_⟩
    simp [Order.owners, Order.setSingle]
  | @close _ _ _ _ own hs hh hv hu hq _ =>
    subst hu hq
    obtain ⟨-, hl⟩ := h.holder_leads hs hh hv
    refine .inl ⟨?_, ?_⟩
    · exact (congrArg Ticket.Word.tail (global_closeBatch ..)).trans (Ticket.Word.tail_call _)
    · obtain ⟨rest, hline⟩ := hl.exists_line
      simp [Order.owners, Order.dequeue, Order.setFront, hl.1, hline, List.suffix_cons]
  | pass _ _ _ _ hu hq _ =>
    subst hu hq
    exact .inl ⟨rfl, List.suffix_refl _⟩

end Ordered

theorem Recorded.opening (config : Config) (n : Nat) :
    Recorded .blank (opening clusterTicket config n) (.empty n) where
  owners := List.suffix_refl _
  tail_eq := show Ticket.Word.free.tail = 0 by decide
  hasTicket t := by
    rw [HasTicket, seat_opening]
    rfl

theorem Recorded.step (hr : Recorded record u q) (h : Ordered u q) (ht : Tallied u q)
    (hn : n < 0x80000000) (hp : u.permits t action = true)
    (hc : Change t (u, q) (u.step clusterTicket t action).2
      ((u.step clusterTicket t action).1, q')) :
    Recorded (record.step u t action) (u.step clusterTicket t action).1 q' := by
  have hglobal : q'.owners <:+ (record.step u t action).globals ∧
      (u.step clusterTicket t action).1.shared.global.tail =
        .ofNat (record.step u t action).globals.length := by
    rw [Record.globals_step]
    obtain ⟨htail, howners⟩ | ⟨htail, howners⟩ := h.owners_change hc
    · have hdraws : ¬ DrawsGlobal u t action := fun hd => hd htail
      rw [if_neg hdraws, List.append_nil, htail]
      exact ⟨howners.trans hr.owners, hr.tail_eq⟩
    · have hdraws : DrawsGlobal u t action := by
        rw [DrawsGlobal, htail, Ne, UInt32.add_eq_left]
        decide
      have hopens : Opens u t action ↔ ¬ (u.step clusterTicket t action).2 = .done (.took true) :=
        and_iff_right hdraws
      obtain ⟨past, hpast⟩ := hr.owners
      simp only [if_pos hdraws, hopens, ite_not]
      refine ⟨⟨past, ?_⟩, ?_⟩
      · rw [howners, ← List.append_assoc, hpast]
      · rw [htail, hr.tail_eq, List.length_append, UInt32.ofNat_add]
        rfl
  refine ⟨hglobal.1, hglobal.2, fun s => ?_⟩
  rw [Record.tickets_step]
  by_cases hst : s = t
  · subst hst
    rw [Function.update_self]
    exact h.hasTicket_self ht hn hp (hr.hasTicket s)
  · rw [Function.update_of_ne hst]
    exact (hr.hasTicket s).other (System.seat_step_of_ne hst action)
      (holds_step_of_ne hst) (hc.batch_eq h) fun c hs => h.cur_of_holds hc hst hs

theorem Recorded.run (hr : Recorded record u q) (h : Ordered u q) (ht : Tallied u q)
    (hn : n < 0x80000000) {schedule : Schedule n} (hp : u.Proper clusterTicket schedule) :
    ∃ q', Ordered (u.run clusterTicket schedule).1 q' ∧
      Tallied (u.run clusterTicket schedule).1 q' ∧
      Recorded (record.run u schedule) (u.run clusterTicket schedule).1 q' := by
  induction schedule generalizing u q record with
  | nil => exact ⟨q, h, ht, hr⟩
  | cons step rest ih =>
    obtain ⟨t, action⟩ := step
    obtain ⟨-, q', hc⟩ := h.changes hn hp.1
    exact ih (hr.step h ht hn hp.1 hc) (h.change hc) (ht.change h hc) hp.2

theorem mem_joined : t ∈ joined u c ↔ ∃ own, u.own? t = some own ∧ own.cluster = c := by
  simp [joined]

theorem joined_of_roles {r : Role} (hr : roles u c t = some r) : t ∈ joined u c := by
  cases r with
  | holds =>
    obtain ⟨own, hs, -, hc, -⟩ := role_eq_holds.mp hr
    exact mem_joined.mpr ⟨own, own?_of_idle hs, hc⟩
  | waits point =>
    obtain ⟨own, hs, hc⟩ := role_eq_waits.mp hr
    exact mem_joined.mpr ⟨own, own?_of_waiting hs, hc⟩

theorem joined_of_atFront {cur : Int} (hr : AtFront cur (roles u c t)) : t ∈ joined u c := by
  obtain hr | hr | ⟨_, hr, -⟩ := hr.cases <;> exact joined_of_roles hr

theorem fronts_of_atFront {cur : Int} (hr : AtFront cur (roles u c t)) : Fronts u t cur := by
  obtain hr | hr | ⟨mine, hr, hcur⟩ := hr.cases
  · obtain ⟨own, -, hh, -⟩ := role_eq_holds.mp hr
    exact .inl hh
  · obtain ⟨own, hs, -⟩ := role_eq_waits.mp hr
    exact .inr (.inl ⟨own, hs⟩)
  · obtain ⟨own, hs, -⟩ := role_eq_waits.mp hr
    exact .inr (.inr ⟨own, mine, hs, hcur⟩)

section Tickets

variable (hr : Recorded record u q)
include hr

theorem Recorded.outstanding_eq (h : Ordered u q) : record.outstanding u = q.owners := by
  rw [Record.outstanding, h.toNat_queued, List.rtake]
  exact (List.suffix_iff_eq_drop.mp hr.owners).symm

theorem Recorded.ticket_of_waits {point : Wait} (hrole : roles u c t = some (.waits point)) :
    ∃ own, Bears u.shared (u.holds t) (record.tickets t) (.waiting own point) := by
  obtain ⟨own, hs, -⟩ := role_eq_waits.mp hrole
  exact ⟨own, hs ▸ hr.hasTicket t⟩

theorem Recorded.ticket_of_served {mine : Int32}
    (hrole : roles u c t = some (.waits (.served mine))) :
    record.tickets t = some mine.toInt :=
  (hr.ticket_of_waits hrole).choose_spec

/-- Who stands in front of a batch has the ticket that is served. -/
theorem Recorded.ticket_of_atFront (h : Ordered u q) (ht : Tallied u q)
    (hrole : AtFront (u.shared.cur c) (roles u c t)) :
    record.tickets t = some (u.shared.cur c) := by
  obtain hrole | hrole | ⟨mine, hrole, hcur⟩ := hrole.cases
  · obtain ⟨own, hs, hh, rfl, hv⟩ := role_eq_holds.mp hrole
    have hb := hr.hasTicket t
    rw [HasTicket, hs] at hb
    exact hb.trans (if_pos ⟨hh, hv⟩)
  · obtain ⟨own, hs, rfl⟩ := role_eq_waits.mp hrole
    have hb := hr.hasTicket t
    rw [HasTicket, hs] at hb
    exact hb.trans (congrArg some (h.cur_of_called ht hs).symm)
  · rw [hr.ticket_of_served hrole, hcur]

theorem Recorded.role_of_ticket (h : Ordered u q) (ht : Tallied u q) (hm : t ∈ joined u c)
    {k : Int} (hk : record.tickets t = some k) (hpos : 0 ≤ k) :
    AtFront (u.shared.cur c) (roles u c t) ∧ k = u.shared.cur c ∨
      ∃ mine, roles u c t = some (.waits (.served mine)) ∧ mine.toInt = k := by
  obtain ⟨own, ho, rfl⟩ := mem_joined.mp hm
  have hb := hr.hasTicket t
  rw [HasTicket, hk] at hb
  cases hs : u.seat t with
  | vacant =>
    rw [hs] at hb
    cases hb
  | idle own' =>
    obtain rfl : own' = own := Option.some.inj ((own?_of_idle hs).symm.trans ho)
    rw [hs] at hb
    by_cases hh : u.holds t = true ∧ own'.viaTry = false
    · rw [Bears, if_pos hh] at hb
      rw [roles_holder hs hh.1 hh.2]
      exact .inl ⟨trivial, Option.some.inj hb⟩
    · rw [Bears, if_neg hh] at hb
      cases hb
  | waiting own' point =>
    obtain rfl : own' = own := Option.some.inj ((own?_of_waiting hs).symm.trans ho)
    rw [hs] at hb
    rw [roles, hs, role_waiting rfl]
    cases point with
    | served mine => exact .inr ⟨mine, rfl, (Option.some.inj hb).symm⟩
    | called => exact .inl ⟨trivial, (Option.some.inj hb).trans (h.cur_of_called ht hs).symm⟩
    | closed =>
      have hneg : k = -1 := Option.some.inj hb
      omega
    | opened =>
      obtain ⟨k', hk', hneg⟩ := hb
      cases hk'
      omega

end Tickets

section Accounts

variable (hr : Recorded record u q) (h : Ordered u q) (hc : c < u.shared.clusters.length)
include h hc

theorem Ordered.nxt_ge : -((joined u c).card : Int) ≤ u.shared.nxt c := by
  have hb := h.batched c hc
  have hsub : (q.late c).toFinset ⊆ joined u c := by
    intro t ht
    exact (hb.late.waits t (List.mem_toFinset.mp ht)).elim joined_of_roles joined_of_roles
  have hle := Finset.card_le_card hsub
  rw [List.toFinset_card_of_nodup hb.late.nodup] at hle
  have hlate := hb.late_length
  omega

theorem Ordered.nxt_le : u.shared.nxt c ≤ u.shared.batch.toInt := by
  have hb := h.batched c hc
  have hpos := h.batch_pos
  by_cases hfront : q.front c = none
  · have := (hb.closed hfront).2.1
    omega
  · have := hb.opened hfront
    omega

theorem Ordered.cur_le_iff : u.shared.cur c ≤ u.shared.batch.toInt ↔ q.front c ≠ none := by
  have hb := h.batched c hc
  constructor
  · intro hle hfront
    have := (hb.closed hfront).1
    omega
  · intro hfront
    exact (hb.opened hfront).2.1

theorem Ordered.awaitsClose_iff (hm : t ∈ joined u c) :
    AwaitsClose u t ↔ (q.late c).head? = some t := by
  rw [← (h.batched c hc).late.closed_iff, roles, role_eq_waits]
  constructor
  · rintro ⟨own, hs⟩
    obtain ⟨own', ho, rfl⟩ := mem_joined.mp hm
    obtain rfl : own = own' := Option.some.inj ((own?_of_waiting hs).symm.trans ho)
    exact ⟨own, hs, rfl⟩
  · rintro ⟨own, hs, -⟩
    exact ⟨own, hs⟩

theorem Ordered.exists_late_iff : (∃ t, (q.late c).head? = some t) ↔ u.shared.nxt c < 0 := by
  have hlate := (h.batched c hc).late_length
  cases hl : q.late c with
  | nil =>
    rw [hl] at hlate
    simp at hlate ⊢
    omega
  | cons t rest =>
    rw [hl, List.length_cons] at hlate
    simp
    omega

include hr

theorem Recorded.late_iff : u.shared.nxt c < 0 ↔
    ∃ t ∈ joined u c, AwaitsClose u t ∧ record.tickets t = some (-1) := by
  rw [← h.exists_late_iff hc]
  constructor
  · rintro ⟨t, hfirst⟩
    have hrole := ((h.batched c hc).late.closed_iff t).mpr hfirst
    have hm := joined_of_roles hrole
    obtain ⟨_, hticket⟩ := hr.ticket_of_waits hrole
    exact ⟨t, hm, (h.awaitsClose_iff hc hm).mpr hfirst, hticket⟩
  · rintro ⟨t, hm, hclose, -⟩
    exact ⟨t, (h.awaitsClose_iff hc hm).mp hclose⟩

/-- A cluster has one ticket in the queue of the global lock while a batch is open, else none. -/
theorem Recorded.count_outstanding : (record.outstanding u).count (some c) =
    if u.shared.cur c ≤ u.shared.batch.toInt then 1 else 0 := by
  rw [hr.outstanding_eq h, q.count_owners, h.line_nodup.count]
  refine if_congr ?_ rfl rfl
  rw [h.mem_line, h.cur_le_iff hc]
  exact and_iff_right hc

variable (ht : Tallied u q)
include ht

theorem Recorded.front_iff_ticket (hm : t ∈ joined u c) (hpos : 0 ≤ u.shared.cur c) :
    record.tickets t = some (u.shared.cur c) ↔ q.front c = some t := by
  rw [(h.batched c hc).front_iff]
  constructor
  · intro hk
    obtain ⟨hfront, -⟩ | ⟨mine, hrole, hmine⟩ := hr.role_of_ticket h ht hm hk hpos
    · exact hfront
    · rw [hrole]
      exact hmine
  · exact hr.ticket_of_atFront h ht

omit hc in
theorem Recorded.served_of_ticket (hm : t ∈ joined u c) {k : Int}
    (hk : record.tickets t = some k) (hpos : 0 ≤ k) (hne : k ≠ u.shared.cur c) :
    ∃ mine, roles u c t = some (.waits (.served mine)) ∧ mine.toInt = k :=
  (hr.role_of_ticket h ht hm hk hpos).resolve_left fun hfront => hne hfront.2

theorem Recorded.waiting_iff (hle : u.shared.cur c ≤ u.shared.batch.toInt) {k : Int} (hk : 0 ≤ k)
    (hne : k ≠ u.shared.cur c) :
    (∃ t ∈ joined u c, u.waits t = true ∧ record.tickets t = some k) ↔
      max (u.shared.nxt c) 0 ≤ k ∧ k < u.shared.cur c := by
  obtain ⟨-, -, -, hserved⟩ := (h.batched c hc).opened ((h.cur_le_iff hc).mp hle)
  constructor
  · rintro ⟨t, hm, -, hticket⟩
    obtain ⟨mine, hrole, rfl⟩ := hr.served_of_ticket h ht hm hticket hk hne
    have := hserved.range t mine hrole
    omega
  · rintro ⟨hnxt, hlt⟩
    obtain ⟨t, mine, hrole, rfl⟩ := hserved.exists_of_lt k (by omega) hk hlt
    obtain ⟨own, hs, -⟩ := role_eq_waits.mp hrole
    exact ⟨t, joined_of_roles hrole, waits_iff.mpr ⟨own, _, hs⟩, hr.ticket_of_served hrole⟩

theorem Recorded.ticket_inj {k : Int} (hk : 0 ≤ k) (hs : s ∈ joined u c) (hm : t ∈ joined u c)
    (hticket : record.tickets s = some k) (hticket' : record.tickets t = some k) : s = t := by
  have hb := h.batched c hc
  by_cases he : k = u.shared.cur c
  · subst he
    rw [hr.front_iff_ticket h hc ht hs hk] at hticket
    rw [hr.front_iff_ticket h hc ht hm hk, hticket] at hticket'
    exact Option.some.inj hticket'
  · obtain ⟨mine, hrole, rfl⟩ := hr.served_of_ticket h ht hs hticket hk he
    obtain ⟨mine', hrole', hmine⟩ := hr.served_of_ticket h ht hm hticket' hk he
    obtain rfl := Int32.toInt_inj.mp hmine
    have hopen : q.front c ≠ none := fun hfront => (hb.closed hfront).2.2 s _ hrole
    exact (hb.opened hopen).2.2.2.inj s t _ hrole hrole'

theorem Recorded.ticket_neg (hfront : q.front c = none) (hm : t ∈ joined u c) {k : Int}
    (hk : record.tickets t = some k) : k < 0 := by
  have hb := h.batched c hc
  by_contra hneg
  obtain ⟨hat, -⟩ | ⟨mine, hrole, -⟩ := hr.role_of_ticket h ht hm hk (by omega)
  · cases hfront.symm.trans ((hb.front_iff t).mpr hat)
  · exact (hb.closed hfront).2.2 t mine hrole

theorem Recorded.accounts : Accounts u.shared.batch.toInt u record c := by
  have hb := h.batched c hc
  have hpos := h.batch_pos
  have hcur : u.shared.cur c = u.shared.batch.toInt + 1 ∨
      0 ≤ u.shared.cur c ∧ u.shared.cur c ≤ u.shared.batch.toInt := by
    by_cases hfront : q.front c = none
    · exact .inl (hb.closed hfront).1
    · have := hb.opened hfront
      exact .inr ⟨this.1, this.2.1⟩
  have hzero : 0 ≤ u.shared.cur c := by omega
  have hcount := hr.count_outstanding h hc
  exact {
    nxt_ge := h.nxt_ge hc
    nxt_le := h.nxt_le hc
    cur_cases := hcur
    late_iff := hr.late_iff h hc
    late_unique := by
      intro s hs t ht hclose hclose'
      rw [h.awaitsClose_iff hc hs] at hclose
      rw [h.awaitsClose_iff hc ht, hclose] at hclose'
      exact Option.some.inj hclose'
    closed := by
      intro hidle
      have hfront : q.front c = none := by
        by_contra hne
        have := (h.cur_le_iff hc).mpr hne
        omega
      refine ⟨(hb.closed hfront).2.1, fun t hm k hk => hr.ticket_neg h hc ht hfront hm hk, ?_⟩
      rw [hcount, if_neg (by omega)]
    opened := by
      intro hle
      refine ⟨by rw [hcount, if_pos hle], ?_⟩
      obtain ⟨t, hfront⟩ := Option.ne_none_iff_exists'.mp ((h.cur_le_iff hc).mp hle)
      have hat := (hb.front_iff t).mp hfront
      exact ⟨t, joined_of_atFront hat, hr.ticket_of_atFront h ht hat, fronts_of_atFront hat,
        fun s hm hticket => hr.ticket_inj h hc ht hzero hm (joined_of_atFront hat) hticket
          (hr.ticket_of_atFront h ht hat)⟩
    waiting_iff := fun hle k hk hne => hr.waiting_iff h hc ht hle hk hne
    waiting_unique := fun k hk s hs t hm => hr.ticket_inj h hc ht hk hs hm }

end Accounts

theorem length_clusters_run {config : Config} (hv : config.Valid) (n : Nat)
    (schedule : Schedule n) :
    ((opening clusterTicket config n).run clusterTicket schedule).1.shared.clusters.length =
      config.topology.numClusters := by
  have hsystem : ((opening clusterTicket config n).run clusterTicket schedule).1.system =
      ((System.init n (create config)).run clusterTicket.protocol schedule).1 :=
    congrArg Prod.fst (run_eq clusterTicket (opening clusterTicket config n) schedule)
  have hbounded := ((sound_create hv n).run (robust hv) schedule).1.shared
  rw [Usage.shared, hsystem, hbounded.length_eq]

/-- After every proper schedule the counters of each cluster account for its threads, and the record
tells of each ticket of the global lock that was drawn. -/
theorem cluster_counters_run {config : Config} {schedule : Schedule n} (hn : n < 0x80000000)
    (hv : config.Valid) (hp : (opening clusterTicket config n).Proper clusterTicket schedule) :
    let after := ((opening clusterTicket config n).run clusterTicket schedule).1
    let record := Record.blank.run (opening clusterTicket config n) schedule
    after.shared.global.tail = .ofNat record.globals.length ∧
      ∀ c < config.topology.numClusters, Accounts config.batchSize after record c := by
  intro after record
  obtain ⟨q, h, ht, hr⟩ := (Recorded.opening config n).run (ordered_opening hv n)
    (tallied_opening config n) hn hp
  obtain ⟨-, -, -, hbatch⟩ := tallied_run hn hv hp
  refine ⟨hr.tail_eq, fun c hc => ?_⟩
  rw [← hbatch]
  exact hr.accounts h ((length_clusters_run hv n schedule).symm ▸ hc) ht

/-- The first thread holds the lock with the one ticket above that of the second. The third waits
for the batch to be closed, and the fourth for the next. -/
theorem cluster_counters_late :
    let schedule : Schedule 4 :=
      [(0, .join ⟨.pair, 0⟩), (1, .join ⟨.pair, 0⟩), (2, .join ⟨.pair, 0⟩), (3, .join ⟨.pair, 0⟩),
        (0, .start .acquire), (1, .start .acquire), (2, .start .acquire), (3, .start .acquire)]
    let after := ((opening clusterTicket .pair 4).run clusterTicket schedule).1
    let record := Record.blank.run (opening clusterTicket .pair 4) schedule
    4 < 0x80000000 ∧ Config.pair.Valid ∧
      (opening clusterTicket .pair 4).Proper clusterTicket schedule ∧
      after.shared.nxt 0 = -2 ∧ after.shared.cur 0 = 1 ∧ after.shared.cur 1 = 2 ∧
      List.ofFn record.tickets = [some 1, some 0, some (-1), some (-2)] ∧
      record.globals = [some 0] ∧ Accounts Config.pair.batchSize after record 0 := by
  intro schedule after record
  have hp : (opening clusterTicket .pair 4).Proper clusterTicket schedule := by decide
  have haccounts := (cluster_counters_run (by decide) Config.valid_pair hp).2 0 (by decide)
  exact ⟨by decide, Config.valid_pair, hp, by decide, by decide, by decide, by decide, by decide,
    haccounts⟩

end SpinLocks.ClusterTicket
