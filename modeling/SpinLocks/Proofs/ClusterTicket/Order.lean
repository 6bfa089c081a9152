import Mathlib.Data.Fintype.Card
import Mathlib.Data.List.Perm.Subperm
import SpinLocks.Proofs.ClusterTicket.Batch

namespace SpinLocks.ClusterTicket

open Usage

variable {n : Nat}

def role (seat : Seat Own Wait) (holds : Bool) (c : Nat) : Option Role :=
  match seat with
  | .vacant => none
  | .idle own =>
    if holds = true ∧ own.cluster = c ∧ own.viaTry = false then some .holds else none
  | .waiting own point => if own.cluster = c then some (.waits point) else none

def roles (u : Threads n) (c : Nat) (t : Fin n) : Option Role :=
  role (u.seat t) (u.holds t) c

abbrev Batched (u : Threads n) (c : Nat) (front : Option (Fin n)) (late : List (Fin n)) : Prop :=
  Batch u.shared.batch.toInt (u.shared.cur c) (u.shared.nxt c) (roles u c) front late

section Roles

variable {u : Threads n} {t : Fin n} {own : Own} {point : Wait} {c d : Nat}
  {seat : Seat Own Wait} {holds : Bool} {front : Option (Fin n)} {late : List (Fin n)}

theorem role_waiting (hc : own.cluster = c) :
    role (.waiting own point) holds c = some (.waits point) :=
  if_pos hc

theorem role_holder (hc : own.cluster = c) (hv : own.viaTry = false) :
    role (.idle own) true c = some .holds :=
  if_pos ⟨rfl, hc, hv⟩

theorem role_vacant : role .vacant holds c = none := rfl

theorem role_idle : role (.idle own) false c = none := by
  simp [role]

theorem role_viaTry (hv : own.viaTry = true) : role (.idle own) holds c = none := by
  simp [role, hv]

theorem role_of_ne (hd : d ≠ c) (ho : ∀ own, seat.own? = some own → own.cluster = c) :
    role seat holds d = none := by
  cases seat with
  | vacant => rfl
  | idle own => simp [role, ho own rfl, Ne.symm hd]
  | waiting own point => simp [role, ho own rfl, Ne.symm hd]

theorem role_eq_holds : role seat holds c = some .holds ↔
    ∃ own, seat = .idle own ∧ holds = true ∧ own.cluster = c ∧ own.viaTry = false := by
  cases seat <;> simp [role]

theorem role_eq_waits : role seat holds c = some (.waits point) ↔
    ∃ own, seat = .waiting own point ∧ own.cluster = c := by
  cases seat <;> simp [role, and_comm]

theorem roles_put (shared : Shared) (seat : Seat Own Wait) (holds : Bool) :
    roles (u.put t shared seat holds) c = Function.update (roles u c) t (role seat holds c) := by
  funext s
  rw [Function.update_apply, roles, seat_put, holds_put]
  split <;> rfl

theorem roles_put_of_ne {own' : Own} (ho : u.own? t = some own) (hseat : seat.own? = some own')
    (hc : own'.cluster = own.cluster) (hd : d ≠ own.cluster) (shared : Shared) (holds : Bool) :
    roles (u.put t shared seat holds) d = roles u d := by
  have hbefore : roles u d t = none :=
    role_of_ne hd fun own₁ h₁ => by rw [Option.some.inj (ho.symm.trans h₁)]
  have hafter : role seat holds d = none :=
    role_of_ne hd fun own₁ h₁ => by rw [← hc, Option.some.inj (hseat.symm.trans h₁)]
  rw [roles_put, hafter, ← hbefore, Function.update_eq_self]

theorem Batch.put {cur nxt : Int} {r : Option Role} {shared : Shared}
    (h : Batch u.shared.batch.toInt cur nxt (Function.update (roles u c) t r) front late)
    (hr : role seat holds c = r) (hcur : shared.cur c = cur) (hnxt : shared.nxt c = nxt)
    (hbatch : shared.batch = u.shared.batch) :
    Batched (u.put t shared seat holds) c front late := by
  simp only [Batched, shared_put, roles_put]
  rwa [hr, hcur, hnxt, hbatch]

/-- A move that leaves the roles in a cluster and its counters as they are does not matter to it. -/
theorem Batched.frame (h : Batched u c front late) {shared : Shared}
    (hr : roles (u.put t shared seat holds) c = roles u c)
    (hc : shared.counters c = u.shared.counters c) (hbatch : shared.batch = u.shared.batch) :
    Batched (u.put t shared seat holds) c front late := by
  have hcur : shared.cur c = u.shared.cur c := congrArg (·.cur.toInt) hc
  have hnxt : shared.nxt c = u.shared.nxt c := congrArg (·.nxt.toInt) hc
  simp only [Batched, shared_put]
  rwa [hr, hcur, hnxt, hbatch]

theorem roles_put_of_none (hb : roles u c t = none) (ha : role seat holds c = none)
    (shared : Shared) : roles (u.put t shared seat holds) c = roles u c := by
  rw [roles_put, ha, ← hb, Function.update_eq_self]

end Roles

/-- The clusters with an open batch, in the order of their global tickets, and in each cluster who
stands in front of the batch, and who found no ticket left. -/
structure Order (n : Nat) where
  single : Option (Fin n)
  line : List Nat
  front : Nat → Option (Fin n)
  late : Nat → List (Fin n)

namespace Order

def before (q : Order n) : Nat :=
  if q.single.isSome then 1 else 0

def Free (q : Order n) : Prop :=
  q.single = none ∧ q.line = []

/-- The batch of the cluster is called, and the lock was not taken in a single attempt. -/
def Leads (q : Order n) (c : Nat) : Prop :=
  q.single = none ∧ q.line.head? = some c

def setSingle (q : Order n) (single : Option (Fin n)) : Order n :=
  { q with single }

def setLate (q : Order n) (c : Nat) (late : List (Fin n)) : Order n :=
  { q with late := Function.update q.late c late }

def setFront (q : Order n) (c : Nat) (front : Option (Fin n)) : Order n :=
  { q with front := Function.update q.front c front }

def enqueue (q : Order n) (c : Nat) (t : Fin n) : Order n :=
  { (q.setFront c (some t)).setLate c [] with line := q.line ++ [c] }

def dequeue (q : Order n) (c : Nat) : Order n :=
  { q.setFront c none with line := q.line.tail }

variable (q : Order n) (c d : Nat) (t : Fin n)

theorem front_setFront (front : Option (Fin n)) :
    (q.setFront c front).front d = if d = c then front else q.front d :=
  Function.update_apply ..

theorem front_enqueue : (q.enqueue c t).front d = if d = c then some t else q.front d :=
  Function.update_apply ..

theorem front_dequeue : (q.dequeue c).front d = if d = c then none else q.front d :=
  Function.update_apply ..

theorem line_setFront (front : Option (Fin n)) : (q.setFront c front).line = q.line := rfl

theorem line_enqueue : (q.enqueue c t).line = q.line ++ [c] := rfl

theorem line_dequeue : (q.dequeue c).line = q.line.tail := rfl

theorem single_enqueue : (q.enqueue c t).single = q.single := rfl

theorem before_enqueue : (q.enqueue c t).before = q.before := rfl

theorem before_dequeue : (q.dequeue c).before = q.before := rfl

theorem before_le : q.before ≤ 1 := by
  unfold before
  split <;> omega

variable {q c d t}

namespace Leads

theorem before_eq (h : q.Leads c) : q.before = 0 := by
  simp [before, h.1]

theorem exists_line (h : q.Leads c) : ∃ rest, q.line = c :: rest :=
  List.head?_eq_some_iff.mp h.2

theorem unique (hc : q.Leads c) (hd : q.Leads d) : c = d :=
  Option.some.inj (hc.2.symm.trans hd.2)

theorem not_single (hc : q.Leads c) : q.single ≠ some t := by
  simp [hc.1]

end Leads

end Order

/-- What holds of each thread by itself, where `single` took the lock in a single attempt. -/
structure Placed (u : Threads n) (single : Option (Fin n)) : Prop where
  batch_pos : 0 < u.shared.batch.toInt
  batch_lt : u.shared.batch.toInt < 0x7fffffff
  clusters_pos : 0 < u.shared.clusters.length
  clusters_le : u.shared.clusters.length ≤ 254
  cluster_lt : ∀ t own, u.own? t = some own → own.cluster < u.shared.clusters.length
  holder_idle : ∀ t, u.holds t = true → ∃ own, u.seat t = .idle own
  viaTry_iff : ∀ t own, u.own? t = some own → (own.viaTry = true ↔ single = some t)
  single_holds : ∀ t, single = some t → u.holds t = true

/-- The global tickets that are drawn and not done with are those of the line, after that of a
single attempt. Where the thread in front of a batch does not wait for the ticket, it has been
called. -/
structure Ordered (u : Threads n) (q : Order n) : Prop extends Placed u q.single where
  word : u.shared.global.tail = u.shared.global.head + .ofNat (q.before + q.line.length)
  line_nodup : q.line.Nodup
  mem_line : ∀ c, c ∈ q.line ↔ c < u.shared.clusters.length ∧ q.front c ≠ none
  batched : ∀ c < u.shared.clusters.length, Batched u c (q.front c) (q.late c)
  ticket : ∀ t own, u.seat t = .waiting own .called → ∃ j, q.line[j]? = some own.cluster ∧
    own.global.ticket = u.shared.global.head + .ofNat (q.before + j)
  leading : ∀ c < u.shared.clusters.length, ∀ t, q.front c = some t →
    roles u c t ≠ some (.waits .called) → q.Leads c

variable {u : Threads n} {q : Order n} {t : Fin n} {own own' : Own} {c : Nat}

theorem Placed.put {single single' : Option (Fin n)} {shared : Shared} {seat : Seat Own Wait}
    {holds : Bool} (h : Placed u single) (hbatch : shared.batch = u.shared.batch)
    (hlength : shared.clusters.length = u.shared.clusters.length)
    (hown : ∀ own, seat.own? = some own →
      own.cluster < u.shared.clusters.length ∧ (own.viaTry = true ↔ single' = some t))
    (hidle : holds = true → ∃ own, seat = .idle own) (hholds : single' = some t → holds = true)
    (hsingle : ∀ s, s ≠ t → (single' = some s ↔ single = some s)) :
    Placed (u.put t shared seat holds) single' where
  batch_pos := by simpa [hbatch] using h.batch_pos
  batch_lt := by simpa [hbatch] using h.batch_lt
  clusters_pos := by simpa [hlength] using h.clusters_pos
  clusters_le := by simpa [hlength] using h.clusters_le
  cluster_lt := by
    intro s own hs
    rw [own?_put] at hs
    simp only [shared_put, hlength]
    split at hs
    · exact (hown own hs).1
    · exact h.cluster_lt s own hs
  holder_idle := holder_idle_put h.holder_idle hidle
  viaTry_iff := by
    intro s own hs
    rw [own?_put] at hs
    split at hs
    · next he => exact he ▸ (hown own hs).2
    · next hst => rw [hsingle s hst, h.viaTry_iff s own hs]
  single_holds := by
    intro s hs
    rw [holds_put]
    split
    · next he => exact hholds (he ▸ hs)
    · next hst => exact h.single_holds s ((hsingle s hst).mp hs)

theorem ofNat_inj {i j : Nat} {head : UInt32} (hi : i ≤ 255) (hj : j ≤ 255)
    (h : head + .ofNat i = head + .ofNat j) : i = j :=
  Ticket.number_inj (Nat.lt_of_le_of_lt hi (by decide)) (Nat.lt_of_le_of_lt hj (by decide)) h

theorem ofNat_succ (head : UInt32) (k : Nat) : head + .ofNat k + 1 = head + .ofNat (k + 1) :=
  (Ticket.number_succ head k).symm

theorem ofNat_add_succ (head : UInt32) (k : Nat) :
    head + 1 + .ofNat k = head + .ofNat (k + 1) := by
  rw [← ofNat_succ, UInt32.add_assoc, UInt32.add_comm 1, ← UInt32.add_assoc]

theorem Ordered.line_length_le (h : Ordered u q) : q.line.length ≤ 254 := by
  have hsub : q.line ⊆ List.range u.shared.clusters.length := by
    intro c hc
    exact List.mem_range.mpr ((h.mem_line c).mp hc).1
  have hle := (h.line_nodup.subperm hsub).length_le
  rw [List.length_range] at hle
  exact Nat.le_trans hle h.clusters_le

theorem Ordered.isFree_iff (h : Ordered u q) : u.shared.isFree = true ↔ q.Free := by
  have hlen := h.line_length_le
  have hle := q.before_le
  rw [Shared.isFree, Ticket.Word.isFree_iff, h.word]
  constructor
  · intro he
    have hzero : u.shared.global.head + .ofNat 0 =
        u.shared.global.head + .ofNat (q.before + q.line.length) := by
      simpa using he
    have hzero := ofNat_inj (by omega) (by omega) hzero
    refine ⟨?_, List.eq_nil_of_length_eq_zero (by omega)⟩
    by_contra hs
    simp [Order.before, Option.isSome_iff_ne_none.mpr hs] at hzero
    omega
  · rintro ⟨hs, hl⟩
    simp [Order.before, hs, hl]

theorem Ordered.batched_put (h : Ordered u q) {front : Option (Fin n)} {late : List (Fin n)}
    {shared : Shared} {seat : Seat Own Wait} {holds : Bool}
    (hb : Batched (u.put t shared seat holds) own.cluster front late) (ho : u.own? t = some own)
    (hseat : seat.own? = some own') (hc : own'.cluster = own.cluster)
    (hcounters : ∀ d, d ≠ own.cluster → shared.counters d = u.shared.counters d)
    (hbatch : shared.batch = u.shared.batch) :
    ∀ d < u.shared.clusters.length, Batched (u.put t shared seat holds) d
      (Function.update q.front own.cluster front d)
      (Function.update q.late own.cluster late d) := by
  intro d hd
  rw [Function.update_apply, Function.update_apply]
  split
  · next he => exact he ▸ hb
  · next hne =>
    exact (h.batched d hd).frame (roles_put_of_ne ho hseat hc hne _ _) (hcounters d hne) hbatch

theorem Ordered.front_ne (h : Ordered u q) (hc : c < u.shared.clusters.length)
    (hr : roles u c t = none ∨ roles u c t = some (.waits .opened)) : q.front c ≠ some t := by
  intro he
  have ha := ((h.batched c hc).front_iff t).mp he
  obtain hr | hr := hr <;> simp [hr, AtFront] at ha

theorem Ordered.ticket_put (h : Ordered u q) {shared : Shared} {seat : Seat Own Wait}
    {holds : Bool} (hseat : ∀ own, seat ≠ .waiting own .called)
    (hglobal : shared.global = u.shared.global) (s : Fin n) (own : Own)
    (hs : (u.put t shared seat holds).seat s = .waiting own .called) :
    ∃ j, q.line[j]? = some own.cluster ∧
      own.global.ticket = shared.global.head + .ofNat (q.before + j) := by
  rw [seat_put] at hs
  split at hs
  · exact absurd hs (hseat own)
  · rw [hglobal]
    exact h.ticket s own hs

theorem Ordered.frame (h : Ordered u q) {seat : Seat Own Wait} (hb : ∀ c, roles u c t = none)
    (hf : u.holds t = false) (ha : ∀ c, role seat false c = none)
    (hown : ∀ own, seat.own? = some own →
      own.cluster < u.shared.clusters.length ∧ own.viaTry = false) :
    Ordered (u.put t u.shared seat false) q := by
  have hsingle : q.single ≠ some t := fun he => by simp [h.single_holds t he] at hf
  have hseat : ∀ own, seat ≠ .waiting own .called := by
    rintro own rfl
    cases (ha own.cluster).symm.trans (role_waiting rfl)
  have hplaced : Placed (u.put t u.shared seat false) q.single :=
    h.toPlaced.put rfl rfl
      (fun own ho => ⟨(hown own ho).1, by simp [(hown own ho).2, hsingle]⟩) (by simp)
      (fun he => absurd he hsingle) fun _ _ => Iff.rfl
  exact {
    hplaced with
    word := h.word
    line_nodup := h.line_nodup
    mem_line := h.mem_line
    batched := fun c hc =>
      (h.batched c hc).frame (roles_put_of_none (hb c) (ha c) _) rfl rfl
    ticket := h.ticket_put hseat rfl
    leading := by
      intro c hc s hs hr
      rw [roles_put_of_none (hb c) (ha c)] at hr
      exact h.leading c hc s hs hr }

end SpinLocks.ClusterTicket
