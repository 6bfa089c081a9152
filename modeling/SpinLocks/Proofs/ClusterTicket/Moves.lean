import Mathlib.Logic.Relation
import SpinLocks.Proofs.ClusterTicket.Lines

namespace SpinLocks.ClusterTicket

open Usage

variable {n : Nat}

def Asks (u : Threads n) (t : Fin n) (own own' : Own) : Prop :=
  u.holds t = false ∧
    (u.seat t = .idle own ∧ own' = { own with acquires := own.acquires + 1 } ∨
      u.seat t = .waiting own .opened ∧ own' = own)

def Own.granted (own : Own) : Wait → Own
  | .called => own.count
  | _ => own

theorem Own.cluster_granted (own : Own) (point : Wait) :
    (own.granted point).cluster = own.cluster := by
  cases point <;> rfl

def Own.attempted (own : Own) (ticket : UInt32) : Own :=
  { own with
    global := { own.global with ticket }
    viaTry := true
    acquires := own.acquires + 1
    globalAcquires := own.globalAcquires + 1 }

/-- A move of a thread on its way to the lock. -/
inductive Advance (t : Fin n) : Threads n × Order n → Threads n × Order n → Prop
  | ask {u u' : Threads n} {q q' : Order n} {own own' : Own} {point : Wait} {late : List (Fin n)}
      (ha : Asks u t own own') (hpoint : point ≠ .called)
      (hu : u' = u.put t (u.shared.lower own.cluster) (.waiting own' point) false)
      (hq : q' = q.setLate own.cluster late) (h' : Ordered u' q') : Advance t (u, q) (u', q')
  | openBatch {u u' : Threads n} {q q' : Order n} {own : Own}
      (hs : u.seat t = .waiting own .closed) (hfront : q.front own.cluster = none)
      (hu : u' = u.put t (u.shared.openBatch own.cluster)
        (.waiting (own.draw u.shared.global) .called) false)
      (hq : q' = q.enqueue own.cluster t) (h' : Ordered u' q') : Advance t (u, q) (u', q')
  | grant {u u' : Threads n} {q : Order n} {own : Own} {point : Wait}
      (hs : u.seat t = .waiting own point) (hfront : q.front own.cluster = some t)
      (hl : q.Leads own.cluster) (hu : u' = u.put t u.shared (.idle (own.granted point)) true)
      (h' : Ordered u' q) : Advance t (u, q) (u', q)

abbrev Advances (t : Fin n) : Threads n × Order n → Threads n × Order n → Prop :=
  Relation.ReflTransGen (Advance t)

/-- What a step of a thread comes to, with its answer. -/
inductive Change (t : Fin n) :
    Threads n × Order n → Answer Reply → Threads n × Order n → Prop
  | advance {p p' : Threads n × Order n} {answer : Answer Reply} (ha : Advances t p p')
      (hleft : answer ≠ .left) (htook : answer ≠ .done (.took true)) : Change t p answer p'
  | join {u u' : Threads n} {q : Order n} {own : Own} (hs : u.seat t = .vacant)
      (hown : own.acquires = 0 ∧ own.globalAcquires = 0 ∧ own.earlyCloses = 0)
      (hu : u' = u.put t u.shared (.idle own) false) (h' : Ordered u' q) :
      Change t (u, q) .joined (u', q)
  | leave {u u' : Threads n} {q : Order n} {own : Own} (hs : u.seat t = .idle own)
      (hf : u.holds t = false) (hu : u' = u.put t u.shared .vacant false) (h' : Ordered u' q) :
      Change t (u, q) .left (u', q)
  | attempt {u u' : Threads n} {q q' : Order n} {own : Own} (hs : u.seat t = .idle own)
      (hf : u.holds t = false) (hfree : q.Free)
      (hu : u' = u.put t (u.shared.setGlobal u.shared.global.draw)
        (.idle (own.attempted u.shared.global.tail)) true)
      (hq : q' = q.setSingle (some t)) (h' : Ordered u' q') :
      Change t (u, q) (.done (.took true)) (u', q')
  | letGo {u u' : Threads n} {q q' : Order n} {own : Own} (hs : u.seat t = .idle own)
      (hv : own.viaTry = true)
      (hu : u' = u.put t (u.shared.setGlobal u.shared.global.call)
        (.idle { own with viaTry := false }) false)
      (hq : q' = q.setSingle none) (h' : Ordered u' q') :
      Change t (u, q) (.done .done) (u', q')
  | close {u u' : Threads n} {q q' : Order n} {own : Own} (hs : u.seat t = .idle own)
      (hh : u.holds t = true) (hv : own.viaTry = false)
      (hu : u' = u.put t (u.shared.closeBatch own.cluster (u.shared.rest own.cluster))
        (.idle (own.closed (u.shared.cur own.cluster ≠ 0))) false)
      (hq : q' = q.dequeue own.cluster) (h' : Ordered u' q') :
      Change t (u, q) (.done .done) (u', q')
  | pass {u u' : Threads n} {q q' : Order n} {own : Own} {s : Fin n} (hs : u.seat t = .idle own)
      (hh : u.holds t = true) (hv : own.viaTry = false) (hpos : 0 < u.shared.cur own.cluster)
      (hu : u' = u.put t (u.shared.pass own.cluster) (.idle own) false)
      (hq : q' = q.setFront own.cluster (some s)) (h' : Ordered u' q') :
      Change t (u, q) (.done .done) (u', q')

variable {u u' : Threads n} {q q' : Order n} {t : Fin n} {own own' : Own} {answer : Answer Reply}

theorem Ordered.advances {p p' : Threads n × Order n} (h : Ordered p.1 p.2)
    (ha : Advances t p p') : Ordered p'.1 p'.2 := by
  induction ha with
  | refl => exact h
  | tail _ ha ih =>
    cases ha with
    | ask _ _ _ _ h' | openBatch _ _ _ _ h' | grant _ _ _ _ h' => exact h'

/-- What each move preserves that a thread makes on its way to the lock, all of them do. -/
theorem Advances.induction {P : Threads n → Order n → Prop}
    (hstep : ∀ u q u' q', Ordered u q → P u q → Advance t (u, q) (u', q') → P u' q')
    {p p' : Threads n × Order n} (ha : Advances t p p') (h : Ordered p.1 p.2) (hp : P p.1 p.2) :
    P p'.1 p'.2 := by
  induction ha with
  | refl => exact hp
  | tail hfirst ha ih => exact hstep _ _ _ _ (h.advances hfirst) ih ha

theorem Ordered.change (h : Ordered u q) (hc : Change t (u, q) answer (u', q')) :
    Ordered u' q' := by
  cases hc with
  | advance ha => exact h.advances ha
  | join _ _ _ h' | leave _ _ _ h' | attempt _ _ _ _ _ h' | letGo _ _ _ _ h'
  | close _ _ _ _ _ h' | pass _ _ _ _ _ _ h' => exact h'

theorem Advance.batch_eq (ha : Advance t (u, q) (u', q')) : u'.shared.batch = u.shared.batch := by
  cases ha with
  | ask _ _ hu _ _ | grant _ _ _ hu _ =>
    subst hu
    rfl
  | openBatch _ _ hu _ _ =>
    subst hu
    exact batch_openBatch

theorem Change.batch_eq (ho : Ordered u q) (hc : Change t (u, q) answer (u', q')) :
    u'.shared.batch = u.shared.batch := by
  cases hc with
  | advance ha _ _ =>
    exact ha.induction (P := fun u' _ => u'.shared.batch = u.shared.batch)
      (fun _ _ _ _ _ h ha => ha.batch_eq.trans h) ho rfl
  | join _ _ hu _ | leave _ _ hu _ | pass _ _ _ _ hu _ _ =>
    subst hu
    rfl
  | attempt _ _ _ hu _ _ | letGo _ _ hu _ _ =>
    subst hu
    exact batch_setGlobal _
  | close _ _ _ hu _ _ =>
    subst hu
    exact batch_closeBatch _

theorem Ordered.draws (h : Ordered u q) (ha : Asks u t own own') : Draws u t own own' := by
  obtain ⟨hf, ⟨hs, rfl⟩ | ⟨hs, rfl⟩⟩ := ha
  · have ho := own?_of_idle hs
    have hv := h.viaTry_of_not_holds ho hf
    exact ⟨rfl, hv, ho, hf, .inl hs⟩
  · have ho := own?_of_waiting hs
    have hv := h.viaTry_of_not_holds ho hf
    exact ⟨rfl, hv, ho, hf, .inr hs⟩

end SpinLocks.ClusterTicket
