import Mathlib.Data.Set.Insert
import SpinLocks.Proofs.Mcs.Queue

namespace SpinLocks.Mcs

open Shared Usage

variable {n : Nat}

namespace Shared

def next? (shared : Shared) (k : Nat) : Option Link :=
  (shared.nodes.node? k).map Node.next

def waiting? (shared : Shared) (k : Nat) : Option Bool :=
  (shared.nodes.node? k).map Node.waiting

/-- The states differ at most in the links of nodes that are not of the first kind, and in the flags
of nodes that are not of the second. -/
structure Agree (linked flagged : Set Nat) (shared shared' : Shared) : Prop where
  tail_eq : shared'.tail = shared.tail
  claims_eq : shared'.nodes.claims = shared.nodes.claims
  next_eq : ∀ k ∈ linked, shared'.next? k = shared.next? k
  waiting_eq : ∀ k ∈ flagged, shared'.waiting? k = shared.waiting? k

namespace Agree

variable {linked flagged linked' flagged' : Set Nat} {shared shared' : Shared} {k : Nat}
  {f : Node → Node}

theorem of_modify
    (hnext : k ∈ linked → ∀ node, shared.nodes.node? k = some node → (f node).next = node.next)
    (hwaiting : k ∈ flagged → ∀ node, shared.nodes.node? k = some node →
      (f node).waiting = node.waiting) :
    Agree linked flagged shared { shared with nodes := shared.nodes.modify k f } where
  tail_eq := rfl
  claims_eq := Arena.claims_modify ..
  next_eq := by
    intro j hj
    simp only [next?, Arena.node?_modify]
    split
    · next hjk =>
      subst hjk
      cases hn : shared.nodes.node? k with
      | none => rfl
      | some node => exact congrArg some (hnext hj node hn)
    · rfl
  waiting_eq := by
    intro j hj
    simp only [waiting?, Arena.node?_modify]
    split
    · next hjk =>
      subst hjk
      cases hn : shared.nodes.node? k with
      | none => rfl
      | some node => exact congrArg some (hwaiting hj node hn)
    · rfl

section Agreement

variable (h : Agree linked flagged shared shared')
include h

theorem mono (hl : linked' ⊆ linked) (hf : flagged' ⊆ flagged) :
    Agree linked' flagged' shared shared' :=
  ⟨h.tail_eq, h.claims_eq, fun k hk => h.next_eq k (hl hk), fun k hk => h.waiting_eq k (hf hk)⟩

theorem size_eq : shared'.nodes.size = shared.nodes.size := by
  rw [← Arena.length_claims, h.claims_eq, Arena.length_claims]

theorem node_cases (k : Nat) :
    (∃ node node', shared.nodes.node? k = some node ∧ shared'.nodes.node? k = some node' ∧
        (k ∈ linked → node'.next = node.next) ∧ (k ∈ flagged → node'.waiting = node.waiting)) ∨
      shared.nodes.node? k = none ∧ shared'.nodes.node? k = none := by
  by_cases hk : k < shared.nodes.size
  · obtain ⟨node, hn⟩ := Arena.exists_node? hk
    obtain ⟨node', hn'⟩ := Arena.exists_node? (h.size_eq ▸ hk)
    refine .inl ⟨node, node', hn, hn', fun hk => ?_, fun hk => ?_⟩
    · simpa [next?, hn, hn'] using h.next_eq k hk
    · simpa [waiting?, hn, hn'] using h.waiting_eq k hk
  · refine .inr ⟨Arena.node?_eq_none_iff.mpr (by omega), Arena.node?_eq_none_iff.mpr ?_⟩
    rw [h.size_eq]
    omega

theorem load_cases (k : Nat) :
    (∃ node node', shared.nodes.load k = .ok node ∧ shared'.nodes.load k = .ok node' ∧
        (k ∈ linked → node'.next = node.next) ∧ (k ∈ flagged → node'.waiting = node.waiting)) ∨
      ∃ cause, shared.nodes.load k = .error cause ∧ shared'.nodes.load k = .error cause := by
  obtain ⟨node, node', hn, hn', he⟩ | ⟨hn, hn'⟩ := h.node_cases k
  · exact .inl ⟨node, node', Arena.load_eq_ok_iff.mpr hn, Arena.load_eq_ok_iff.mpr hn', he⟩
  · have hc : shared.nodes.cells[k]? = none := Option.map_eq_none_iff.mp hn
    have hc' : shared'.nodes.cells[k]? = none := Option.map_eq_none_iff.mp hn'
    exact .inr ⟨.outOfBounds shared.nodes.size k, by simp [Arena.load, hc],
      by simp [Arena.load, hc', h.size_eq]⟩

theorem update_cases (k : Nat) (f : Node → Node) :
    (shared.nodes.update k f = .ok (shared.nodes.modify k f) ∧
        shared'.nodes.update k f = .ok (shared'.nodes.modify k f)) ∨
      ∃ cause, shared.nodes.update k f = .error cause ∧ shared'.nodes.update k f = .error cause ∧
        Agree (insert k linked) (insert k flagged) shared shared' := by
  unfold Arena.update
  rw [h.size_eq]
  by_cases hk : k < shared.nodes.size
  · exact .inl ⟨if_pos hk, if_pos hk⟩
  · have hn : shared.nodes.node? k = none := Arena.node?_eq_none_iff.mpr (Nat.not_lt.mp hk)
    have hn' : shared'.nodes.node? k = none := by
      rw [Arena.node?_eq_none_iff, h.size_eq]
      exact Nat.not_lt.mp hk
    refine .inr ⟨_, if_neg hk, if_neg hk, h.tail_eq, h.claims_eq, ?_, ?_⟩
    · rintro j (rfl | hj)
      · simp [next?, hn, hn']
      · exact h.next_eq j hj
    · rintro j (rfl | hj)
      · simp [waiting?, hn, hn']
      · exact h.waiting_eq j hj

theorem modify (hl : ∀ j ∈ linked', j ≠ k → j ∈ linked)
    (hf : ∀ j ∈ flagged', j ≠ k → j ∈ flagged)
    (hnext : k ∈ linked' → ∀ a b : Node, (k ∈ linked → a.next = b.next) → (f a).next = (f b).next)
    (hwaiting : k ∈ flagged' → ∀ a b : Node, (k ∈ flagged → a.waiting = b.waiting) →
      (f a).waiting = (f b).waiting) :
    Agree linked' flagged' { shared with nodes := shared.nodes.modify k f }
      { shared' with nodes := shared'.nodes.modify k f } where
  tail_eq := h.tail_eq
  claims_eq := by simp only [Arena.claims_modify, h.claims_eq]
  next_eq := by
    intro j hj
    simp only [next?, Arena.node?_modify]
    by_cases hjk : k = j
    · subst hjk
      obtain ⟨node, node', hn, hn', he, -⟩ | ⟨hn, hn'⟩ := h.node_cases k
      · simpa [hn, hn'] using hnext hj node' node he
      · simp [hn, hn']
    · simpa [hjk, next?] using h.next_eq j (hl j hj (Ne.symm hjk))
  waiting_eq := by
    intro j hj
    simp only [waiting?, Arena.node?_modify]
    by_cases hjk : k = j
    · subst hjk
      obtain ⟨node, node', hn, hn', -, he⟩ | ⟨hn, hn'⟩ := h.node_cases k
      · simpa [hn, hn'] using hwaiting hj node' node he
      · simp [hn, hn']
    · simpa [hjk, waiting?] using h.waiting_eq j (hf j hj (Ne.symm hjk))

theorem setClaimed (k : Nat) (claimed : Bool) :
    Agree linked flagged { shared with nodes := shared.nodes.setClaimed k claimed }
      { shared' with nodes := shared'.nodes.setClaimed k claimed } where
  tail_eq := h.tail_eq
  claims_eq := by simp only [Arena.claims_setClaimed, h.claims_eq]
  next_eq := by simpa only [next?, Arena.node?_setClaimed] using h.next_eq
  waiting_eq := by simpa only [waiting?, Arena.node?_setClaimed] using h.waiting_eq

theorem prepare (k : Nat) :
    Agree (insert k linked) (insert k flagged) (shared.prepare k) (shared'.prepare k) :=
  h.modify (fun _ hj hne => hj.resolve_left hne) (fun _ hj hne => hj.resolve_left hne)
    (fun _ _ _ _ => rfl) fun _ _ _ _ => rfl

theorem enqueue (k : Nat) :
    Agree (insert k linked) (insert k flagged) (shared.enqueue k) (shared'.enqueue k) :=
  ⟨rfl, (h.prepare k).claims_eq, (h.prepare k).next_eq, (h.prepare k).waiting_eq⟩

theorem link (pred next : Nat) :
    Agree linked flagged (shared.link pred next) (shared'.link pred next) :=
  h.modify (fun _ hj _ => hj) (fun _ hj _ => hj) (fun _ _ _ _ => rfl) fun hk _ _ he => he hk

theorem pass (k : Nat) : Agree linked flagged (shared.pass k) (shared'.pass k) :=
  h.modify (fun _ hj _ => hj) (fun _ hj _ => hj) (fun hk _ _ he => he hk) fun _ _ _ _ => rfl

theorem empty : Agree linked flagged shared.empty shared'.empty :=
  ⟨rfl, h.claims_eq, h.next_eq, h.waiting_eq⟩

end Agreement

end Agree

end Shared

/-- The turns end alike, and the states that they lead to agree also on the node of the thread. -/
structure SameTurn (linked flagged : Set Nat) (own : Own) (turn turn' : LockTurn Shared Own Wait) :
    Prop where
  own_eq : turn.own = own
  own_eq' : turn'.own = own
  ending_eq : turn'.ending = turn.ending
  agree : Agree (insert own.node linked)
    {k | k ∈ flagged ∨ k = own.node ∧ turn.ending = .waiting .grant} turn.shared turn'.shared

namespace SameTurn

variable {linked flagged : Set Nat} {shared shared' : Shared} {own : Own} {command : Command}
  {point : Wait} {ending : Ending Wait Reply}

theorem of_agree (h : Agree (insert own.node linked) (insert own.node flagged) shared shared') :
    SameTurn linked flagged own ⟨shared, own, ending⟩ ⟨shared', own, ending⟩ :=
  ⟨rfl, rfl, rfl, h.mono subset_rfl fun _ hk => hk.elim .inr fun he => .inl he.1⟩

/-- The states agree on the link of the thread already, and it does not come to wait for the lock.
-/
theorem of_linked (h : Agree linked flagged shared shared') (hl : own.node ∈ linked)
    (hending : ending ≠ .waiting .grant) :
    SameTurn linked flagged own ⟨shared, own, ending⟩ ⟨shared', own, ending⟩ :=
  ⟨rfl, rfl, rfl, h.mono (Set.insert_subset hl subset_rfl) fun _ hk =>
    hk.elim id fun he => absurd he.2 hending⟩

theorem awaitGrant (h : Agree (insert own.node linked) (insert own.node flagged) shared shared') :
    SameTurn linked flagged own (awaitGrant shared own) (awaitGrant shared' own) := by
  obtain ⟨node, node', hn, hn', -, he⟩ | ⟨cause, hn, hn'⟩ := h.load_cases own.node
  · simp only [Mcs.awaitGrant, hn, hn', he (Set.mem_insert ..)]
    split <;> exact of_agree h
  · simp only [Mcs.awaitGrant, hn, hn']
    exact of_agree h

theorem acquire (h : Agree linked flagged shared shared') :
    SameTurn linked flagged own (acquire shared own) (acquire shared' own) := by
  unfold Mcs.acquire Arena.store
  obtain ⟨hu, hu'⟩ | ⟨cause, hu, hu', h'⟩ := h.update_cases own.node fun _ => .queued
  · have hqueued := h.enqueue own.node
    have htail := h.tail_eq
    simp only [hu, hu']
    cases hs : shared.tail with
    | none =>
      rw [hs] at htail
      simp only [htail]
      exact of_agree hqueued
    | some pred =>
      rw [hs] at htail
      simp only [htail]
      obtain ⟨hl, hl'⟩ | ⟨cause, hl, hl', -⟩ :=
        hqueued.update_cases pred ({ · with next := some own.node })
      · simp only [enqueue, prepare] at hl hl'
        simp only [hl, hl']
        exact awaitGrant (hqueued.link pred own.node)
      · simp only [enqueue, prepare] at hl hl'
        simp only [hl, hl']
        exact of_agree hqueued
  · simp only [hu, hu']
    exact of_agree h'

theorem tryAcquire (h : Agree linked flagged shared shared') :
    SameTurn linked flagged own (tryAcquire shared own) (tryAcquire shared' own) := by
  unfold Mcs.tryAcquire Arena.store
  obtain ⟨hu, hu'⟩ | ⟨cause, hu, hu', h'⟩ := h.update_cases own.node fun _ => .queued
  · simp only [hu, hu']
    by_cases htail : shared.tail.isNone = true
    · rw [if_pos htail, if_pos (h.tail_eq ▸ htail)]
      exact of_agree (h.enqueue own.node)
    · rw [if_neg htail, if_neg (h.tail_eq ▸ htail)]
      exact of_agree (h.prepare own.node)
  · simp only [hu, hu']
    exact of_agree h'

theorem awaitSuccessor (h : Agree linked flagged shared shared') (hl : own.node ∈ linked) :
    SameTurn linked flagged own (awaitSuccessor shared own) (awaitSuccessor shared' own) := by
  unfold Mcs.awaitSuccessor
  obtain ⟨⟨link, _⟩, ⟨link', _⟩, hn, hn', he, -⟩ | ⟨cause, hn, hn'⟩ := h.load_cases own.node
  · obtain rfl : link' = link := he hl
    simp only [hn, hn']
    cases link' with
    | none => exact of_linked h hl (by simp)
    | some next =>
      unfold grant
      obtain ⟨hu, hu'⟩ | ⟨cause, hu, hu', -⟩ := h.update_cases next ({ · with waiting := false })
      · simp only [hu, hu']
        exact of_linked (h.pass next) hl (by simp)
      · simp only [hu, hu']
        exact of_linked h hl (by simp)
  · simp only [hn, hn']
    exact of_linked h hl (by simp)

theorem release (h : Agree linked flagged shared shared') (hl : own.node ∈ linked) :
    SameTurn linked flagged own (release shared own) (release shared' own) := by
  unfold Mcs.release
  obtain ⟨⟨link, _⟩, ⟨link', _⟩, hn, hn', he, -⟩ | ⟨cause, hn, hn'⟩ := h.load_cases own.node
  · obtain rfl : link' = link := he hl
    simp only [hn, hn']
    cases link' with
    | none =>
      by_cases htail : shared.tail = some own.node
      · simp only [if_pos htail, if_pos (h.tail_eq.trans htail)]
        exact of_linked h.empty hl (by simp)
      · simp only [if_neg htail, if_neg (h.tail_eq ▸ htail)]
        exact awaitSuccessor h hl
    | some next => exact awaitSuccessor h hl
  · simp only [hn, hn']
    exact awaitSuccessor h hl

theorem start (h : Agree linked flagged shared shared') (hc : command ≠ .tryAcquireRead)
    (hl : command.givesBack = true → own.node ∈ linked) :
    SameTurn linked flagged own (start command shared own) (start command shared' own) := by
  cases command with
  | acquire | acquireRead | acquireWrite => exact acquire h
  | release | releaseRead | releaseWrite => exact release h (hl rfl)
  | tryAcquire => exact tryAcquire h
  | tryAcquireRead => exact absurd rfl hc

theorem resume (h : Agree linked flagged shared shared') (hl : own.node ∈ linked)
    (hf : point = .grant → own.node ∈ flagged) :
    SameTurn linked flagged own (resume point shared own) (resume point shared' own) := by
  cases point with
  | grant =>
    exact awaitGrant
      (h.mono (Set.insert_subset hl subset_rfl) (Set.insert_subset (hf rfl) subset_rfl))
  | successor => exact awaitSuccessor h hl

end SameTurn

def linked (u : Threads n) : Set Nat :=
  {k | ∃ t, u.Engaged t ∧ nodeOf u t = some k}

def flagged (u : Threads n) : Set Nat :=
  {k | ∃ t own, u.seat t = .waiting own .grant ∧ own.node = k}

/-- The threads stand alike, and the states agree on all that the threads will read of their nodes.
-/
structure Alike (u u' : Threads n) : Prop where
  seat_eq : ∀ t, u'.seat t = u.seat t
  holds_eq : u'.holds = u.holds
  vacant : ∀ t, u.seat t = .vacant → u.holds t = false
  agree : Agree (linked u) (flagged u) u.shared u'.shared

section Put

variable {u : Threads n} {t : Fin n} {own : Own} {shared : Shared} {seat : Seat Own Wait}
  {holds : Bool}

/-- Only the node of the thread that moves can come to be one that matters. -/
theorem linked_put :
    linked (u.put t shared seat holds) ⊆ {k | k ∈ linked u ∨
      (holds = true ∨ seat.waits = true) ∧ seat.own?.map Own.node = some k} := by
  rintro k ⟨s, he, hk⟩
  rw [engaged_put] at he
  rw [nodeOf, own?_put] at hk
  split at he
  · next hst =>
    rw [if_pos hst] at hk
    exact .inr ⟨he, hk⟩
  · next hst =>
    rw [if_neg hst] at hk
    exact .inl ⟨s, he, hk⟩

theorem flagged_put :
    flagged (u.put t shared seat holds) ⊆
      {k | k ∈ flagged u ∨ ∃ own, seat = .waiting own .grant ∧ own.node = k} := by
  rintro k ⟨s, own, hs, hk⟩
  rw [seat_put] at hs
  split at hs
  · exact .inr ⟨own, hs, hk⟩
  · exact .inl ⟨s, own, hs, hk⟩

theorem step_tryAcquireRead (hs : u.seat t = .idle own) :
    u.step mcs t (.start .tryAcquireRead) = (u, .refused .noSuchOperation) := by
  have hturn : mcs.start .tryAcquireRead u.shared own =
      ⟨u.shared, own, .failed (.refusal .noSuchOperation)⟩ := rfl
  rw [step_start hs, hturn, settle_failed, ← hs, put_self]
  rfl

end Put

namespace Alike

variable {u u' : Threads n} {t : Fin n} {own : Own} {action : Action Entry Command}

variable (h : Alike u u')
include h

theorem put {shared shared' : Shared} {seat : Seat Own Wait} {holds : Bool}
    {linked flagged : Set Nat} (hagree : Agree linked flagged shared shared')
    (hvacant : seat = .vacant → holds = false)
    (hl : Mcs.linked (u.put t shared seat holds) ⊆ linked)
    (hf : Mcs.flagged (u.put t shared seat holds) ⊆ flagged) :
    Alike (u.put t shared seat holds) (u'.put t shared' seat holds) where
  seat_eq := by
    intro s
    rw [seat_put, seat_put, h.seat_eq]
  holds_eq := by
    funext s
    rw [holds_put, holds_put, h.holds_eq]
  vacant := by
    intro s hs
    rw [seat_put] at hs
    rw [holds_put]
    split at hs
    · next hst => rw [if_pos hst, hvacant hs]
    · next hst => rw [if_neg hst, h.vacant s hs]
  agree := hagree.mono hl hf

theorem put_apart {shared shared' : Shared} {seat : Seat Own Wait}
    (hagree : Agree (linked u) (flagged u) shared shared') (hw : seat.waits = false) :
    Alike (u.put t shared seat false) (u'.put t shared' seat false) := by
  refine h.put hagree (fun _ => rfl) (linked_put.trans ?_) (flagged_put.trans ?_)
  · rintro k (hk | ⟨hengaged, -⟩)
    · exact hk
    · simp [hw] at hengaged
  · rintro k (hk | ⟨own, rfl, -⟩)
    · exact hk
    · cases hw

theorem settle (hs : u.own? t = some own) {turn turn' : LockTurn Shared Own Wait}
    (hturn : SameTurn (linked u) (flagged u) own turn turn') :
    Alike (u.settle t turn) (u'.settle t turn') ∧ turn'.answer = turn.answer := by
  obtain ⟨shared, own₁, ending⟩ := turn
  obtain ⟨shared', own₁', ending'⟩ := turn'
  obtain ⟨rfl, hown, rfl, hagree⟩ := hturn
  obtain rfl : own₁' = own₁ := hown
  refine ⟨?_, rfl⟩
  unfold Usage.settle
  rw [h.holds_eq]
  refine h.put hagree ?_ (linked_put.trans ?_) (flagged_put.trans ?_)
  · cases ending' <;> simp [Turn.seat]
  · rintro k (hk | ⟨-, hk⟩)
    · exact .inr hk
    · refine .inl (Option.some.inj ?_).symm
      rw [← hk]
      cases ending' <;> rfl
  · rintro k (hk | ⟨own, hk, rfl⟩)
    · exact .inl hk
    · cases ending' with
      | waiting point =>
        obtain ⟨rfl, rfl⟩ : own₁' = own ∧ point = .grant := by simpa [Turn.seat] using hk
        exact .inr ⟨rfl, rfl⟩
      | done | failed => cases hk

theorem step_join (hs : u.seat t = .vacant) (entry : Entry) :
    Alike (u.step mcs t (.join entry)).1 (u'.step mcs t (.join entry)).1 ∧
      (u'.step mcs t (.join entry)).2 = (u.step mcs t (.join entry)).2 := by
  have hs' : u'.seat t = .vacant := (h.seat_eq t).trans hs
  have hf := h.vacant t hs
  have hfst : u'.shared.nodes.claim?.map Prod.fst = u.shared.nodes.claim?.map Prod.fst := by
    rw [Arena.claim?_map_fst, Arena.claim?_map_fst, h.agree.claims_eq]
  cases hc : u.shared.nodes.claim? with
  | none =>
    rw [hc, Option.map_none, Option.map_eq_none_iff] at hfst
    rw [step_join_error mcs hs (join_none hc entry), step_join_error mcs hs' (join_none hfst entry),
      ← hs, put_self, hs, ← hs', put_self, h.agree.size_eq]
    exact ⟨h, rfl⟩
  | some found =>
    obtain ⟨k, nodes⟩ := found
    rw [hc, Option.map_some, Option.map_eq_some_iff] at hfst
    obtain ⟨⟨k', nodes'⟩, hc', hk⟩ := hfst
    obtain rfl : k' = k := hk
    obtain ⟨-, -, rfl⟩ := Arena.isClaimed_of_claim? hc
    obtain ⟨-, -, rfl⟩ := Arena.isClaimed_of_claim? hc'
    rw [step_join_ok mcs hs (join_some hc entry), step_join_ok mcs hs' (join_some hc' entry),
      h.holds_eq, hf]
    exact ⟨h.put_apart (h.agree.setClaimed k' true) rfl, rfl⟩

theorem step_leave (hs : u.seat t = .idle own) (hf : u.holds t = false) :
    Alike (u.step mcs t .leave).1 (u'.step mcs t .leave).1 ∧
      (u'.step mcs t .leave).2 = (u.step mcs t .leave).2 := by
  have hs' : u'.seat t = .idle own := (h.seat_eq t).trans hs
  have hleave : Agree (linked u) (flagged u) (mcs.leave u.shared own).1
      (mcs.leave u'.shared own).1 ∧ (mcs.leave u'.shared own).2 = (mcs.leave u.shared own).2 := by
    simp only [mcs, leave, Arena.unclaim, h.agree.size_eq]
    by_cases hk : own.node < u.shared.nodes.size
    · simp only [if_pos hk, and_true]
      exact h.agree.setClaimed own.node false
    · simp only [if_neg hk, and_true]
      exact h.agree
  rw [fst_step_leave mcs hs, fst_step_leave mcs hs', snd_step_leave mcs hs, snd_step_leave mcs hs',
    hleave.2, h.holds_eq, hf]
  exact ⟨h.put_apart hleave.1 rfl, rfl⟩

theorem step (ha : u.permits t action = true ∨ action = .start .tryAcquire) :
    Alike (u.step mcs t action).1 (u'.step mcs t action).1 ∧
      (u'.step mcs t action).2 = (u.step mcs t action).2 := by
  obtain ⟨cause, hr, he⟩ | ⟨entry, rfl, hs⟩ | ⟨own, rfl, hs⟩ | ⟨own, command, rfl, hs⟩ |
    ⟨own, point, rfl, hs⟩ := step_cases mcs u t action
  · have hr' : (u'.seat t).refusal? action = some cause := by rw [h.seat_eq, hr]
    rw [he, step_refused mcs hr']
    exact ⟨h, rfl⟩
  · exact h.step_join hs entry
  · exact h.step_leave hs (by simpa [permits] using ha.resolve_right (by simp))
  · have hs' : u'.seat t = .idle own := (h.seat_eq t).trans hs
    by_cases hc : command = .tryAcquireRead
    · subst hc
      rw [step_tryAcquireRead hs, step_tryAcquireRead hs']
      exact ⟨h, rfl⟩
    · rw [step_start hs, step_start hs']
      refine h.settle (own?_of_idle hs) (SameTurn.start h.agree hc fun hb => ?_)
      obtain hp | ha := ha
      · have hh : u.holds t = true := by
          simpa [permits, hb] using hp
        exact ⟨t, .inl hh, nodeOf_of_own? (own?_of_idle hs)⟩
      · cases ha
        cases hb
  · have hs' : u'.seat t = .waiting own point := (h.seat_eq t).trans hs
    rw [step_resume hs, step_resume hs']
    refine h.settle (own?_of_waiting hs) (SameTurn.resume h.agree ?_ ?_)
    · exact ⟨t, .inr (waits_iff.mpr ⟨own, point, hs⟩), nodeOf_of_own? (own?_of_waiting hs)⟩
    · rintro rfl
      exact ⟨t, own, hs, rfl⟩

end Alike

end SpinLocks.Mcs
