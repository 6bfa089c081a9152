import SpinLocks.Proofs.Attempts.Exclusive
import SpinLocks.Proofs.Attempts.Readers

namespace SpinLocks

open Usage
open ReadWrite (Access)

variable {n : Nat}

section TestAndSet

variable {Own Part : Type} {lock : Lock Bool Own TestAndSet.Wait}
  (hl : TestAndSet.OneFlag lock) (hfree : ∀ raised, lock.isFree raised = !raised)
include hl hfree

theorem TestAndSet.attempting (part : Part) : Attempting lock fun _ => part where
  took := by
    intro raised own h
    obtain rfl : raised = false := by simpa [hfree] using h
    exact ⟨true, own, by rw [hl.start]; rfl, rfl, fun _ => rfl⟩
  failed := by
    intro raised own h
    obtain rfl : raised = true := by simpa [hfree] using h
    rw [hl.start]
    rfl

theorem TestAndSet.yields (n : Nat) : Yields (n := n) lock Raised where
  not_free := by
    intro u h t hh
    rw [hfree, h.raised_iff.mpr ⟨t, hh⟩]
    rfl
  free := by
    intro u h hnot
    rw [hfree, h.lowered fun t => by simpa using fun hh => hnot t (.inl hh)]
    rfl
  next := by
    rintro u h hnobody ⟨t, hw⟩
    obtain ⟨own, point, hs⟩ := waits_iff.mp hw
    refine ⟨t, hw, ?_⟩
    rw [step_resume hs, hl.resume, h.lowered hnobody]
    rfl

theorem TestAndSet.governs (config : Config) (n : Nat) :
    ∃ Inv, Governs lock exclusiveAccess Inv ∧ Inv (Custody.opening lock config n) := by
  have hread : ∀ raised own,
      lock.start .tryAcquireRead raised own = .refuse raised own .noSuchOperation := by
    intro raised own
    rw [hl.start]
    rfl
  exact ⟨_, (yields hl hfree n).governs (excludesAll hl n) (attempting hl hfree ()) hread,
    _, .opening lock config n, .opening hl config n⟩

end TestAndSet

namespace Ticket

theorem attempting {Part : Type} (part : Part) : Attempting ticket fun _ => part where
  took := by
    intro word own h
    have hturn : ticket.start .tryAcquire word own = tryAcquire word own := rfl
    rw [tryAcquire, Word.drawIfFree?_eq, if_pos ((Word.isFree_iff word).mp h)] at hturn
    exact ⟨_, _, hturn, rfl, fun _ => rfl⟩
  failed := by
    intro word own h
    have hne : word.head ≠ word.tail := fun he => by
      simp [show ticket.isFree word = true from (Word.isFree_iff word).mpr he] at h
    have hturn : ticket.start .tryAcquire word own = tryAcquire word own := rfl
    rw [hturn, tryAcquire, Word.drawIfFree?_eq, if_neg hne]

theorem yields (hn : n < 2 ^ 32) : Yields ticket fun u : Threads n =>
    ∃ first line, Counted Word.free.head u first line where
  not_free := by
    rintro u ⟨first, line, h⟩ t hh
    rw [← Bool.not_eq_true, h.isFree_iff hn, h.card_engaged]
    obtain ⟨rest, rfl⟩ := h.holder_first t hh
    exact Nat.succ_ne_zero _
  free := by
    rintro u ⟨first, line, h⟩ hnot
    rw [h.isFree_iff hn, Finset.card_eq_zero, Finset.eq_empty_iff_forall_notMem]
    exact fun t ht => hnot t (mem_engaged.mp ht)
  next := by
    rintro u ⟨first, line, h⟩ hnobody ⟨t, hw⟩
    have ho := h.inOrder hn
    obtain ⟨s, hs⟩ : ∃ s, (queue u line).head? = some s := by
      rw [← Option.isSome_iff_exists, List.isSome_head?]
      exact List.ne_nil_of_mem ((ho.mem_iff t).mpr hw)
    have hws := (ho.mem_iff s).mp (List.mem_of_mem_head? hs)
    exact ⟨s, hws, (ho.free_done_iff hnobody s hws).mpr hs⟩

end Ticket

namespace ClusterTicket

theorem clusters_setGlobal (shared : Shared) (word : Ticket.Word) :
    (shared.setGlobal word).clusters = shared.clusters := by
  rw [Shared.setGlobal]

theorem attempting : Attempting clusterTicket Shared.clusters where
  took := by
    intro shared own h
    have hturn : clusterTicket.start .tryAcquire shared own = tryAcquire shared own := rfl
    rw [tryAcquire_eq, if_pos ((Ticket.Word.isFree_iff _).mp h)] at hturn
    let own' := own.attempted shared.global.tail
    refine ⟨_, own', hturn, clusters_setGlobal .., fun later => ?_⟩
    have hrelease : clusterTicket.start .release later own' = release later own' := rfl
    have hv : own'.viaTry = true := rfl
    rw [hrelease, release_of_viaTry hv, clusters_setGlobal]
  failed := by
    intro shared own h
    have hne : shared.global.head ≠ shared.global.tail := fun he => by
      simp [show clusterTicket.isFree shared = true from (Ticket.Word.isFree_iff _).mpr he] at h
    have hturn : clusterTicket.start .tryAcquire shared own = tryAcquire shared own := rfl
    rw [hturn, tryAcquire_eq, if_neg hne]

theorem Ordered.free_of_not_engaged {u : Threads n} {q : Order n} (h : Ordered u q)
    (hnot : ∀ t, ¬ u.Engaged t) : q.Free := by
  constructor
  · by_contra hsingle
    obtain ⟨t, ht⟩ := Option.ne_none_iff_exists'.mp hsingle
    exact hnot t (.inl (h.single_holds t ht))
  · by_contra hline
    obtain ⟨c, rest, hl⟩ := List.exists_cons_of_ne_nil hline
    obtain ⟨hc, hfront⟩ := (h.mem_line c).mp (hl ▸ List.mem_cons_self)
    obtain ⟨s, hs⟩ := Option.ne_none_iff_exists'.mp hfront
    obtain hr | hr | ⟨ticket, hr, -⟩ := (((h.batched c hc).front_iff s).mp hs).cases
    · obtain ⟨own, -, hh, -⟩ := role_eq_holds.mp hr
      exact hnot s (.inl hh)
    · obtain ⟨own, hs', -⟩ := role_eq_waits.mp hr
      exact hnot s (.inr (waits_iff.mpr ⟨own, _, hs'⟩))
    · obtain ⟨own, hs', -⟩ := role_eq_waits.mp hr
      exact hnot s (.inr (waits_iff.mpr ⟨own, _, hs'⟩))

theorem yields (hn : n < 0x80000000) : Yields clusterTicket fun u : Threads n =>
    ∃ q, Ordered u q where
  not_free := by
    rintro u ⟨q, h⟩ t hh
    exact (h.handsOver hn).held t hh
  free := by
    rintro u ⟨q, h⟩ hnot
    exact h.isFree_iff.mpr (h.free_of_not_engaged hnot)
  next := by
    rintro u ⟨q, h⟩ hnobody hw
    obtain ⟨s, hs, -, hdone⟩ := (h.handsOver hn).free_done hnobody hw
    exact ⟨s, hs, hdone⟩

end ClusterTicket

def Kind.accessOf : Kind → Command → Access
  | .rwTtas => ReadWrite.accessOf
  | _ => exclusiveAccess

def Kind.counters : (kind : Kind) → kind.algorithm.Shared → List ClusterTicket.Counters
  | .htlock, shared => ClusterTicket.Shared.clusters shared
  | _, _ => []

theorem exists_governs (kind : Kind) (hk : kind ∈ [.tas, .ttas, .ticket, .htlock, .rwTtas])
    {config : Config} (hv : config.Valid) (hn : n < 0x80000000) :
    Attempting kind.algorithm.lock kind.counters ∧
      ∃ Inv, Governs kind.algorithm.lock kind.accessOf Inv ∧
        Inv (Custody.opening kind.algorithm.lock config n) := by
  cases kind with
  | array | clh | mcs | hclh => exact absurd hk (by decide)
  | tas => exact ⟨TestAndSet.attempting TestAndSet.oneFlag_tas (fun _ => rfl) [],
      TestAndSet.governs TestAndSet.oneFlag_tas (fun _ => rfl) config n⟩
  | ttas => exact ⟨TestAndSet.attempting TestAndSet.oneFlag_ttas (fun _ => rfl) [],
      TestAndSet.governs TestAndSet.oneFlag_ttas (fun _ => rfl) config n⟩
  | ticket =>
    have hn' : n < 2 ^ 32 := Nat.lt_trans hn (by decide)
    have ha : Attempting ticket fun _ => ([] : List ClusterTicket.Counters) := Ticket.attempting []
    exact ⟨ha, _, (Ticket.yields hn').governs (Ticket.excludesAll hn') ha fun _ _ => rfl,
      _, .opening ticket config n, 0, [], Ticket.counted_fresh (by decide) n⟩
  | htlock =>
    exact ⟨ClusterTicket.attempting, _, (ClusterTicket.yields hn).governs
      (ClusterTicket.excludesAll hn) ClusterTicket.attempting fun _ _ => rfl,
      _, .opening clusterTicket config n, _, ClusterTicket.ordered_opening hv n⟩
  | rwTtas =>
    exact ⟨ReadWrite.attempting [], _, ReadWrite.governs, ReadWrite.tallied_opening config n⟩

/-- Whatever the threads did, an attempt takes the lock where that shows as free, which is where
nobody has it, and else changes nothing; and whoever took the lock by it gives it back. -/
theorem attempts_run (kind : Kind) (hk : kind ∈ [.tas, .ttas, .ticket, .htlock, .rwTtas])
    {config : Config} (hv : config.Valid) (hn : n < 0x80000000) {schedule : Schedule n}
    (hp : (Custody.opening kind.algorithm.lock config n).proper kind.algorithm.lock kind.accessOf
      schedule = true) :
    let lock := kind.algorithm.lock
    let g := ((Custody.opening lock config n).run lock kind.accessOf schedule).1
    ∀ t, g.idles t = true → g.Sound lock kind.accessOf kind.counters t := by
  intro lock g t hidle
  obtain ⟨own, hs⟩ := Custody.idle_of_idles hidle
  obtain ⟨ha, Inv, hx, hinv⟩ := exists_governs kind hk hv hn
  exact hx.sound (hx.run hinv hp) hs ha

/-- The batch of the first cluster was closed, and the lock is free, while two threads of the
cluster wait for the next batch. The first thread takes the lock before them. -/
theorem attempts_closed_batch :
    let schedule : Schedule 4 :=
      [(0, .join ⟨.pair, 0⟩), (1, .join ⟨.pair, 0⟩), (2, .join ⟨.pair, 0⟩), (3, .join ⟨.pair, 0⟩),
        (0, .start .acquire), (1, .start .acquire), (2, .start .acquire), (3, .start .acquire),
        (0, .start .tryAcquire), (0, .start .release), (1, .resume), (1, .start .release)]
    let before : Custody ClusterTicket.Shared ClusterTicket.Own ClusterTicket.Wait 4 :=
      .opening clusterTicket .pair 4
    let g := (before.run clusterTicket exclusiveAccess schedule).1
    before.proper clusterTicket exclusiveAccess schedule = true ∧ g.idles 0 = true ∧
      clusterTicket.isFree g.shared = true ∧ g.waits 2 = true ∧ g.waits 3 = true ∧
      g.Sound clusterTicket exclusiveAccess ClusterTicket.Shared.clusters 0 := by
  intro schedule before g
  have hp : before.proper clusterTicket exclusiveAccess schedule = true := by decide
  have hidle : g.idles 0 = true := by decide
  exact ⟨hp, hidle, by decide, by decide, by decide,
    attempts_run .htlock (by decide) Config.valid_pair (by decide) hp 0 hidle⟩

end SpinLocks
