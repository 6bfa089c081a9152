import SpinLocks.Kind
import SpinLocks.Proofs.ArrayQueue.Turns
import SpinLocks.Proofs.ClusterTicket.Runs
import SpinLocks.Proofs.Mcs.Turns
import SpinLocks.Proofs.ReadWrite.Word
import SpinLocks.Proofs.Robust
import SpinLocks.Proofs.TestAndSet

namespace SpinLocks

variable {n : Nat} {config : Config}

section Words

variable {Own : Type}

theorem TestAndSet.sound_acquire (raised : Bool) (own : Own) :
    (TestAndSet.acquire raised own).Sound (fun _ => True) (fun _ => True) := by
  unfold TestAndSet.acquire
  split <;> exact ⟨trivial, trivial, rfl⟩

theorem TestAndSet.sound_start (command : Command) (raised : Bool) (own : Own) :
    (TestAndSet.start command raised own).Sound (fun _ => True) (fun _ => True) :=
  .exclusive trivial trivial (sound_acquire raised own) ⟨trivial, trivial, rfl⟩
    ⟨trivial, trivial, rfl⟩

theorem TestAndSet.OneFlag.robust {lock : Lock Bool Own Wait} (hl : OneFlag lock) :
    Robust lock (fun _ => True) (fun _ => True) where
  join _ _ _ := ⟨trivial, fun _ _ => trivial⟩
  leave raised own _ _ := ⟨trivial, congrArg Prod.snd (hl.leave raised own)⟩
  start command raised own _ _ := hl.start ▸ sound_start command raised own
  resume point raised own _ _ := by
    rw [hl.resume]
    cases point
    exact sound_acquire raised own

theorem Ticket.sound_await (word : Word) (own : Ticket.Own) :
    (Ticket.await word own).Sound (fun _ => True) (fun _ => True) := by
  unfold Ticket.await
  split <;> exact ⟨trivial, trivial, rfl⟩

theorem Ticket.sound_tryAcquire (word : Word) (own : Ticket.Own) :
    (Ticket.tryAcquire word own).Sound (fun _ => True) (fun _ => True) := by
  unfold Ticket.tryAcquire
  split <;> exact ⟨trivial, trivial, rfl⟩

theorem robust_ticket : Robust ticket (fun _ => True) (fun _ => True) where
  join _ _ _ := ⟨trivial, fun _ _ => trivial⟩
  leave _ _ _ _ := ⟨trivial, rfl⟩
  start _ word own _ _ :=
    .exclusive trivial trivial (Ticket.sound_await ..) ⟨trivial, trivial, rfl⟩
      (Ticket.sound_tryAcquire word own)
  resume point word own _ _ := by cases point; exact Ticket.sound_await word own

theorem ReadWrite.faultless_start (command : Command) (word : Word) (own : Backoff) :
    (ReadWrite.start command word own).answer.faults = false := by
  cases command
  case acquire | acquireWrite => simp only [start, acquireWrite]; split <;> rfl
  case tryAcquire => simp only [start, tryWrite]; split <;> rfl
  case acquireRead => simp only [start, acquireRead]; split <;> rfl
  case tryAcquireRead => simp only [start, tryRead]; split <;> rfl
  case release | releaseWrite | releaseRead => rfl

/-- One more reader overflows no word, be it one that never comes about. -/
theorem ReadWrite.Word.succ_lt {word : Word} (h : word.admitsReader = true) :
    word.raw.toNat + 1 < 2 ^ 16 := by
  obtain ⟨-, hreaders⟩ := word.admitsReader_iff.mp h
  have hlt := word.raw.toNat_lt
  omega

theorem robust_readWrite : Robust readWrite (fun _ => True) (fun _ => True) where
  join _ _ _ := ⟨trivial, fun _ _ => trivial⟩
  leave _ _ _ _ := ⟨trivial, rfl⟩
  start command word own _ _ := ⟨trivial, trivial, ReadWrite.faultless_start command word own⟩
  resume point word own _ _ := by
    cases point with
    | reading => exact ⟨trivial, trivial, ReadWrite.faultless_start .acquireRead word own⟩
    | writing => exact ⟨trivial, trivial, ReadWrite.faultless_start .acquireWrite word own⟩

end Words

namespace ArrayQueue

abbrev Within (slots : Nat) : LockTurn Shared Own Wait → Prop :=
  Turn.Sound (fun shared => shared.flags.length = slots) (fun own => own.slot < slots)

variable {slots : Nat} {shared : Shared} {own : Own}

section Turns

variable (h : shared.flags.length = slots)
include h

theorem within_await (ho : own.slot < slots) : Within slots (await shared own) := by
  have hlt : own.slot < shared.flags.length := h ▸ ho
  rw [await, List.getElem?_eq_getElem hlt]
  cases shared.flags[own.slot] <;> exact ⟨h, ho, rfl⟩

theorem within_release (ho : own.slot < slots) : Within slots (release shared own) := by
  rw [release_eq (h ▸ ho)]
  exact ⟨(shared.length_pass own.slot).trans h, ho, rfl⟩

variable (hpos : 0 < slots)
include hpos

theorem tailSlot_lt : shared.tailSlot < slots :=
  h ▸ Shared.slotOf_lt (h ▸ hpos) _

theorem within_tryAcquire (ho : own.slot < slots) : Within slots (tryAcquire shared own) := by
  have hslot := tailSlot_lt h hpos
  obtain ⟨flag, hflag⟩ : ∃ flag, shared.flags[shared.tailSlot]? = some flag :=
    ⟨_, List.getElem?_eq_getElem (h ▸ hslot)⟩
  rw [tryAcquire, hflag]
  cases flag with
  | true => exact ⟨h, hslot, rfl⟩
  | false => exact ⟨h, ho, rfl⟩

end Turns

theorem robust (hpos : 0 < slots) :
    Robust arrayQueue (fun shared => shared.flags.length = slots)
      (fun own => own.slot < slots) where
  join entry shared h := by
    show (join entry shared).1.flags.length = slots ∧ _
    simp only [arrayQueue, join]
    split
    · exact ⟨h, fun own he => Except.ok.inj he ▸ hpos⟩
    · exact ⟨h, fun own he => by cases he⟩
  leave _ _ h _ := ⟨h, rfl⟩
  start _ shared own h ho :=
    .exclusive h ho (within_await h (tailSlot_lt h hpos)) (within_release h ho)
      (within_tryAcquire h hpos ho)
  resume point shared own h ho := by cases point; exact within_await h ho

theorem sound_create (config : Config) (n : Nat) :
    (System.init n (create config) : System Shared Own Wait n).Sound
      (fun shared => shared.flags.length = max config.maxThreads 2)
      (fun own => own.slot < max config.maxThreads 2) :=
  .init (by simp [create])

end ArrayQueue

namespace Mcs

/-- No link leads out of the arena. -/
structure Inside (size : Nat) (shared : Shared) : Prop where
  size_eq : shared.nodes.size = size
  tail_lt : ∀ k, shared.tail = some k → k < size
  next_lt : ∀ k node next, shared.nodes.node? k = some node → node.next = some next → next < size

abbrev Within (size : Nat) : LockTurn Shared Own Wait → Prop :=
  Turn.Sound (Inside size) (fun own => own.node < size)

variable {size k pred next : Nat} {shared : Shared} {own : Own}

namespace Inside

variable (h : Inside size shared)
include h

theorem modify {f : Node → Node}
    (hf : ∀ node next, (f node).next = some next → node.next = some next ∨ next < size) :
    Inside size { shared with nodes := shared.nodes.modify k f } where
  size_eq := (Arena.size_modify ..).trans h.size_eq
  tail_lt := h.tail_lt
  next_lt := by
    intro j node next hj hnext
    rw [Arena.node?_modify] at hj
    split at hj
    · obtain ⟨before, hbefore, rfl⟩ := Option.map_eq_some_iff.mp hj
      exact (hf before next hnext).elim (h.next_lt j before next hbefore) id
    · exact h.next_lt j node next hj hnext

theorem prepare : Inside size (shared.prepare k) :=
  h.modify (by simp [Node.queued])

theorem enqueue (hk : k < size) : Inside size (shared.enqueue k) where
  size_eq := h.prepare.size_eq
  tail_lt := by
    rintro j ⟨⟩
    exact hk
  next_lt := h.prepare.next_lt

theorem link (hn : next < size) : Inside size (shared.link pred next) :=
  h.modify fun _ _ he => .inr (Option.some.inj he ▸ hn)

theorem pass : Inside size (shared.pass k) :=
  h.modify fun _ _ he => .inl he

theorem empty : Inside size shared.empty where
  size_eq := h.size_eq
  tail_lt := by simp [Shared.empty]
  next_lt := h.next_lt

theorem setClaimed (claimed : Bool) :
    Inside size { shared with nodes := shared.nodes.setClaimed k claimed } where
  size_eq := (Arena.size_setClaimed ..).trans h.size_eq
  tail_lt := h.tail_lt
  next_lt := by
    intro j node next hj
    rw [Arena.node?_setClaimed] at hj
    exact h.next_lt j node next hj

section Turns

variable (ho : own.node < size)
include ho

theorem exists_node : ∃ node, shared.nodes.node? own.node = some node :=
  Arena.exists_node? (h.size_eq.symm ▸ ho)

theorem within_awaitGrant : Within size (awaitGrant shared own) := by
  obtain ⟨node, hnode⟩ := h.exists_node ho
  rw [awaitGrant_eq hnode]
  split <;> exact ⟨h, ho, rfl⟩

theorem within_acquire : Within size (acquire shared own) := by
  have hlt : own.node < shared.nodes.size := h.size_eq.symm ▸ ho
  cases htail : shared.tail with
  | none =>
    rw [acquire_of_none hlt htail]
    exact ⟨h.enqueue ho, ho, rfl⟩
  | some pred =>
    rw [acquire_link hlt htail (h.size_eq.symm ▸ h.tail_lt pred htail)]
    exact ((h.enqueue ho).link ho).within_awaitGrant ho

/-- A thread may give the lock back that it does not hold, and then wait for a successor that never
comes, or let a thread go that is not its successor. -/
theorem within_awaitSuccessor : Within size (awaitSuccessor shared own) := by
  obtain ⟨node, hnode⟩ := h.exists_node ho
  cases hnext : node.next with
  | none =>
    rw [awaitSuccessor_of_none hnode hnext]
    exact ⟨h, ho, rfl⟩
  | some next =>
    have hlt := h.next_lt own.node node next hnode hnext
    rw [awaitSuccessor_of_some hnode hnext (h.size_eq.symm ▸ hlt)]
    exact ⟨h.pass, ho, rfl⟩

theorem within_release : Within size (release shared own) := by
  obtain ⟨node, hnode⟩ := h.exists_node ho
  by_cases hlast : node.next = none ∧ shared.tail = some own.node
  · rw [release_of_none hnode hlast.1 hlast.2]
    exact ⟨h.empty, ho, rfl⟩
  · rw [release_of_ne hnode fun hnone htail => hlast ⟨hnone, htail⟩]
    exact h.within_awaitSuccessor ho

theorem within_tryAcquire : Within size (tryAcquire shared own) := by
  rw [tryAcquire_eq (h.size_eq.symm ▸ ho)]
  split
  · exact ⟨h.enqueue ho, ho, rfl⟩
  · exact ⟨h.prepare, ho, rfl⟩

end Turns

omit h in
theorem create (config : Config) :
    Inside (min config.maxThreads nilIndex) (Mcs.create config) where
  size_eq := Arena.size_replicate ..
  tail_lt := by simp [Mcs.create]
  next_lt := by
    intro k node next hk hnext
    rw [Mcs.create, Arena.node?_replicate] at hk
    split at hk
    · cases hk
      cases hnext
    · cases hk

end Inside

theorem sound_create (hv : config.Valid) (n : Nat) :
    (System.init n (create config) : System Shared Own Wait n).Sound (Inside config.maxThreads)
      (fun own => own.node < config.maxThreads) := by
  have hcreate := Inside.create config
  rw [Nat.min_eq_left (show config.maxThreads ≤ nilIndex from hv.threads_lt.le)] at hcreate
  exact .init hcreate

theorem robust : Robust mcs (Inside size) (fun own => own.node < size) where
  join entry shared h := by
    show Inside size (join entry shared).1 ∧ ∀ own, (join entry shared).2 = .ok own → _
    cases hc : shared.nodes.claim? with
    | none =>
      rw [join_none hc]
      exact ⟨h, fun own he => by cases he⟩
    | some found =>
      obtain ⟨k, nodes⟩ := found
      obtain ⟨hlt, -, rfl⟩ := Arena.isClaimed_of_claim? hc
      rw [join_some hc]
      refine ⟨h.setClaimed true, ?_⟩
      rintro own ⟨⟩
      exact h.size_eq ▸ hlt
  leave shared own h ho := by
    have hleave : mcs.leave shared own = _ := leave_eq (h.size_eq.symm ▸ ho)
    rw [hleave]
    exact ⟨h.setClaimed false, rfl⟩
  start _ shared own h ho :=
    .exclusive h ho (h.within_acquire ho) (h.within_release ho) (h.within_tryAcquire ho)
  resume point shared own h ho := by
    cases point with
    | grant => exact h.within_awaitGrant ho
    | successor => exact h.within_awaitSuccessor ho

end Mcs

namespace ClusterTicket

structure Bounded (config : Config) (shared : Shared) : Prop where
  length_eq : shared.clusters.length = config.topology.numClusters
  batch_eq : shared.batch.toInt = config.batchSize
  cur_nonneg : ∀ counters ∈ shared.clusters, 0 ≤ counters.cur.toInt
  cur_le : ∀ counters ∈ shared.clusters, counters.cur.toInt ≤ config.batchSize + 1

abbrev Within (config : Config) : LockTurn Shared Own Wait → Prop :=
  Turn.Sound (Bounded config) (fun own => own.cluster < config.topology.numClusters)

variable {shared : Shared} {own : Own} {c : Nat} {counters : Counters}

theorem draw_eq (h : own.cluster < shared.clusters.length) :
    draw shared own =
      let ticket := (shared.counters own.cluster).nxt - 1
      let lowered := shared.lower own.cluster
      if 0 ≤ ticket then awaitServed ticket lowered own
      else if ticket = -1 then awaitClosed lowered own
      else ⟨lowered, own, .waiting .opened⟩ :=
  onCounters_eq h _

theorem counters_mem (h : c < shared.clusters.length) : shared.counters c ∈ shared.clusters :=
  List.mem_of_getElem? (getElem?_clusters h)

namespace Bounded

theorem setGlobal (h : Bounded config shared) (word : Ticket.Word) :
    Bounded config (shared.setGlobal word) :=
  ⟨h.length_eq, h.batch_eq, h.cur_nonneg, h.cur_le⟩

theorem setCounters (h : Bounded config shared) (hnonneg : 0 ≤ counters.cur.toInt)
    (hle : counters.cur.toInt ≤ config.batchSize + 1) :
    Bounded config (shared.setCounters c counters) where
  length_eq := (length_setCounters c counters).trans h.length_eq
  batch_eq := h.batch_eq
  cur_nonneg := by
    intro other ho
    obtain ho | rfl := List.mem_or_eq_of_mem_set ho
    · exact h.cur_nonneg other ho
    · exact hnonneg
  cur_le := by
    intro other ho
    obtain ho | rfl := List.mem_or_eq_of_mem_set ho
    · exact h.cur_le other ho
    · exact hle

theorem toInt_idle (h : Bounded config shared) (hv : config.Valid) :
    shared.idle.toInt = config.batchSize + 1 := by
  have hbatch := h.batch_eq
  have hlt := hv.batch_lt
  rw [ClusterTicket.toInt_idle (by omega), hbatch]

theorem lower (h : Bounded config shared) (hc : c < shared.clusters.length) :
    Bounded config (shared.lower c) := by
  have hnonneg := h.cur_nonneg _ (counters_mem hc)
  have hle := h.cur_le _ (counters_mem hc)
  exact h.setCounters hnonneg hle

theorem openBatch (h : Bounded config shared) : Bounded config (shared.openBatch c) := by
  have hbatch := h.batch_eq
  refine Bounded.setGlobal (h.setCounters ?_ ?_) _ <;> dsimp only <;> omega

section Turns

variable (h : Bounded config shared) (ho : own.cluster < config.topology.numClusters)
include h ho

theorem within_awaitServed (ticket : Int32) :
    Within config (awaitServed ticket shared own) := by
  rw [awaitServed_eq (h.length_eq.symm ▸ ho)]
  split <;> exact ⟨h, ho, rfl⟩

theorem within_awaitCalled : Within config (awaitCalled shared own) := by
  rw [awaitCalled_eq]
  split <;> exact ⟨h, ho, rfl⟩

theorem within_awaitClosed : Within config (awaitClosed shared own) := by
  have hc : own.cluster < shared.clusters.length := h.length_eq.symm ▸ ho
  by_cases hi : (shared.counters own.cluster).cur = shared.idle
  · rw [awaitClosed_of_idle hc hi]
    exact h.openBatch.within_awaitCalled ho
  · rw [awaitClosed_of_not_idle hc hi]
    exact ⟨h, ho, rfl⟩

theorem within_draw : Within config (draw shared own) := by
  have hc : own.cluster < shared.clusters.length := h.length_eq.symm ▸ ho
  have hlower := h.lower hc
  rw [draw_eq hc]
  dsimp only
  split
  · exact hlower.within_awaitServed ho _
  · split
    · exact hlower.within_awaitClosed ho
    · exact ⟨hlower, ho, rfl⟩

theorem within_awaitOpened : Within config (awaitOpened shared own) := by
  rw [awaitOpened_eq (h.length_eq.symm ▸ ho)]
  split
  · exact ⟨h, ho, rfl⟩
  · exact h.within_draw ho

theorem within_acquire : Within config (acquire shared own) := by
  rw [acquire_eq (h.length_eq.symm ▸ ho)]
  exact h.within_draw ho

theorem within_tryAcquire : Within config (tryAcquire shared own) := by
  rw [tryAcquire_eq]
  split
  · exact ⟨h.setGlobal _, ho, rfl⟩
  · exact ⟨h, ho, rfl⟩

variable (hv : config.Valid)
include hv

/-- A ticket below the one that is served is served next, unless it is the last: nothing below zero
ever is. -/
theorem within_releaseBatch : Within config (releaseBatch shared own) := by
  have hc : own.cluster < shared.clusters.length := h.length_eq.symm ▸ ho
  have hnonneg := h.cur_nonneg _ (counters_mem hc)
  have hle := h.cur_le _ (counters_mem hc)
  have hbatch := h.batch_eq
  have hlt := hv.batch_lt
  by_cases hlast : shared.cur own.cluster = 0 ∨ shared.cur own.cluster = shared.nxt own.cluster
  · have hidle : shared.idle.toInt = config.batchSize + 1 := h.toInt_idle hv
    rw [releaseBatch_of_last hc hlast]
    refine ⟨Bounded.setGlobal (h.setCounters ?_ ?_) _, ho, rfl⟩ <;> dsimp only <;> omega
  · obtain ⟨hzero, hne⟩ := not_or.mp hlast
    have hpos : 0 < (shared.counters own.cluster).cur.toInt :=
      lt_of_le_of_ne hnonneg (Ne.symm hzero)
    have hcur := toInt_sub_one (a := (shared.counters own.cluster).cur) (by omega)
    rw [releaseBatch_of_not_last hc hpos hne]
    refine ⟨h.setCounters ?_ ?_, ho, rfl⟩ <;> dsimp only <;> omega

theorem within_release : Within config (release shared own) := by
  cases hvia : own.viaTry with
  | true =>
    rw [release_of_viaTry hvia]
    exact ⟨h.setGlobal _, ho, rfl⟩
  | false =>
    rw [release_of_not_viaTry hvia]
    exact h.within_releaseBatch ho hv

end Turns

theorem create (hv : config.Valid) : Bounded config (ClusterTicket.create config) := by
  have hbatch := toInt_batch_create hv
  have hlt := hv.batch_lt
  have hidle : (ClusterTicket.create config).idle.toInt = config.batchSize + 1 := by
    rw [ClusterTicket.toInt_idle (by omega), hbatch]
  have hcur : ∀ counters ∈ (ClusterTicket.create config).clusters,
      counters.cur.toInt = config.batchSize + 1 := by
    intro counters hc
    rw [List.eq_of_mem_replicate hc]
    exact hidle
  refine ⟨List.length_replicate, hbatch, fun counters hc => ?_, fun counters hc => ?_⟩ <;>
    have := hcur counters hc <;> omega

end Bounded

theorem sound_create (hv : config.Valid) (n : Nat) :
    (System.init n (create config) : System Shared Own Wait n).Sound (Bounded config)
      (fun own => own.cluster < config.topology.numClusters) :=
  .init (Bounded.create hv)

theorem robust (hv : config.Valid) : Robust clusterTicket (Bounded config)
    (fun own => own.cluster < config.topology.numClusters) where
  join entry shared h := by
    refine ⟨h, ?_⟩
    rintro own ⟨⟩
    exact h.length_eq ▸ Nat.mod_lt _ (h.length_eq.symm ▸ hv.clusters_pos)
  leave _ _ h _ := ⟨h, rfl⟩
  start _ shared own h ho :=
    .exclusive h ho (h.within_acquire ho) (h.within_release ho hv) (h.within_tryAcquire ho)
  resume point shared own h ho := by
    cases point with
    | served ticket => exact h.within_awaitServed ho ticket
    | closed => exact h.within_awaitClosed ho
    | called => exact h.within_awaitCalled ho
    | opened => exact h.within_awaitOpened ho

end ClusterTicket

/-- The indices and the numbers that a lock computes with are in their ranges. -/
def Kind.InRange (config : Config) : (kind : Kind) →
    System kind.algorithm.Shared kind.algorithm.Own kind.algorithm.Wait n → Prop
  | .array, s => 0 < s.shared.flags.length ∧
    ∀ t own, (s.seat t).own? = some own → own.slot < s.shared.flags.length ∧ own.slot + 1 < 2 ^ 64
  | .mcs, s => s.Sound (Mcs.Inside config.maxThreads) (fun own => own.node < config.maxThreads)
  | .htlock, s =>
    s.Sound (ClusterTicket.Bounded config) (fun own => own.cluster < config.topology.numClusters) ∧
    0 < config.topology.numClusters ∧ s.shared.idle.toInt = config.batchSize + 1
  | .rwTtas, s => s.shared.admitsReader = true → s.shared.raw.toNat + 1 < 2 ^ 16
  | .tas, _ | .ttas, _ | .ticket, _ | .clh, _ | .hclh, _ => True

/-- Threads may give back what they do not hold, take what they hold, and leave with it, from every
word that the lock can be preset to. They may join with any configuration; one that was built has an
entry in its table for every core. -/
theorem misuse_run (kind : Kind) (hclh : kind ≠ .clh) (hhclh : kind ≠ .hclh) (hv : config.Valid)
    (words : List Nat) (schedule : List (Fin n × Action Entry Command)) :
    let lock := kind.algorithm.lock
    let before := System.init n (lock.preset words (lock.create config))
    ((∀ answer ∈ (before.run lock.protocol schedule).2, answer.faults = false) ∧
      kind.InRange config (before.run lock.protocol schedule).1) ∧
      ∀ (settings : Settings) (built : Config) (core : Nat), settings.build = .ok built →
        core % built.topology.clusters.length < built.topology.clusters.length := by
  refine ⟨?_, fun _ _ _ hb => Nat.mod_lt _ (Settings.table_pos_of_build hb)⟩
  cases kind with
  | tas =>
    exact ⟨((System.Sound.init trivial).run TestAndSet.oneFlag_tas.robust schedule).2, trivial⟩
  | ttas =>
    exact ⟨((System.Sound.init trivial).run TestAndSet.oneFlag_ttas.robust schedule).2, trivial⟩
  | ticket => exact ⟨((System.Sound.init trivial).run robust_ticket schedule).2, trivial⟩
  | rwTtas =>
    exact ⟨((System.Sound.init trivial).run robust_readWrite schedule).2,
      ReadWrite.Word.succ_lt⟩
  | array =>
    have hpos : 0 < max config.maxThreads 2 := Nat.lt_of_lt_of_le Nat.two_pos (Nat.le_max_right ..)
    obtain ⟨⟨hflags, hown⟩, hgood⟩ :=
      (ArrayQueue.sound_create config n).run (ArrayQueue.robust hpos) schedule
    refine ⟨hgood, hflags.symm ▸ hpos, fun t own ho => ?_⟩
    have hslot := hown t own ho
    have hlt := hv.threads_lt
    exact ⟨hflags.symm ▸ hslot, by omega⟩
  | mcs => exact ((Mcs.sound_create hv n).run Mcs.robust schedule).symm
  | htlock =>
    obtain ⟨hsound, hgood⟩ := (System.Sound.init (n := n) (ClusterTicket.Bounded.create hv)).run
      (ClusterTicket.robust hv) schedule
    exact ⟨hgood, hsound, hv.clusters_pos, hsound.shared.toInt_idle hv⟩
  | clh => exact absurd rfl hclh
  | hclh => exact absurd rfl hhclh

/-- A thread gives the lock back three times before it takes it twice, and leaves while it holds it.
Another, that was never there before, takes it in a single attempt. -/
theorem misuse_stray :
    let schedule : List (Fin 2 × Action Entry Command) :=
      [(0, .join ⟨.pair, 5⟩), (0, .start .release), (0, .start .releaseRead), (0, .start .release),
        (0, .start .acquire), (0, .start .acquire), (0, .leave), (1, .start .acquire),
        (1, .join ⟨.pair, 1⟩), (1, .start .tryAcquire), (1, .start .release), (1, .start .release)]
    let lock := Kind.htlock.algorithm.lock
    let before := System.init 2 (lock.preset [] (lock.create .pair))
    Kind.htlock ≠ .clh ∧ Kind.htlock ≠ .hclh ∧ Config.pair.Valid ∧
      (∀ answer ∈ (before.run lock.protocol schedule).2, answer.faults = false) ∧
      Kind.htlock.InRange .pair (before.run lock.protocol schedule).1 := by
  intro schedule lock before
  have hclh : Kind.htlock ≠ .clh := by decide
  have hhclh : Kind.htlock ≠ .hclh := by decide
  exact ⟨hclh, hhclh, Config.valid_pair,
    (misuse_run .htlock hclh hhclh Config.valid_pair [] schedule).1⟩

end SpinLocks
