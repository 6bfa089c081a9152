import SpinLocks.Proofs.Dimensions
import SpinLocks.Proofs.Hclh.Runs
import SpinLocks.Proofs.Misuse

namespace SpinLocks

variable {n : Nat} {config : Config}

/-- Each number of the configuration fits in the word that a lock keeps it in, and so does the one
after it. -/
structure Config.Fits (config : Config) : Prop where
  batch_lt : config.batchSize + 1 < 0x80000000
  clusters_lt : config.topology.numClusters + 1 < 0x100
  threads_le : config.maxThreads + 1 ≤ nilIndex
  clusters_pos : 0 < config.topology.numClusters
  table_pos : 0 < config.topology.clusters.length

theorem Settings.fits_of_build {settings : Settings} (h : settings.build = .ok config) :
    config.Fits := by
  have hv := valid_of_build h
  exact {
    batch_lt := Nat.succ_lt_succ hv.batch_lt
    clusters_lt := Nat.lt_of_le_of_lt (Nat.succ_le_succ hv.clusters_le) (by decide)
    threads_le := hv.threads_lt
    clusters_pos := hv.clusters_pos
    table_pos := table_pos_of_build h }

/-- Whoever joins, with whatever configuration, gets what is asked for as long as there is room. -/
def JoinsUnlessFull {Shared Own Wait : Type} (lock : Lock Shared Own Wait) (capacity : Nat)
    (room : Prop) (good : Own → Prop) (shared : Shared) : Prop :=
  ∀ entry, ¬ room ∧ (lock.join entry shared).2 = lackOfCapacity lock.name capacity ∨
    room ∧ ∃ own, (lock.join entry shared).2 = .ok own ∧ good own

namespace Mcs

theorem joins {shared : Shared} (hsize : shared.nodes.size = config.maxThreads)
    (hf : config.Fits) :
    JoinsUnlessFull mcs config.maxThreads shared.nodes.HasRoom
      (fun own => own.node < nilIndex) shared := by
  intro entry
  have hle := hf.threads_le
  cases hc : shared.nodes.claim? with
  | none =>
    have hjoin : mcs.join entry shared = _ := join_none hc entry
    rw [hjoin, hsize]
    exact .inl ⟨Arena.not_hasRoom_of_claim? hc, rfl⟩
  | some found =>
    obtain ⟨k, nodes⟩ := found
    obtain ⟨hlt, -, -⟩ := Arena.isClaimed_of_claim? hc
    have hjoin : mcs.join entry shared = _ := join_some hc entry
    rw [hjoin]
    exact .inr ⟨Arena.hasRoom_of_claim? hc, ⟨k⟩, rfl, show k < nilIndex by omega⟩

end Mcs

namespace Clh

theorem size_create (hf : config.Fits) : (create config).nodes.size = config.maxThreads + 1 := by
  rw [create, Arena.size_setClaimed, Arena.size_replicate, Nat.min_eq_left hf.threads_le]

theorem joins {shared : Shared} (hsize : shared.nodes.size = config.maxThreads + 1)
    (hf : config.Fits) :
    JoinsUnlessFull clh config.maxThreads shared.nodes.HasRoom
      (fun own => own.node.index < nilIndex) shared := by
  intro entry
  have hle := hf.threads_le
  have hcapacity : shared.capacity = config.maxThreads := by
    rw [Shared.capacity, hsize, Nat.add_sub_cancel]
  cases hc : shared.nodes.claim? with
  | none =>
    have hjoin : clh.join entry shared = _ := join_none hc entry
    rw [hjoin, hcapacity]
    exact .inl ⟨Arena.not_hasRoom_of_claim? hc, rfl⟩
  | some found =>
    obtain ⟨k, nodes⟩ := found
    obtain ⟨hlt, -, -⟩ := Arena.isClaimed_of_claim? hc
    have hjoin : clh.join entry shared = _ := join_some hc entry
    rw [hjoin]
    exact .inr ⟨Arena.hasRoom_of_claim? hc, ⟨some k, none⟩, rfl, show k < nilIndex by omega⟩

end Clh

namespace Hclh

theorem size_create (hf : config.Fits) : (create config).nodes.size = config.maxThreads + 1 := by
  simp only [create, Arena.size_setClaimed, Arena.size_replicate, Nat.min_eq_left hf.threads_le]

/-- The cluster of the node that is parked in a new lock comes after all clusters, and one more. -/
theorem sentinel_create (hf : config.Fits) : ∃ state,
    (create config).nodes.node? sentinel = some state ∧
      state.cluster.toNat = config.topology.numClusters + 1 := by
  have hlt := hf.clusters_lt
  have hs := sentinel_lt config.maxThreads (.ofParts 0 false false)
  rw [Arena.size_replicate] at hs
  refine ⟨.ofParts (.ofNat (config.topology.numClusters + 1)) false false, ?_, ?_⟩
  · simp only [create, if_pos hlt, Arena.node?_setClaimed, Arena.node?_replicate, if_pos hs]
  · rw [NodeState.cluster_ofParts, UInt8.toNat_ofNat_of_lt' hlt]

theorem joins {shared : Shared} (hsize : shared.nodes.size = config.maxThreads + 1)
    (hcount : shared.queues.length = config.topology.numClusters) (hf : config.Fits) :
    JoinsUnlessFull hclh config.maxThreads shared.nodes.HasRoom (fun own =>
      own.node.index < nilIndex ∧ own.cluster.toNat < config.topology.numClusters) shared := by
  intro entry
  have hle := hf.threads_le
  have hlt := hf.clusters_lt
  have hpos := hf.clusters_pos
  have hcapacity : shared.capacity = config.maxThreads := by
    rw [Shared.capacity, hsize, Nat.add_sub_cancel]
  obtain ⟨hnone, hjoin⟩ | ⟨k, cluster, hk, hfree, -, hcluster, hjoin⟩ :=
    join_cases entry (show 0 < shared.queues.length by omega) (by omega)
  · have hjoin : hclh.join entry shared = _ := hjoin
    rw [hjoin, hcapacity]
    exact .inl ⟨Arena.not_hasRoom_of_claim? hnone, rfl⟩
  · have hjoin : hclh.join entry shared = _ := hjoin
    rw [hjoin]
    exact .inr ⟨⟨k, hk, hfree⟩, ⟨some k, none, cluster⟩, rfl, show k < nilIndex by omega,
      hcount ▸ hcluster⟩

end Hclh

/-- The tables and the numbers of the lock are those of the configuration. -/
def Kind.Exact (config : Config) : (kind : Kind) → kind.algorithm.Shared → Prop
  | .array, shared => config.maxThreads ≤ shared.flags.length ∧ 2 ≤ shared.flags.length
  | .mcs, shared =>
    shared.nodes.size = config.maxThreads ∧
    JoinsUnlessFull SpinLocks.mcs config.maxThreads shared.nodes.HasRoom
      (fun own => own.node < nilIndex) shared
  | .clh, shared =>
    shared.nodes.size = config.maxThreads + 1 ∧
    JoinsUnlessFull SpinLocks.clh config.maxThreads shared.nodes.HasRoom
      (fun own => own.node.index < nilIndex) shared
  | .hclh, shared =>
    shared.nodes.size = config.maxThreads + 1 ∧
    shared.queues.length = config.topology.numClusters ∧
    ∃ parked, (Hclh.create config).nodes.node? Hclh.sentinel = some parked ∧
      parked.cluster.toNat = config.topology.numClusters + 1 ∧
      JoinsUnlessFull SpinLocks.hclh config.maxThreads shared.nodes.HasRoom (fun own =>
        own.node.index < nilIndex ∧ own.cluster ≠ parked.cluster) shared
  | .htlock, shared =>
    shared.batch.toInt = config.batchSize ∧ shared.idle.toInt = config.batchSize + 1 ∧
    shared.clusters.length = config.topology.numClusters ∧
    ∀ entry, ∃ own, (clusterTicket.join entry shared).2 = .ok own ∧
      own.cluster < config.topology.numClusters
  | .tas, _ | .ttas, _ | .ticket, _ | .rwTtas, _ => True

/-- A lock that is created with a configuration that was built is what the configuration says, and
stays so whatever the threads do with it. -/
theorem construction_exact {settings : Settings} (hb : settings.build = .ok config) (kind : Kind)
    (schedule : List (Fin n × Action Entry Command)) :
    let lock := kind.algorithm.lock
    let before := System.init n (lock.create config)
    config.Fits ∧ kind.Exact config (before.run lock.protocol schedule).1.shared := by
  have hf := Settings.fits_of_build hb
  have hv := Settings.valid_of_build hb
  refine ⟨hf, ?_⟩
  cases kind with
  | tas | ttas | ticket | rwTtas => trivial
  | array =>
    have hpos : 0 < max config.maxThreads 2 := Nat.lt_of_lt_of_le Nat.two_pos (Nat.le_max_right ..)
    have hflags :=
      ((ArrayQueue.sound_create config n).run (ArrayQueue.robust hpos) schedule).1.shared
    exact ⟨hflags.symm ▸ Nat.le_max_left .., hflags.symm ▸ Nat.le_max_right ..⟩
  | mcs =>
    have hsize := ((Mcs.sound_create hv n).run Mcs.robust schedule).1.shared.size_eq
    exact ⟨hsize, Mcs.joins hsize hf⟩
  | clh =>
    have hsize := (Clh.keeps_size.run (System.init n (Clh.create config)) schedule).trans
      (Clh.size_create hf)
    exact ⟨hsize, Clh.joins hsize hf⟩
  | hclh =>
    have hsize := (Hclh.keeps_size.run (System.init n (Hclh.create config)) schedule).trans
      (Hclh.size_create hf)
    have hcount := (Hclh.keeps_clusters.run (System.init n (Hclh.create config)) schedule).trans
      List.length_replicate
    obtain ⟨parked, hparked, hstamp⟩ := Hclh.sentinel_create hf
    refine ⟨hsize, hcount, parked, hparked, hstamp, fun entry => ?_⟩
    refine (Hclh.joins hsize hcount hf entry).imp_right (And.imp_right ?_)
    rintro ⟨own, hjoin, hindex, hcluster⟩
    refine ⟨own, hjoin, hindex, fun he => ?_⟩
    rw [he, hstamp] at hcluster
    omega
  | htlock =>
    have hbounded :=
      ((ClusterTicket.sound_create hv n).run (ClusterTicket.robust hv) schedule).1.shared
    refine ⟨hbounded.batch_eq, hbounded.toInt_idle hv, hbounded.length_eq, fun entry => ?_⟩
    exact ⟨_, rfl, ((ClusterTicket.robust hv).join entry _ hbounded).2 _ rfl⟩

/-- As many threads, as large a batch and as many clusters as there can be. A thread joins with the
tables of another machine. -/
theorem construction_limits :
    let settings : Settings := {
      layout := .tables [0] [253], maxThreads := some 0xfffffffe, batchSize := some 0x7ffffffe }
    let config : Config := ⟨⟨[0], [253], 254⟩, 0xfffffffe, 0x7ffffffe, true⟩
    let schedule : List (Fin 2 × Action Entry Command) :=
      [(0, .join ⟨config, 0xffffffffffffffff⟩), (1, .join ⟨.pair, 7⟩), (1, .start .acquire)]
    let lock := Kind.hclh.algorithm.lock
    let before := System.init 2 (lock.create config)
    settings.build = .ok config ∧ config.Fits ∧
      Kind.hclh.Exact config (before.run lock.protocol schedule).1.shared := by
  intro settings config schedule lock before
  have hb : settings.build = .ok config := rfl
  exact ⟨hb, construction_exact hb .hclh schedule⟩

end SpinLocks
