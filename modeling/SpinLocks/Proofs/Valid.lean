import SpinLocks.Proofs.Topology.Layouts

namespace SpinLocks

structure Config.Valid (config : Config) : Prop where
  clusters_pos : 0 < config.topology.numClusters
  clusters_le : config.topology.numClusters ≤ 254
  threads_pos : 0 < config.maxThreads
  threads_lt : config.maxThreads < 0xffffffff
  batch_pos : 0 < config.batchSize
  batch_lt : config.batchSize < 0x7fffffff

/-- Two clusters of one core each, for two threads. -/
def Config.pair : Config where
  topology := ⟨[0, 1], [0, 1], 2⟩
  maxThreads := 2
  batchSize := 1
  pinThreads := false

theorem Config.valid_pair : Config.pair.Valid := by
  constructor <;> decide

namespace Settings

variable {settings : Settings} {config : Config}

theorem topology_of_build (h : settings.build = .ok config) :
    settings.layout.topology = .ok config.topology ∧ config.invalid? = none := by
  cases ht : settings.layout.topology with
  | error why => simp [build, ht, bind, Except.bind] at h
  | ok topology =>
    simp only [build, ht, bind, Except.bind] at h
    split at h
    · cases h
    · next hi =>
      cases h
      exact ⟨rfl, hi⟩

/-- Whatever is built can be used. -/
theorem valid_of_build (h : settings.build = .ok config) : config.Valid := by
  obtain ⟨ht, hi⟩ := topology_of_build h
  have hpos := Layout.clusters_pos ht
  simp only [Config.invalid?] at hi
  split at hi
  · cases hi
  split at hi
  · cases hi
  split at hi
  · cases hi
  split at hi
  · cases hi
  constructor <;> omega

/-- The table of clusters has an entry for each core that is looked up. -/
theorem table_pos_of_build (h : settings.build = .ok config) :
    0 < config.topology.clusters.length :=
  List.length_pos_iff.mpr (Layout.complete (topology_of_build h).1).clusters_ne

end Settings

end SpinLocks
