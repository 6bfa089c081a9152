import SpinLocks.Config

namespace SpinLocks

namespace Topology

structure Tabled (cores clusters : List Nat) : Prop where
  cores_ne : cores ≠ []
  clusters_ne : clusters ≠ []
  core_lt : ∀ core ∈ cores, core < clusters.length

/-- No number of a cluster is the largest of 64 bits, or beyond. -/
def Numbered (clusters : List Nat) : Prop :=
  ∀ cluster ∈ clusters, cluster + 1 < UInt64.size

def Refuses {α : Type} (result : Except Failure α) : Prop :=
  ∃ reason, result = .error (.error (.invalidConfig reason))

/-- Each thread has a core, and each core has one of the clusters. -/
structure Complete (topology : Topology) : Prop where
  cores_ne : topology.cores ≠ []
  clusters_ne : topology.clusters ≠ []
  coreFor_eq : ∀ thread,
    topology.cores[thread % topology.cores.length]? = some (topology.coreFor thread)
  clusterFor_eq : ∀ core,
    topology.clusters[core % topology.clusters.length]? = some (topology.clusterFor core)
  clusterFor_lt : ∀ core, topology.clusterFor core < topology.numClusters

def blocks (count size : Nat) : Topology :=
  ⟨List.range (count * size), (List.range (count * size)).map (· / size), count⟩

variable {cores clusters : List Nat} {count size cluster : Nat} {topology : Topology}

section Tables

theorem foldl_max_lt_iff {numbers : List Nat} {low bound : Nat} :
    numbers.foldl max low < bound ↔ low < bound ∧ ∀ number ∈ numbers, number < bound := by
  induction numbers generalizing low with
  | nil => simp
  | cons number rest ih =>
    rw [List.foldl_cons, ih, Nat.max_lt, List.forall_mem_cons, and_assoc]

theorem count_lt_size_iff : clusters.foldl max 0 + 1 < UInt64.size ↔ Numbered clusters := by
  have hsize : 0 < UInt64.size - 1 := by decide
  rw [← Nat.lt_sub_iff_add_lt, foldl_max_lt_iff]
  simp only [hsize, true_and, Numbered, Nat.lt_sub_iff_add_lt]

theorem Tabled.ofTables_eq (h : Tabled cores clusters) :
    ofTables cores clusters =
      let numClusters := clusters.foldl max 0 + 1
      if numClusters < UInt64.size then .ok { cores, clusters, numClusters }
      else .error (.fault .addOverflow) := by
  have hnonempty : ¬ (cores.isEmpty || clusters.isEmpty) = true := by
    simp [h.cores_ne, h.clusters_ne]
  have hcores : ¬ cores.any (clusters.length ≤ ·) = true := by
    simpa using h.core_lt
  rw [ofTables, if_neg hnonempty, if_neg hcores]

theorem refuses_of_not_tabled (h : ¬ Tabled cores clusters) :
    Refuses (ofTables cores clusters) := by
  rw [ofTables]
  split
  · exact ⟨_, rfl⟩
  next hnonempty =>
  split
  · exact ⟨_, rfl⟩
  next hcores =>
  rw [Bool.or_eq_true, not_or, List.isEmpty_iff, List.isEmpty_iff] at hnonempty
  exact absurd ⟨hnonempty.1, hnonempty.2, by simpa using hcores⟩ h

/-- Tables are refused, are too much for the count of clusters, or make a topology. -/
theorem ofTables_cases (cores clusters : List Nat) :
    ¬ Tabled cores clusters ∧ Refuses (ofTables cores clusters) ∨
      Tabled cores clusters ∧ ¬ Numbered clusters ∧
        ofTables cores clusters = .error (.fault .addOverflow) ∨
      Tabled cores clusters ∧ Numbered clusters ∧
        ofTables cores clusters = .ok ⟨cores, clusters, clusters.foldl max 0 + 1⟩ := by
  by_cases ht : Tabled cores clusters
  · have he := ht.ofTables_eq
    dsimp only at he
    split at he
    · next hc => exact .inr (.inr ⟨ht, count_lt_size_iff.mp hc, he⟩)
    · next hc => exact .inr (.inl ⟨ht, mt count_lt_size_iff.mpr hc, he⟩)
  · exact .inl ⟨ht, refuses_of_not_tabled ht⟩

theorem ofTables_ok_iff : ofTables cores clusters = .ok topology ↔
    Tabled cores clusters ∧ Numbered clusters ∧
      topology = ⟨cores, clusters, clusters.foldl max 0 + 1⟩ := by
  obtain ⟨ht, reason, he⟩ | ⟨ht, hc, he⟩ | ⟨ht, hc, he⟩ := ofTables_cases cores clusters
  · simp [he, ht]
  · simp [he, hc]
  · simp [he, ht, hc, eq_comm]

theorem lt_count (hmem : cluster ∈ clusters) : cluster < clusters.foldl max 0 + 1 :=
  (foldl_max_lt_iff.mp (Nat.lt_succ_self _)).2 cluster hmem

end Tables

theorem Complete.of_tables (hcores : topology.cores ≠ []) (hclusters : topology.clusters ≠ [])
    (hlt : ∀ cluster ∈ topology.clusters, cluster < topology.numClusters) :
    topology.Complete := by
  have hentry : ∀ {table : List Nat}, table ≠ [] → ∀ i,
      table[i % table.length]? = some (table.getD (i % table.length) 0) := by
    intro table hne i
    have hi := Nat.mod_lt i (List.length_pos_iff.mpr hne)
    rw [List.getD_eq_getElem?_getD, List.getElem?_eq_getElem hi, Option.getD_some]
  exact {
    cores_ne := hcores
    clusters_ne := hclusters
    coreFor_eq := hentry hcores
    clusterFor_eq := hentry hclusters
    clusterFor_lt := fun core => hlt _ (List.mem_of_getElem? (hentry hclusters core)) }

section Uniform

theorem complete_blocks (hcount : 0 < count) (hsize : 0 < size) : (blocks count size).Complete := by
  have htotal : count * size ≠ 0 := Nat.ne_of_gt (Nat.mul_pos hcount hsize)
  refine .of_tables (by simpa [blocks] using htotal) (by simpa [blocks] using htotal) ?_
  intro cluster hmem
  obtain ⟨core, hcore, rfl⟩ := List.mem_map.mp hmem
  exact (Nat.div_lt_iff_lt_mul hsize).mpr (List.mem_range.mp hcore)

theorem eq_blocks {clusters coresPerCluster : Nat}
    (h : uniform clusters coresPerCluster = .ok topology) :
    topology = blocks (max clusters 1) (max coresPerCluster 1) := by
  simp only [uniform, bind, Except.bind, pure, Except.pure] at h
  split at h
  · split at h
    · cases h
    · cases h
      rfl
  · cases h

end Uniform

/-- All cores that are detected are in the table of one cluster. -/
theorem complete_detect {machine : Machine} (h : detect machine = .ok topology) :
    topology.Complete := by
  simp only [detect, bind, Except.bind, pure, Except.pure] at h
  split at h
  · rw [eq_blocks h]
    exact complete_blocks Nat.one_pos (Nat.lt_of_lt_of_le Nat.one_pos (Nat.le_max_right ..))
  · next cores hne =>
    split at h
    · split at h
      · cases h
      · cases h
        exact .of_tables hne (by simp) (by simp)
    · cases h

end Topology

open SpinLocks.Topology

namespace Layout

variable {layout : Layout} {topology : Topology} {clusters coresPerCluster : Nat}

theorem eq_ok_of_mapError {result : Except Fault Topology}
    (h : result.mapError Failure.fault = .ok topology) : result = .ok topology := by
  cases result with
  | error cause => cases h
  | ok found =>
    cases h
    rfl

theorem eq_blocks (h : (uniform clusters coresPerCluster).topology = .ok topology) :
    topology = blocks (max clusters 1) (max coresPerCluster 1) :=
  Topology.eq_blocks (eq_ok_of_mapError h)

theorem one_le_max (number : Nat) : 0 < max number 1 :=
  Nat.lt_of_lt_of_le Nat.one_pos (Nat.le_max_right number 1)

theorem complete (h : layout.topology = .ok topology) : topology.Complete := by
  cases layout with
  | uniform clusters coresPerCluster =>
    rw [eq_blocks h]
    exact complete_blocks (one_le_max _) (one_le_max _)
  | tables cores clusters =>
    obtain ⟨ht, -, rfl⟩ := ofTables_ok_iff.mp h
    exact .of_tables ht.cores_ne ht.clusters_ne fun _ => lt_count
  | detected machine =>
    exact complete_detect (eq_ok_of_mapError h)

theorem clusters_pos (h : layout.topology = .ok topology) : 0 < topology.numClusters :=
  Nat.zero_lt_of_lt ((complete h).clusterFor_lt 0)

end Layout

end SpinLocks
