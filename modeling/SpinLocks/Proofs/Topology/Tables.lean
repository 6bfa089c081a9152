import SpinLocks.Proofs.Valid

namespace SpinLocks

namespace Topology

variable {cores clusters : List Nat} {topology : Topology}

theorem refuses_ofTables_iff : Refuses (ofTables cores clusters) ↔ ¬ Tabled cores clusters := by
  constructor
  · rintro ⟨reason, hr⟩ ht
    rw [ht.ofTables_eq] at hr
    dsimp only at hr
    split at hr <;> cases hr
  · exact refuses_of_not_tabled

theorem ofTables_overflow_iff : ofTables cores clusters = .error (.fault .addOverflow) ↔
    Tabled cores clusters ∧ ¬ Numbered clusters := by
  obtain ⟨ht, reason, he⟩ | ⟨ht, hc, he⟩ | ⟨ht, hc, he⟩ := ofTables_cases cores clusters
  · simp [he, ht]
  · simp [he, ht, hc]
  · simp [he, hc]

theorem ofTables_ok (h : ofTables cores clusters = .ok topology) :
    topology.cores = cores ∧ topology.clusters = clusters ∧ topology.numClusters < UInt64.size ∧
      ∀ cluster ∈ clusters, cluster < topology.numClusters := by
  obtain ⟨-, hc, rfl⟩ := ofTables_ok_iff.mp h
  exact ⟨rfl, rfl, count_lt_size_iff.mpr hc, fun _ => lt_count⟩

end Topology

open SpinLocks.Topology

namespace Settings

variable {settings : Settings} {topology : Topology} {why : Failure}

theorem build_of_error (h : settings.layout.topology = .error why) :
    settings.build = .error why := by
  rw [build, h]
  rfl

/-- A topology with more clusters than a lock can number is refused. -/
theorem build_of_topology (h : settings.layout.topology = .ok topology) :
    Refuses settings.build ∨
      ∃ config, settings.build = .ok config ∧ topology.numClusters ≤ 254 := by
  cases hb : settings.build with
  | error why =>
    left
    simp only [build, h, bind, Except.bind] at hb
    split at hb
    · cases hb
      exact ⟨_, rfl⟩
    · cases hb
  | ok config =>
    have he := (topology_of_build hb).1.symm.trans h
    rw [← Except.ok.inj he]
    exact .inr ⟨config, rfl, (valid_of_build hb).clusters_le⟩

section Tables

variable {cores clusters : List Nat} (h : settings.layout = .tables cores clusters)
include h

theorem build_tables_overflow_iff : settings.build = .error (.fault .addOverflow) ↔
    Tabled cores clusters ∧ ¬ Numbered clusters := by
  have hlayout : settings.layout.topology = ofTables cores clusters := by rw [h, Layout.topology]
  rw [← ofTables_overflow_iff]
  cases ht : ofTables cores clusters with
  | error why => rw [build_of_error (hlayout.trans ht)]; simp
  | ok topology =>
    obtain ⟨reason, hb⟩ | ⟨config, hb, -⟩ := build_of_topology (hlayout.trans ht) <;> simp [hb]

theorem build_tables : settings.build = .error (.fault .addOverflow) ∨ Refuses settings.build ∨
    ∃ config, settings.build = .ok config ∧ ∀ cluster ∈ clusters, cluster < 254 := by
  have hlayout : settings.layout.topology = ofTables cores clusters := by rw [h, Layout.topology]
  obtain ⟨-, reason, he⟩ | ⟨-, -, he⟩ | ⟨-, -, he⟩ := ofTables_cases cores clusters
  · exact .inr (.inl ⟨reason, build_of_error (hlayout.trans he)⟩)
  · exact .inl (build_of_error (hlayout.trans he))
  · obtain hr | ⟨config, hb, hfew⟩ := build_of_topology (hlayout.trans he)
    · exact .inr (.inl hr)
    · exact .inr (.inr ⟨config, hb, fun _ hmem => Nat.lt_of_lt_of_le (lt_count hmem) hfew⟩)

end Tables

end Settings

/-- Tables are refused where a table is empty or a core has no cluster. The others make a topology
with more clusters than any number in the table, unless the count of the clusters overflows; and
where it does not, a configuration that is built of them has few clusters. -/
theorem tables_outcome (cores clusters : List Nat) :
    (Refuses (ofTables cores clusters) ↔ ¬ Tabled cores clusters) ∧
    (ofTables cores clusters = .error (.fault .addOverflow) ↔
      Tabled cores clusters ∧ ¬ Numbered clusters) ∧
    ((∃ topology, ofTables cores clusters = .ok topology) ↔
      Tabled cores clusters ∧ Numbered clusters) ∧
    (∀ topology, ofTables cores clusters = .ok topology →
      topology.cores = cores ∧ topology.clusters = clusters ∧
      topology.numClusters < UInt64.size ∧
      ∀ cluster ∈ clusters, cluster < topology.numClusters) ∧
    ∀ settings : Settings,
      let settings := { settings with layout := .tables cores clusters }
      (settings.build = .error (.fault .addOverflow) ↔
        Tabled cores clusters ∧ ¬ Numbered clusters) ∧
      (settings.build = .error (.fault .addOverflow) ∨ Refuses settings.build ∨
        ∃ config, settings.build = .ok config ∧ ∀ cluster ∈ clusters, cluster < 254) := by
  refine ⟨refuses_ofTables_iff, ofTables_overflow_iff, ?_, fun _ => ofTables_ok, fun settings => ?_⟩
  · simp [ofTables_ok_iff]
  · exact ⟨Settings.build_tables_overflow_iff rfl, Settings.build_tables rfl⟩

/-- A single cluster with the largest number there is. -/
theorem tables_overflow :
    Tabled [0] [0xffffffffffffffff] ∧
    ofTables [0] [0xffffffffffffffff] = .error (.fault .addOverflow) ∧
    Settings.build {
      layout := .tables [0] [0xffffffffffffffff], maxThreads := some 1, batchSize := some 1,
      pinThreads := some false } = .error (.fault .addOverflow) := by
  refine ⟨⟨?_, ?_, ?_⟩, rfl, rfl⟩ <;> decide

end SpinLocks
