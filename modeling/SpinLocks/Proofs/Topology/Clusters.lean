import Mathlib.Data.Nat.Periodic
import SpinLocks.Proofs.Dimensions
import SpinLocks.Proofs.Misuse
import SpinLocks.Proofs.Topology.Tables

namespace SpinLocks

namespace Topology

/-- Threads fill the clusters one after the other, `size` threads each, and then begin again. -/
structure Even (topology : Topology) (count size : Nat) : Prop where
  numClusters_eq : topology.numClusters = count
  clusterFor_eq : ∀ thread,
    topology.clusterFor (topology.coreFor thread) = thread % (count * size) / size
  card_eq : ∀ start cluster, cluster < count →
    ((Finset.Ico start (start + count * size)).filter fun thread =>
      topology.clusterFor (topology.coreFor thread) = cluster).card = size

variable {topology : Topology} {count size cluster : Nat}

section Uniform

variable (hcount : 0 < count) (hsize : 0 < size)
include hcount hsize

theorem coreFor_blocks (thread : Nat) :
    (blocks count size).coreFor thread = thread % (count * size) := by
  have hlt := Nat.mod_lt thread (Nat.mul_pos hcount hsize)
  simp [coreFor, blocks, hlt]

theorem clusterFor_blocks (thread : Nat) :
    (blocks count size).clusterFor ((blocks count size).coreFor thread) =
      thread % (count * size) / size := by
  have hlt := Nat.mod_lt thread (Nat.mul_pos hcount hsize)
  rw [coreFor_blocks hcount hsize]
  simp [clusterFor, blocks, hlt]

omit hcount in
theorem filter_div_eq (hcluster : cluster < count) :
    ((Finset.range (count * size)).filter fun core => core / size = cluster) =
      Finset.Ico (cluster * size) (cluster * size + size) := by
  have hle : cluster * size + size ≤ count * size := by
    rw [← Nat.succ_mul]
    exact Nat.mul_le_mul_right size hcluster
  ext core
  simp only [Finset.mem_filter, Finset.mem_range, Finset.mem_Ico, Nat.div_eq_iff hsize]
  omega

theorem even_blocks : (blocks count size).Even count size where
  numClusters_eq := rfl
  clusterFor_eq := clusterFor_blocks hcount hsize
  card_eq := by
    intro start cluster hcluster
    have hperiodic : Function.Periodic
        (fun thread => thread % (count * size) / size = cluster) (count * size) := fun thread => by
      simp only [Nat.add_mod_right]
    have hrange : ((Finset.range (count * size)).filter fun thread =>
        thread % (count * size) / size = cluster) =
        (Finset.range (count * size)).filter fun thread => thread / size = cluster :=
      Finset.filter_congr fun thread hthread => by
        rw [Nat.mod_eq_of_lt (Finset.mem_range.mp hthread)]
    simp only [clusterFor_blocks hcount hsize]
    -- each core comes once among so many threads
    rw [Nat.filter_Ico_card_eq_of_periodic start _ _ hperiodic, Nat.count_eq_card_filter_range,
      hrange, filter_div_eq hsize hcluster, Nat.card_Ico, Nat.add_sub_cancel_left]

end Uniform

end Topology

open SpinLocks.Topology

namespace Layout

variable {topology : Topology} {clusters coresPerCluster : Nat}

theorem even (h : (uniform clusters coresPerCluster).topology = .ok topology) :
    topology.Even (max clusters 1) (max coresPerCluster 1) := by
  rw [eq_blocks h]
  exact even_blocks (one_le_max _) (one_le_max _)

end Layout

/-- A thread that joins with the configuration of the lock is put in the cluster that the topology
gives to its core. One that joins with any other is put in one of the clusters that the lock has. -/
structure Assigns {Shared Own Wait : Type} (lock : Lock Shared Own Wait) (cluster : Own → Nat)
    (count : Shared → Nat) (room : Shared → Prop) (config : Config) (shared : Shared) : Prop where
  count_eq : count shared = config.topology.numClusters
  joins_iff : ∀ entry, (∃ own, (lock.join entry shared).2 = .ok own) ↔ room shared
  cluster_eq : ∀ core own, (lock.join ⟨config, core⟩ shared).2 = .ok own →
    cluster own = config.topology.clusterFor core
  cluster_lt : ∀ entry own, (lock.join entry shared).2 = .ok own → cluster own < count shared

namespace Assigns

variable {Shared Own Wait : Type} {lock : Lock Shared Own Wait} {cluster : Own → Nat}
  {count : Shared → Nat} {room : Shared → Prop} {config : Config} {shared : Shared}

/-- What the table says is counted off among the clusters of the lock, which changes nothing where
the table is the lock's own. -/
theorem of_mod (hc : config.topology.Complete) (hcount : count shared = config.topology.numClusters)
    (hjoins : ∀ entry, (∃ own, (lock.join entry shared).2 = .ok own) ↔ room shared)
    (hmod : ∀ entry own, (lock.join entry shared).2 = .ok own →
      cluster own = entry.config.topology.clusterFor entry.core % count shared) :
    Assigns lock cluster count room config shared where
  count_eq := hcount
  joins_iff := hjoins
  cluster_eq core own hown := by
    rw [hmod _ own hown, hcount]
    exact Nat.mod_eq_of_lt (hc.clusterFor_lt core)
  cluster_lt entry own hown := by
    have hpos : 0 < count shared := hcount ▸ Nat.zero_lt_of_lt (hc.clusterFor_lt 0)
    rw [hmod entry own hown]
    exact Nat.mod_lt _ hpos

end Assigns

namespace ClusterTicket

variable {n : Nat} {config : Config}

theorem assigns (hv : config.Valid) (hc : config.topology.Complete)
    (schedule : List (Fin n × Action Entry Command)) :
    let before := System.init n (create config)
    Assigns clusterTicket Own.cluster (fun shared => shared.clusters.length) (fun _ => True) config
      (before.run clusterTicket.protocol schedule).1.shared := by
  intro before
  have hb := ((sound_create hv n).run (robust hv) schedule).1.shared
  refine .of_mod hc hb.length_eq (fun entry => ?_) ?_
  · exact ⟨fun _ => trivial, fun _ => ⟨_, rfl⟩⟩
  · rintro entry own ⟨⟩
    rfl

end ClusterTicket

namespace Hclh

variable {n : Nat} {config : Config}

theorem join_ok_iff {shared : Shared} (entry : Entry) (hq : 0 < shared.queues.length)
    (hq' : shared.queues.length ≤ 256) :
    (∃ own, (join entry shared).2 = .ok own) ↔ shared.nodes.HasRoom := by
  obtain ⟨hnone, hjoin⟩ | ⟨k, cluster, hk, hfree, -, -, hjoin⟩ := join_cases entry hq hq'
  · have hfull := Arena.not_hasRoom_of_claim? hnone
    rw [hjoin]
    exact ⟨fun ⟨own, he⟩ => (by cases he), fun hroom => absurd hroom hfull⟩
  · rw [hjoin]
    exact ⟨fun _ => ⟨k, hk, hfree⟩, fun _ => ⟨_, rfl⟩⟩

theorem assigns (hv : config.Valid) (hc : config.topology.Complete)
    (schedule : List (Fin n × Action Entry Command)) :
    let before := System.init n (create config)
    Assigns hclh (fun own => own.cluster.toNat) (fun shared => shared.queues.length)
      (fun shared => shared.nodes.HasRoom) config (before.run hclh.protocol schedule).1.shared := by
  intro before
  have hcount : (before.run hclh.protocol schedule).1.shared.queues.length =
      config.topology.numClusters :=
    (keeps_clusters.run before schedule).trans List.length_replicate
  have hpos := hv.clusters_pos
  have hle := hv.clusters_le
  exact .of_mod hc hcount (fun entry => join_ok_iff entry (by omega) (by omega))
    fun entry own => toNat_cluster_join (by omega) (by omega)

end Hclh

/-- Whatever the tables of a topology hold, each thread and each core has its place in them, and the
locks of a configuration with that topology put each core in its place. -/
theorem clusters_assigned {layout : Layout} {topology : Topology}
    (h : layout.topology = .ok topology) :
    topology.Complete ∧
    (∀ clusters coresPerCluster, layout = .uniform clusters coresPerCluster →
      topology.Even (max clusters 1) (max coresPerCluster 1)) ∧
    ∀ (settings : Settings) (config : Config), settings.layout = layout →
      settings.build = .ok config → config.topology = topology ∧
      ∀ (n : Nat) (schedule : List (Fin n × Action Entry Command)),
        let tickets := System.init n (clusterTicket.create config)
        let queues := System.init n (hclh.create config)
        Assigns clusterTicket ClusterTicket.Own.cluster (fun shared => shared.clusters.length)
          (fun _ => True) config (tickets.run clusterTicket.protocol schedule).1.shared ∧
        Assigns hclh (fun own => own.cluster.toNat) (fun shared => shared.queues.length)
          (fun shared => shared.nodes.HasRoom) config (queues.run hclh.protocol schedule).1.shared := by
  refine ⟨Layout.complete h, ?_, ?_⟩
  · rintro clusters coresPerCluster rfl
    exact Layout.even h
  · intro settings config hlayout hb
    have htopology : config.topology = topology := by
      obtain ⟨hok, -⟩ := Settings.topology_of_build hb
      rw [hlayout, h] at hok
      exact (Except.ok.inj hok).symm
    have hv := Settings.valid_of_build hb
    have hc : config.topology.Complete := htopology ▸ Layout.complete h
    exact ⟨htopology, fun n schedule =>
      ⟨ClusterTicket.assigns hv hc schedule, Hclh.assigns hv hc schedule⟩⟩

/-- Two clusters of three cores. The last six numbers of 64 bits begin in the middle of a cluster,
and the first thread to join has the tables of another machine. -/
theorem clusters_assigned_shifted :
    let layout : Layout := .uniform 2 3
    let topology : Topology := ⟨[0, 1, 2, 3, 4, 5], [0, 0, 0, 1, 1, 1], 2⟩
    let settings : Settings := { layout, maxThreads := some 2, batchSize := some 1 }
    let config : Config := ⟨topology, 2, 1, true⟩
    let schedule : List (Fin 2 × Action Entry Command) :=
      [(0, .join ⟨.pair, 7⟩), (0, .start .acquire)]
    let queues := System.init 2 (hclh.create config)
    layout.topology = .ok topology ∧ settings.build = .ok config ∧
      topology.clusterFor (topology.coreFor 0xffffffffffffffff) = 1 ∧
      ((Finset.Ico 0xfffffffffffffffa (0xfffffffffffffffa + 2 * 3)).filter fun thread =>
        topology.clusterFor (topology.coreFor thread) = 1).card = 3 ∧
      Assigns hclh (fun own => own.cluster.toNat) (fun shared => shared.queues.length)
        (fun shared => shared.nodes.HasRoom) config (queues.run hclh.protocol schedule).1.shared := by
  intro layout topology settings config schedule queues
  have h : layout.topology = .ok topology := rfl
  have hb : settings.build = .ok config := rfl
  obtain ⟨-, heven, hassigns⟩ := clusters_assigned h
  have hlast := (heven 2 3 rfl).clusterFor_eq 0xffffffffffffffff
  have hcard := (heven 2 3 rfl).card_eq 0xfffffffffffffffa 1 Nat.one_lt_two
  exact ⟨h, hb, hlast, hcard, ((hassigns settings config rfl hb).2 2 schedule).2⟩

end SpinLocks
