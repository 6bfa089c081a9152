import SpinLocks.Memory
import SpinLocks.Text.Layout

namespace SpinLocks

structure Topology where
  cores : List Nat
  clusters : List Nat
  numClusters : Nat
  deriving DecidableEq

/-- What a process learns of the machine it runs on when it asks: the cores it may run on, how many
threads may run at once, and whether the running thread is bound to a core. -/
structure Machine where
  coreIds : Option (List Nat)
  parallelism : Option Nat
  binds : Nat → Bool

namespace Topology

/-- Clusters of equal size, filled in the order of their cores. Either number counts as one where
it is zero; their product must fit in a 64-bit word, and a table of so many cores in memory. -/
def uniform (clusters coresPerCluster : Nat) : Except Fault Topology :=
  let clusters := max clusters 1
  let coresPerCluster := max coresPerCluster 1
  let total := clusters * coresPerCluster
  if total < UInt64.size then do
    Memory.reserve total Memory.number
    return {
      cores := List.range total
      clusters := (List.range total).map (· / coresPerCluster)
      numClusters := clusters }
  else .error .mulOverflow

/-- The number of clusters is one more than the largest number in the table, and must itself fit in
a 64-bit word. -/
def ofTables (cores clusters : List Nat) : Except Failure Topology :=
  if cores.isEmpty || clusters.isEmpty then
    .error (.error (.invalidConfig "topology tables must not be empty"))
  else if cores.any (clusters.length ≤ ·) then
    .error (.error (.invalidConfig "core without a cluster"))
  else
    let numClusters := clusters.foldl max 0 + 1
    if numClusters < UInt64.size then .ok { cores, clusters, numClusters }
    else .error (.fault .addOverflow)

/-- All cores that the process may run on, in one cluster. Where it learns of none, there are as
many as threads may run at once. -/
def detect (machine : Machine) : Except Fault Topology :=
  match machine.coreIds.getD [] with
  | [] => uniform 1 (machine.parallelism.getD 1)
  | cores =>
    let count := cores.foldl max 0 + 1
    if count < UInt64.size then do
      Memory.reserve count Memory.number
      return { cores, clusters := List.replicate count 0, numClusters := 1 }
    else .error .addOverflow

def coreFor (topology : Topology) (thread : Nat) : Nat :=
  topology.cores.getD (thread % topology.cores.length) 0

def clusterFor (topology : Topology) (core : Nat) : Nat :=
  topology.clusters.getD (core % topology.clusters.length) 0

def text (topology : Topology) : String :=
  Text.record "Topology" [
    ("cores", Text.nats topology.cores),
    ("clusters", Text.nats topology.clusters),
    ("num_clusters", toString topology.numClusters)]

def pin (machine : Machine) (core : Nat) : Except LockError Unit :=
  if machine.binds core then .ok () else .error (.pinning core)

end Topology

inductive Layout where
  | uniform (clusters coresPerCluster : Nat)
  | tables (cores clusters : List Nat)
  | detected (machine : Machine)

namespace Layout

def topology : Layout → Except Failure Topology
  | uniform clusters coresPerCluster =>
    (Topology.uniform clusters coresPerCluster).mapError .fault
  | tables cores clusters => Topology.ofTables cores clusters
  | detected machine => (Topology.detect machine).mapError .fault

end Layout

end SpinLocks
