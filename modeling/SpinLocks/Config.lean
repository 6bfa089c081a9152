import SpinLocks.Topology

namespace SpinLocks

structure Config where
  topology : Topology
  maxThreads : Nat
  batchSize : Nat
  pinThreads : Bool
  deriving DecidableEq

namespace Config

def defaultBatchSize : Nat := 128

/-- The first rule that a configuration breaks. Threads and nodes are counted in 32 bits, one count
being kept free, batches in 31 bits with their successor, and clusters in 8 bits with two numbers
to spare. -/
def invalid? (config : Config) : Option String :=
  if config.maxThreads = 0 then some "max_threads must be positive"
  else if 0xffffffff ≤ config.maxThreads then some "max_threads is too large"
  else if config.batchSize = 0 ∨ 0x7fffffff ≤ config.batchSize then some "batch_size out of range"
  else if 254 < config.topology.numClusters then some "too many clusters"
  else none

def text (config : Config) : String :=
  Text.record "Config" [
    ("topology", config.topology.text),
    ("max_threads", toString config.maxThreads),
    ("batch_size", toString config.batchSize),
    ("pin_threads", toString config.pinThreads)]

end Config

/-- The choices that were made for a configuration; the others take their defaults. -/
structure Settings where
  layout : Layout
  maxThreads : Option Nat := none
  batchSize : Option Nat := none
  pinThreads : Option Bool := none

namespace Settings

def build (settings : Settings) : Except Failure Config := do
  let topology ← settings.layout.topology
  let config : Config := {
    topology
    maxThreads := settings.maxThreads.getD topology.cores.length
    batchSize := settings.batchSize.getD Config.defaultBatchSize
    pinThreads := settings.pinThreads.getD true }
  match config.invalid? with
  | some reason => throw (.error (.invalidConfig reason))
  | none => return config

end Settings

end SpinLocks
