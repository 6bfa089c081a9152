import SpinLocks.Text.Layout

namespace SpinLocks.Hclh

/-- The state of a node of the hierarchical queue in one 32-bit word: whether the successor must
wait, whether the node was the last of a local queue when that was spliced, and the cluster of its
thread. -/
structure NodeState where
  raw : UInt32
  deriving DecidableEq

namespace NodeState

def mustWaitBit : UInt32 := 1

def splicedBit : UInt32 := 0x100

def ofParts (cluster : UInt8) (mustWait spliced : Bool) : NodeState :=
  ⟨cluster.toUInt32 <<< 16 ||| (if mustWait then mustWaitBit else 0)
    ||| (if spliced then splicedBit else 0)⟩

def mustWait (state : NodeState) : Bool :=
  state.raw &&& mustWaitBit != 0

def spliced (state : NodeState) : Bool :=
  state.raw &&& splicedBit != 0

def cluster (state : NodeState) : UInt8 :=
  (state.raw >>> 16).toUInt8

def fresh (cluster : UInt8) : NodeState :=
  ofParts cluster true false

def granted (state : NodeState) : NodeState :=
  ⟨state.raw &&& ~~~mustWaitBit⟩

def markSpliced (state : NodeState) : NodeState :=
  ⟨state.raw ||| splicedBit⟩

def text (state : NodeState) : String :=
  Text.tuple "QNodeState" (toString state.raw)

end NodeState

end SpinLocks.Hclh
