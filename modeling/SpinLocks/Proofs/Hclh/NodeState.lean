import SpinLocks.Lock.Hclh.NodeState

namespace SpinLocks.Hclh.NodeState

theorem and_bit_ne_zero {raw bit : UInt32} {i : Nat} (hi : i < 32)
    (hb : bit.toBitVec = BitVec.twoPow 32 i) :
    (raw &&& bit != 0) = raw.toBitVec.getLsbD i := by
  have hz : BitVec.twoPow 32 i ≠ 0#32 := by
    intro he
    have h := congrArg (BitVec.getLsbD · i) he
    simp [hi] at h
  rw [Bool.eq_iff_iff, bne_iff_ne, ne_eq, ← UInt32.toBitVec_inj, UInt32.toBitVec_and, hb,
    BitVec.and_twoPow]
  by_cases h : raw.toBitVec.getLsbD i <;> simp [h, hz]

theorem mustWait_eq (state : NodeState) : state.mustWait = state.raw.toBitVec.getLsbD 0 :=
  and_bit_ne_zero (by decide) rfl

theorem spliced_eq (state : NodeState) : state.spliced = state.raw.toBitVec.getLsbD 8 :=
  and_bit_ne_zero (by decide) rfl

theorem setWidth_shiftRight_shiftLeft (cluster : BitVec 8) :
    (cluster.setWidth 32 <<< 16 >>> 16).setWidth 8 = cluster := by
  ext i hi
  have h : 16 + i < 32 := by omega
  simp [BitVec.getLsbD_eq_getElem hi, h]

@[simp]
theorem mustWait_granted (state : NodeState) : state.granted.mustWait = false := by
  simp [mustWait_eq, granted, mustWaitBit]

@[simp]
theorem spliced_granted (state : NodeState) : state.granted.spliced = state.spliced := by
  simp [spliced_eq, granted, mustWaitBit]

@[simp]
theorem cluster_granted (state : NodeState) : state.granted.cluster = state.cluster := by
  rw [← UInt8.toBitVec_inj]
  refine Eq.trans ?_ (BitVec.and_allOnes (x := state.cluster.toBitVec))
  simp [cluster, granted, mustWaitBit, BitVec.ushiftRight_and_distrib, UInt32.toBitVec_shiftRight]

@[simp]
theorem mustWait_markSpliced (state : NodeState) : state.markSpliced.mustWait = state.mustWait := by
  simp [mustWait_eq, markSpliced, splicedBit]

@[simp]
theorem spliced_markSpliced (state : NodeState) : state.markSpliced.spliced = true := by
  simp [spliced_eq, markSpliced, splicedBit]

@[simp]
theorem cluster_markSpliced (state : NodeState) : state.markSpliced.cluster = state.cluster := by
  rw [← UInt8.toBitVec_inj]
  simp [cluster, markSpliced, splicedBit, BitVec.ushiftRight_or_distrib, UInt32.toBitVec_shiftRight]

@[simp]
theorem mustWait_ofParts (cluster : UInt8) (mustWait spliced : Bool) :
    (ofParts cluster mustWait spliced).mustWait = mustWait := by
  cases mustWait <;> cases spliced <;> simp [mustWait_eq, ofParts, mustWaitBit, splicedBit]

@[simp]
theorem spliced_ofParts (cluster : UInt8) (mustWait spliced : Bool) :
    (ofParts cluster mustWait spliced).spliced = spliced := by
  cases mustWait <;> cases spliced <;> simp [spliced_eq, ofParts, mustWaitBit, splicedBit]

@[simp]
theorem cluster_ofParts (cluster : UInt8) (mustWait spliced : Bool) :
    (ofParts cluster mustWait spliced).cluster = cluster := by
  rw [← UInt8.toBitVec_inj]
  cases mustWait <;> cases spliced <;>
    simp [NodeState.cluster, ofParts, mustWaitBit, splicedBit, BitVec.ushiftRight_or_distrib,
      UInt32.toBitVec_shiftRight, setWidth_shiftRight_shiftLeft]

@[simp]
theorem mustWait_fresh (cluster : UInt8) : (fresh cluster).mustWait = true :=
  mustWait_ofParts ..

@[simp]
theorem spliced_fresh (cluster : UInt8) : (fresh cluster).spliced = false :=
  spliced_ofParts ..

@[simp]
theorem cluster_fresh (cluster : UInt8) : (fresh cluster).cluster = cluster :=
  cluster_ofParts ..

end SpinLocks.Hclh.NodeState
