import SpinLocks.Lock.Ticket.Word

namespace SpinLocks.Ticket

def number (start : UInt32) (i : Nat) : UInt32 :=
  start + .ofNat i

section Number

variable (start : UInt32) (i : Nat) {j k : Nat}

@[simp]
theorem number_zero : number start 0 = start :=
  UInt32.add_zero start

theorem number_add (k : Nat) : number start (i + k) = number (number start i) k := by
  rw [number, number, number, UInt32.ofNat_add, UInt32.add_assoc]

theorem number_succ : number start (i + 1) = number start i + 1 :=
  number_add start i 1

variable {start i}

theorem toNat_number_sub (hk : k < UInt32.size) : (number start k - start).toNat = k := by
  rw [number, UInt32.add_comm, UInt32.add_sub_cancel, UInt32.toNat_ofNat_of_lt' hk]

theorem number_inj (hi : i < UInt32.size) (hj : j < UInt32.size)
    (h : number start i = number start j) : i = j := by
  rw [← toNat_number_sub hi, h, toNat_number_sub hj]

theorem number_eq_self_iff (hk : k < UInt32.size) : start = number start k ↔ k = 0 := by
  constructor
  · intro h
    exact number_inj hk (by decide) (h.symm.trans (number_zero start).symm)
  · rintro rfl
    exact (number_zero start).symm

end Number

namespace Word

variable (word : Word)

theorem toNat_head : word.head.toNat = word.raw.toNat % 0x100000000 := by
  simp [head]

theorem toNat_tail : word.tail.toNat = word.raw.toNat / 0x100000000 := by
  have := word.raw.toNat_lt
  simp [tail, Nat.shiftRight_eq_div_pow]
  omega

/-- The two counters are all there is in a word. -/
theorem ext_counters {word other : Word} (hh : word.head = other.head)
    (ht : word.tail = other.tail) : word = other := by
  have hh := congrArg UInt32.toNat hh
  have ht := congrArg UInt32.toNat ht
  rw [toNat_head, toNat_head] at hh
  rw [toNat_tail, toNat_tail] at ht
  obtain ⟨raw⟩ := word
  obtain ⟨raw'⟩ := other
  congr 1
  apply UInt64.toNat_inj.mp
  simp only at hh ht
  omega

@[simp]
theorem head_draw : word.draw.head = word.head := by
  apply UInt32.toNat_inj.mp
  have := word.raw.toNat_lt
  simp only [toNat_head, draw, tailOne, UInt64.toNat_add]
  simp

@[simp]
theorem tail_draw : word.draw.tail = word.tail + 1 := by
  apply UInt32.toNat_inj.mp
  have := word.raw.toNat_lt
  simp only [toNat_tail, draw, tailOne, UInt64.toNat_add, UInt32.toNat_add]
  simp
  omega

theorem toNat_call :
    word.call.raw.toNat =
      if word.head = 0xffffffff then word.raw.toNat - 0xffffffff else word.raw.toNat + 1 := by
  have hraw := word.raw.toNat_lt
  have hhead := toNat_head word
  unfold call
  split
  · next h =>
    rw [h] at hhead
    have hle : (0xffffffff : UInt64) ≤ word.raw := by
      rw [UInt64.le_iff_toNat_le]
      simp at hhead ⊢
      omega
    rw [UInt64.toNat_sub_of_le _ _ hle]
    rfl
  · next h =>
    have hne : word.head.toNat ≠ 0xffffffff := fun he => h (UInt32.toNat_inj.mp he)
    rw [UInt64.toNat_add, headOne]
    simp
    omega

@[simp]
theorem head_call : word.call.head = word.head + 1 := by
  apply UInt32.toNat_inj.mp
  have hraw := word.raw.toNat_lt
  have hhead := toNat_head word
  rw [toNat_head, toNat_call, UInt32.toNat_add]
  split
  · next h =>
    rw [h] at hhead ⊢
    simp at hhead ⊢
    omega
  · simp
    omega

@[simp]
theorem tail_call : word.call.tail = word.tail := by
  apply UInt32.toNat_inj.mp
  have hhead := toNat_head word
  rw [toNat_tail, toNat_tail, toNat_call]
  split
  · next h =>
    rw [h] at hhead
    simp at hhead
    omega
  · next h =>
    have hne : word.head.toNat ≠ 0xffffffff := fun he => h (UInt32.toNat_inj.mp he)
    omega

theorem toNat_ofCounters (head tail : UInt32) :
    (ofCounters head tail).raw.toNat = tail.toNat * 0x100000000 + head.toNat := by
  have hh := head.toNat_lt
  have ht := tail.toNat_lt
  have hor := Nat.shiftLeft_add_eq_or_of_lt (i := 32) hh tail.toNat
  simp only [ofCounters, UInt64.toNat_or, UInt64.toNat_shiftLeft, UInt32.toNat_toUInt64]
  rw [show (32 : UInt64).toNat % 64 = 32 from rfl, Nat.mod_eq_of_lt, ← hor, Nat.shiftLeft_eq]
  rw [Nat.shiftLeft_eq]
  omega

@[simp]
theorem head_ofCounters (head tail : UInt32) : (ofCounters head tail).head = head := by
  apply UInt32.toNat_inj.mp
  have := head.toNat_lt
  rw [toNat_head, toNat_ofCounters]
  omega

@[simp]
theorem tail_ofCounters (head tail : UInt32) : (ofCounters head tail).tail = tail := by
  apply UInt32.toNat_inj.mp
  have := head.toNat_lt
  rw [toNat_tail, toNat_ofCounters]
  omega

theorem isFree_iff : word.isFree = true ↔ word.head = word.tail := by
  simp [isFree]

theorem drawIfFree?_eq :
    word.drawIfFree? = if word.head = word.tail then some word.draw else none := by
  have hfree : word = ofCounters word.tail word.tail ↔ word.head = word.tail := by
    constructor
    · intro h
      rw [h, head_ofCounters, tail_ofCounters]
    · intro h
      apply ext_counters <;> simp [h]
  have hdraw (h : word.head = word.tail) : ofCounters word.tail (word.tail + 1) = word.draw := by
    apply ext_counters <;> simp [h]
  simp only [drawIfFree?, hfree]
  split
  · next h => rw [hdraw h]
  · rfl

end Word

end SpinLocks.Ticket
