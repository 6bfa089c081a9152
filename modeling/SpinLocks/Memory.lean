import SpinLocks.Failure

namespace SpinLocks.Memory

def number : Nat := 8

/-- The bytes that are kept for the word of a lock, so that no other word shares its cache line. -/
def line : Nat := 128

def limit : Nat := 0x7fffffffffffffff

/-- Makes room for a table of `count` entries of `size` bytes each. -/
def reserve (count size : Nat) : Except Fault Unit :=
  if count * size ≤ limit then .ok () else .error .capacityOverflow

end SpinLocks.Memory
