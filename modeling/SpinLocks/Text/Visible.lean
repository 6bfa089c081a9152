import SpinLocks.Text.CharClass

namespace SpinLocks.Text

def inRanges (ranges : List (Nat × Nat)) (code : Nat) : Bool :=
  ranges.any fun (low, high) => low ≤ code && code ≤ high

def isVisible (c : Char) : Bool :=
  let code := c.toNat
  if code < 0x80 then 0x20 ≤ code && code < 0x7f
  else [unprinted, combining, ignored, unassigned].all fun ranges => !inRanges ranges code

end SpinLocks.Text
