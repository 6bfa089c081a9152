import SpinLocks.Text.Quoted

namespace SpinLocks.Text

inductive Shown where
  | int (value : Int)
  | flag (value : Bool)
  | text (value : String)

def padLeft (width : Nat) (pad : Char) (s : String) : String :=
  "".pushn pad (width - s.length) ++ s

def padRight (width : Nat) (pad : Char) (s : String) : String :=
  s.pushn pad (width - s.length)

/-- A number after zeros; its sign comes before them and counts towards the width. -/
def zeroPadded (width : Nat) (value : Int) : String :=
  if value < 0 then "-" ++ padLeft (width - 1) '0' (toString value.natAbs)
  else padLeft width '0' (toString value)

def signed (value : Int) : String :=
  if value < 0 then toString value else "+" ++ toString value

namespace Shown

def plain : Shown → String
  | int value => toString value
  | flag value => toString value
  | text value => value

def debug : Shown → String
  | text value => quoted value
  | shown => shown.plain

def rightAligned (width : Nat) (shown : Shown) : String :=
  padLeft width ' ' shown.plain

/-- Only numbers take zeros; other values stand to the left of blanks. -/
def filled (width : Nat) : Shown → String
  | int value => zeroPadded width value
  | shown => padRight width ' ' shown.plain

def withSign : Shown → String
  | int value => signed value
  | shown => shown.plain

end Shown

end SpinLocks.Text
