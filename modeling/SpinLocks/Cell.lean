import SpinLocks.Failure

namespace SpinLocks

/-- The numbers that a cell can hold: all from `low` on, `size` of them. -/
structure Cell.Width where
  low : Int
  size : Nat
  deriving DecidableEq

inductive Cell.Step where
  | compareAndSwap (expected value : Int)
  | swap (value : Int)
  | fetchAndIncrement
  | fetchAndDecrement
  | incrementAndFetch
  | decrementAndFetch
  | fetchAndAdd (value : Int)
  | testAndSet
  deriving DecidableEq

inductive Cell.Outcome where
  | number (value : Int)
  | raised (value : Bool)
  | refused (cause : Refusal)
  deriving DecidableEq

namespace Cell

namespace Width

def unsigned (bits : Nat) : Width := ⟨0, Nat.pow 2 bits⟩

def signed (bits : Nat) : Width := ⟨-Int.pow 2 (bits - 1), Nat.pow 2 bits⟩

def byte : Width := unsigned 8

def ofName? : String → Option Width
  | "u8" => some byte
  | "u16" => some (unsigned 16)
  | "u32" => some (unsigned 32)
  | "u64" | "usize" => some (unsigned 64)
  | "i32" => some (signed 32)
  | _ => none

def holds (width : Width) (value : Int) : Bool :=
  width.low ≤ value && value < width.low + width.size

/-- The number in range that differs from the given one by a multiple of the size. -/
def wrap (width : Width) (value : Int) : Int :=
  (value - width.low) % width.size + width.low

end Width

def testAndSet (held : Int) : Outcome × Int :=
  if held = 0 then (.raised false, 1) else (.raised true, held)

def step (width : Width) (held : Int) : Step → Outcome × Int
  | .compareAndSwap expected value =>
    (.number held, if held = width.wrap expected then width.wrap value else held)
  | .swap value => (.number held, width.wrap value)
  | .fetchAndIncrement => (.number held, width.wrap (held + 1))
  | .fetchAndDecrement => (.number held, width.wrap (held - 1))
  | .incrementAndFetch => (.number (width.wrap (held + 1)), width.wrap (held + 1))
  | .decrementAndFetch => (.number (width.wrap (held - 1)), width.wrap (held - 1))
  | .fetchAndAdd value => (.number held, width.wrap (held + value))
  | .testAndSet =>
    if width = .byte then testAndSet held else (.refused .noSuchOperation, held)

def run (width : Width) (held : Int) : List (Option Step) → List (Outcome × Int)
  | [] => []
  | none :: rest => (.refused .noSuchOperation, held) :: run width held rest
  | some taken :: rest =>
    let (outcome, held) := step width held taken
    (outcome, held) :: run width held rest

def runFlag (raised : Bool) : Nat → List (Bool × Bool)
  | 0 => []
  | times + 1 => (raised, true) :: runFlag true times

end Cell

end SpinLocks
