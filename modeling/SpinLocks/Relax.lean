import SpinLocks.Text.Layout

namespace SpinLocks

inductive Relax where
  | spin
  | yield
  | loop
  | spinBackoff (step : Nat)
  | yieldBackoff (step : Nat)
  deriving DecidableEq

namespace Relax

def spinLimit : Nat := 6

def yieldLimit : Nat := 10

/-- A step counts up to one above its limit. -/
def countTo (limit step : Nat) : Nat :=
  if step ≤ limit then step + 1 else step

def next : Relax → Relax
  | spinBackoff step => spinBackoff (countTo spinLimit step)
  | yieldBackoff step => yieldBackoff (countTo yieldLimit step)
  | strategy => strategy

def ofName? : String → Option Relax
  | "spin" | "default" => some spin
  | "yield" => some yield
  | "loop" => some loop
  | "spin_backoff" => some (spinBackoff 0)
  | "yield_backoff" => some (yieldBackoff 0)
  | _ => none

def stepText (name : String) (step : Nat) : String :=
  Text.record name [("step", Text.tuple "Step" (toString step))]

def text : Relax → String
  | spin => "Spin"
  | yield => "Yield"
  | loop => "Loop"
  | spinBackoff step => stepText "SpinBackoff" step
  | yieldBackoff step => stepText "YieldBackoff" step

/-- A strategy before, between and after a number of looks. -/
def course (strategy : Relax) : Nat → List Relax
  | 0 => [strategy]
  | looks + 1 => strategy :: strategy.next.course looks

end Relax

end SpinLocks
