namespace SpinLocks

/-- Delays of a thread that lost a race, drawn from a window that doubles with each loss. -/
structure Backoff where
  limit : Nat
  deriving DecidableEq

namespace Backoff

def initial : Backoff := ⟨1⟩

def maxDelay : Nat := 1000

def widen (backoff : Backoff) : Backoff :=
  ⟨min maxDelay (2 * backoff.limit)⟩

/-- The windows before, between and after a number of losses. -/
def windows (backoff : Backoff) : Nat → List Nat
  | 0 => [backoff.limit]
  | losses + 1 => backoff.limit :: backoff.widen.windows losses

def widenTimes (backoff : Backoff) : Nat → Backoff
  | 0 => backoff
  | losses + 1 => backoff.widen.widenTimes losses

def text (backoff : Backoff) : String :=
  s!"limit: {backoff.limit}"

end Backoff

end SpinLocks
