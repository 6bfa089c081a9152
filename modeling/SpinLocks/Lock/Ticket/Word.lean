import SpinLocks.Text.Layout

namespace SpinLocks.Ticket

/-- Two 32-bit counters in one 64-bit word: the low half is the ticket that is called, the high half
the ticket that the next thread will draw. -/
structure Word where
  raw : UInt64
  deriving DecidableEq

namespace Word

def headOne : UInt64 := 1

def tailOne : UInt64 := 0x100000000

def ofCounters (head tail : UInt32) : Word :=
  ⟨tail.toUInt64 <<< 32 ||| head.toUInt64⟩

def free : Word := ⟨0⟩

def head (word : Word) : UInt32 :=
  word.raw.toUInt32

def tail (word : Word) : UInt32 :=
  (word.raw >>> 32).toUInt32

def queued (word : Word) : UInt32 :=
  word.tail - word.head

def isFree (word : Word) : Bool :=
  word.head == word.tail

def draw (word : Word) : Word :=
  ⟨word.raw + tailOne⟩

/-- Calls the next ticket. The last ticket of the count is followed by ticket zero, and the carry
must not reach the other counter. -/
def call (word : Word) : Word :=
  if word.head = 0xffffffff then ⟨word.raw - 0xffffffff⟩ else ⟨word.raw + headOne⟩

def drawIfFree? (word : Word) : Option Word :=
  let tail := word.tail
  if word = ofCounters tail tail then some (ofCounters tail (tail + 1)) else none

def text (word : Word) : String :=
  Text.tuple "TicketWord" (toString word.raw)

end Word

end SpinLocks.Ticket
