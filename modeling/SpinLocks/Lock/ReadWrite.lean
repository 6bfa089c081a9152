import SpinLocks.Lock
import SpinLocks.Backoff

namespace SpinLocks

namespace ReadWrite

/-- A lock for readers and writers in one 16-bit word: the low byte counts readers, and the bit
above it is a writer. A thread waits until the word admits it, and then changes the word at once. -/
structure Word where
  raw : UInt16
  deriving DecidableEq

namespace Word

def maxReaders : UInt16 := 0xff

def writer : UInt16 := 0x100

def free : Word := ⟨0⟩

def readers (word : Word) : UInt16 :=
  word.raw &&& maxReaders

def isWriteLocked (word : Word) : Bool :=
  word.raw &&& writer != 0

def admitsReader (word : Word) : Bool :=
  !word.isWriteLocked && word.readers < maxReaders

def isFree (word : Word) : Bool :=
  word.raw == 0

/-- One more reader. The reader count of a word that admits one is below the largest, so there is
no carry. -/
def enter (word : Word) : Word :=
  ⟨word.raw + 1⟩

def exit (word : Word) : Word :=
  ⟨word.raw - 1⟩

def text (word : Word) : String :=
  Text.tuple "RwWord" (toString word.raw)

end Word

inductive Wait where
  | reading
  | writing
  deriving DecidableEq

def acquireRead (word : Word) (own : Backoff) : LockTurn Word Backoff Wait :=
  if word.admitsReader then ⟨word.enter, own, .done .done⟩ else ⟨word, own, .waiting .reading⟩

def acquireWrite (word : Word) (own : Backoff) : LockTurn Word Backoff Wait :=
  if word.isFree then ⟨⟨Word.writer⟩, own, .done .done⟩ else ⟨word, own, .waiting .writing⟩

def tryRead (word : Word) (own : Backoff) : LockTurn Word Backoff Wait :=
  if word.admitsReader then ⟨word.enter, own, .done (.took true)⟩
  else ⟨word, own, .done (.took false)⟩

def tryWrite (word : Word) (own : Backoff) : LockTurn Word Backoff Wait :=
  if word.isFree then ⟨⟨Word.writer⟩, own, .done (.took true)⟩
  else ⟨word, own, .done (.took false)⟩

def releaseRead (word : Word) (own : Backoff) : LockTurn Word Backoff Wait :=
  ⟨word.exit, own, .done .done⟩

def releaseWrite (_ : Word) (own : Backoff) : LockTurn Word Backoff Wait :=
  ⟨Word.free, own, .done .done⟩

def start : Command → Word → Backoff → LockTurn Word Backoff Wait
  | .acquire | .acquireWrite => acquireWrite
  | .release | .releaseWrite => releaseWrite
  | .tryAcquire => tryWrite
  | .acquireRead => acquireRead
  | .releaseRead => releaseRead
  | .tryAcquireRead => tryRead

def resume : Wait → Word → Backoff → LockTurn Word Backoff Wait
  | .reading => acquireRead
  | .writing => acquireWrite

def info (word : Word) : Report := [
  ("name", .text "rw_ttas"),
  ("raw", .nat word.raw.toNat),
  ("readers", .nat word.readers.toNat),
  ("write_locked", .flag word.isWriteLocked),
  ("admits_reader", .flag word.admitsReader),
  ("is_free", .flag word.isFree),
  ("word", .text word.text)]

end ReadWrite

def readWrite : Lock ReadWrite.Word Backoff ReadWrite.Wait where
  name := "rw_ttas"
  create _ := ReadWrite.Word.free
  join _ word := (word, .ok Backoff.initial)
  leave word _ := (word, none)
  start := ReadWrite.start
  resume := ReadWrite.resume
  isFree := ReadWrite.Word.isFree
  ownText := Backoff.text
  stats backoff := [("limit", .nat backoff.limit)]
  info := ReadWrite.info
  word := some fun word => .nat word.raw.toNat
  preset raw word :=
    match raw with
    | [raw] => ⟨.ofNat raw⟩
    | _ => word

end SpinLocks
