import SpinLocks.Lock
import SpinLocks.Lock.Ticket.Word
import SpinLocks.Text.Decimal

namespace SpinLocks

namespace Ticket

structure Own where
  ticket : UInt32
  queuedTotal : Nat
  acquires : Nat
  deriving DecidableEq

def Own.initial : Own := ⟨0, 0, 0⟩

namespace Own

/-- The mean number of threads that were before this one, with six decimals. -/
def avgQueue (own : Own) : String :=
  Text.fixed own.queuedTotal own.acquires 6

def text (own : Own) : String :=
  Text.record "TicketLocal" [
    ("ticket", toString own.ticket),
    ("queued_total", toString own.queuedTotal),
    ("acquires", toString own.acquires)]

def stats (own : Own) : Report := [
  ("ticket", .nat own.ticket.toNat),
  ("acquires", .nat own.acquires),
  ("queued_total", .nat own.queuedTotal),
  ("avg_queue", .text own.avgQueue)]

end Own

inductive Wait where
  | called
  deriving DecidableEq

def await (word : Word) (own : Own) : LockTurn Word Own Wait :=
  if word.head = own.ticket then ⟨word, own, .done .done⟩ else ⟨word, own, .waiting .called⟩

/-- The distance to the ticket now called is counted once, when the ticket is drawn. -/
def acquire (word : Word) (own : Own) : LockTurn Word Own Wait :=
  let ticket := word.tail
  let word := word.draw
  await word {
    ticket
    queuedTotal := own.queuedTotal + (ticket - word.head).toNat
    acquires := own.acquires + 1 }

def release (word : Word) (own : Own) : LockTurn Word Own Wait :=
  ⟨word.call, own, .done .done⟩

def tryAcquire (word : Word) (own : Own) : LockTurn Word Own Wait :=
  match word.drawIfFree? with
  | some drawn => ⟨drawn, { own with ticket := word.tail }, .done (.took true)⟩
  | none => ⟨word, own, .done (.took false)⟩

def start (command : Command) (word : Word) (own : Own) : LockTurn Word Own Wait :=
  command.exclusive word own acquire release tryAcquire

def resume : Wait → Word → Own → LockTurn Word Own Wait
  | .called => await

def info (word : Word) : Report := [
  ("name", .text "ticket"),
  ("raw", .nat word.raw.toNat),
  ("queued", .nat word.queued.toNat),
  ("word", .text word.text)]

end Ticket

/-- The ticket lock: a thread draws the next ticket and waits until it is called. Threads count how
often they drew a ticket and how many others were before them at the time. -/
def ticket : Lock Ticket.Word Ticket.Own Ticket.Wait where
  name := "ticket"
  create _ := Ticket.Word.free
  join _ word := (word, .ok Ticket.Own.initial)
  leave word _ := (word, none)
  start := Ticket.start
  resume := Ticket.resume
  isFree := Ticket.Word.isFree
  ownText := Ticket.Own.text
  stats := Ticket.Own.stats
  info := Ticket.info
  word := some fun word => .nats [word.head.toNat, word.tail.toNat]
  preset counters word :=
    match counters with
    | [head, tail] => .ofCounters (.ofNat head) (.ofNat tail)
    | _ => word

end SpinLocks
