import SpinLocks.Lock

namespace SpinLocks

namespace ArrayQueue

structure Shared where
  tail : UInt64
  flags : List Bool
  capacity : Nat
  participants : Nat
  deriving DecidableEq

structure Own where
  ticket : UInt64
  slot : Nat
  deriving DecidableEq

inductive Wait where
  | flag
  deriving DecidableEq

/-- A ring has two slots at least, so that the flag a release raises is not the one it lowers. -/
def create (config : Config) : Shared :=
  let slots := max config.maxThreads 2
  { tail := 0
    flags := (List.range slots).map (· == 0)
    capacity := config.maxThreads
    participants := 0 }

namespace Shared

def slotOf (shared : Shared) (ticket : Nat) : Nat :=
  ticket % shared.flags.length

def tailSlot (shared : Shared) : Nat :=
  shared.slotOf shared.tail.toNat

def isFree (shared : Shared) : Bool :=
  shared.flags[shared.tailSlot]?.getD false

end Shared

def join (_ : Entry) (shared : Shared) : Shared × Except LockError Own :=
  if shared.participants < shared.capacity then
    ({ shared with participants := shared.participants + 1 }, .ok ⟨0, 0⟩)
  else (shared, lackOfCapacity "array" shared.capacity)

def leave (shared : Shared) (_ : Own) : Shared × Option Fault :=
  ({ shared with participants := shared.participants - 1 }, none)

def await (shared : Shared) (own : Own) : LockTurn Shared Own Wait :=
  match shared.flags[own.slot]? with
  | some true => ⟨shared, own, .done .done⟩
  | some false => ⟨shared, own, .waiting .flag⟩
  | none => .fault shared own (.outOfBounds shared.flags.length own.slot)

def acquire (shared : Shared) (_ : Own) : LockTurn Shared Own Wait :=
  await { shared with tail := shared.tail + 1 } ⟨shared.tail, shared.tailSlot⟩

def release (shared : Shared) (own : Own) : LockTurn Shared Own Wait :=
  if own.slot < shared.flags.length then
    let flags := shared.flags.set own.slot false
    let next := shared.slotOf (own.slot + 1)
    ⟨{ shared with flags := flags.set next true }, own, .done .done⟩
  else .fault shared own (.outOfBounds shared.flags.length own.slot)

/-- A ticket is drawn only where its flag is raised already. -/
def tryAcquire (shared : Shared) (own : Own) : LockTurn Shared Own Wait :=
  match shared.flags[shared.tailSlot]? with
  | some true =>
    ⟨{ shared with tail := shared.tail + 1 }, ⟨shared.tail, shared.tailSlot⟩, .done (.took true)⟩
  | some false => ⟨shared, own, .done (.took false)⟩
  | none => .fault shared own (.outOfBounds shared.flags.length shared.tailSlot)

def start (command : Command) (shared : Shared) (own : Own) : LockTurn Shared Own Wait :=
  command.exclusive shared own acquire release tryAcquire

def resume : Wait → Shared → Own → LockTurn Shared Own Wait
  | .flag => await

def Own.text (own : Own) : String :=
  Text.record "ArrayLocal" [("ticket", toString own.ticket), ("slot", toString own.slot)]

end ArrayQueue

/-- The array queue lock: a ring of flags, one of them raised. A thread draws a ticket, which gives
it a slot of the ring, and waits until the flag of its slot is raised; a release lowers the flag of
its slot and raises the next. -/
def arrayQueue : Lock ArrayQueue.Shared ArrayQueue.Own ArrayQueue.Wait where
  name := "array"
  size := 2 * Memory.line
  create := ArrayQueue.create
  join := ArrayQueue.join
  leave := ArrayQueue.leave
  start := ArrayQueue.start
  resume := ArrayQueue.resume
  isFree := ArrayQueue.Shared.isFree
  ownText := ArrayQueue.Own.text
  stats own := [("ticket", .nat own.ticket.toNat), ("slot", .nat own.slot)]
  info shared := [("name", .text "array"), ("capacity", .nat shared.capacity)]

end SpinLocks
