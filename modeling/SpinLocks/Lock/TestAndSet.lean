import SpinLocks.Lock
import SpinLocks.Backoff

namespace SpinLocks

namespace TestAndSet

inductive Wait where
  | lowered
  deriving DecidableEq

variable {Own : Type}

def acquire (raised : Bool) (own : Own) : LockTurn Bool Own Wait :=
  if raised then ⟨true, own, .waiting .lowered⟩ else ⟨true, own, .done .done⟩

def release (_ : Bool) (own : Own) : LockTurn Bool Own Wait :=
  ⟨false, own, .done .done⟩

def tryAcquire (raised : Bool) (own : Own) : LockTurn Bool Own Wait :=
  ⟨true, own, .done (.took !raised)⟩

def start (command : Command) (raised : Bool) (own : Own) : LockTurn Bool Own Wait :=
  command.exclusive raised own acquire release tryAcquire

def resume : Wait → Bool → Own → LockTurn Bool Own Wait
  | .lowered => acquire

end TestAndSet

def tas : Lock Bool Unit TestAndSet.Wait where
  name := "tas"
  create _ := false
  join _ raised := (raised, .ok ())
  leave raised _ := (raised, none)
  start := TestAndSet.start
  resume := TestAndSet.resume
  isFree raised := !raised
  ownText _ := "()"
  stats _ := []
  info _ := [("name", .text "tas")]

/-- Reads the flag before its first attempt. The backoff of a thread widens when an attempt fails
after the flag was read lowered; no other thread runs in between, so in a turn that never happens.
-/
def ttas : Lock Bool Backoff TestAndSet.Wait where
  name := "ttas"
  create _ := false
  join _ raised := (raised, .ok Backoff.initial)
  leave raised _ := (raised, none)
  start := TestAndSet.start
  resume := TestAndSet.resume
  isFree raised := !raised
  ownText := Backoff.text
  stats backoff := [("limit", .nat backoff.limit)]
  info _ := [("name", .text "ttas")]

end SpinLocks
