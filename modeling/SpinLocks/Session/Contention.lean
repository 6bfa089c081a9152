import SpinLocks.System
import SpinLocks.Guarded

namespace SpinLocks.Session.Contention

abbrev Command := Guarded.Command Nat Nat

def countUp : Command := .lockThen fun count => (count + 1, .ok count)

def look : Command := .readThen .ok

def round (reads : Bool) (number : Nat) : Command :=
  if reads && number % 2 = 1 then look else countUp

structure Report where
  count : Nat
  free : Bool

variable {LockShared Local Point : Type} (lock : Lock LockShared Local Point) {n : Nat}

abbrev State (LockShared Local Point : Type) (n : Nat) :=
  System (Guarded.Shared LockShared Nat) (Guarded.Own Local) (Guarded.Wait Point Nat Nat) n

def protocol :
    Protocol (Guarded.Shared LockShared Nat) (Guarded.Own Local) (Guarded.Wait Point Nat Nat)
      Entry Command (Guarded.Reply Nat) :=
  Guarded.protocol lock

def joinEach (config : Config) (s : State LockShared Local Point n) :
    List (Fin n) → Except Failure (State LockShared Local Point n)
  | [] => .ok s
  | t :: rest =>
    match s.join (protocol lock) t { config, core := config.topology.coreFor t } with
    | (_, .failed why) => .error why
    | (s, _) => joinEach config s rest

def rounds (reads : Bool) (count : Nat) (s : State LockShared Local Point n) (t : Fin n) :
    State LockShared Local Point n :=
  (List.range count).foldl (fun s number => (s.start (protocol lock) t (round reads number)).1) s

def leaveEach (s : State LockShared Local Point n) (threads : List (Fin n)) :
    State LockShared Local Point n :=
  threads.foldl (fun s t => (s.leave (protocol lock) t).1) s

def run (config : Config) (threads count : Nat) (reads : Bool) : Except Failure Report := do
  let all := List.finRange threads
  let s ← joinEach lock config (System.init threads ⟨lock.create config, 0⟩) all
  let s := leaveEach lock (all.foldl (rounds lock reads count) s) all
  return { count := s.shared.data, free := lock.isFree s.shared.lock }

end SpinLocks.Session.Contention
