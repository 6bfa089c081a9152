import SpinLocks.Lock.TestAndSet
import SpinLocks.Lock.ReadWrite
import SpinLocks.Lock.Ticket
import SpinLocks.Lock.ArrayQueue
import SpinLocks.Lock.Clh
import SpinLocks.Lock.Mcs
import SpinLocks.Lock.Hclh
import SpinLocks.Lock.ClusterTicket

namespace SpinLocks

/-- A lock whose types of state are its own affair. -/
structure Algorithm where
  Shared : Type
  Own : Type
  Wait : Type
  lock : Lock Shared Own Wait

inductive Kind where
  | tas
  | ttas
  | array
  | clh
  | mcs
  | ticket
  | hclh
  | htlock
  | rwTtas
  deriving DecidableEq

namespace Kind

def all : List Kind := [tas, ttas, array, clh, mcs, ticket, hclh, htlock, rwTtas]

def name : Kind → String
  | tas => "tas"
  | ttas => "ttas"
  | array => "array"
  | clh => "clh"
  | mcs => "mcs"
  | ticket => "ticket"
  | hclh => "hclh"
  | htlock => "htlock"
  | rwTtas => "rw_ttas"

def label : Kind → String
  | tas => "Tas"
  | ttas => "Ttas"
  | array => "Array"
  | clh => "Clh"
  | mcs => "Mcs"
  | ticket => "Ticket"
  | hclh => "Hclh"
  | htlock => "HtLock"
  | rwTtas => "RwTtas"

def algorithm : Kind → Algorithm
  | tas => ⟨_, _, _, SpinLocks.tas⟩
  | ttas => ⟨_, _, _, SpinLocks.ttas⟩
  | array => ⟨_, _, _, arrayQueue⟩
  | clh => ⟨_, _, _, SpinLocks.clh⟩
  | mcs => ⟨_, _, _, SpinLocks.mcs⟩
  | ticket => ⟨_, _, _, SpinLocks.ticket⟩
  | hclh => ⟨_, _, _, SpinLocks.hclh⟩
  | htlock => ⟨_, _, _, clusterTicket⟩
  | rwTtas => ⟨_, _, _, readWrite⟩

theorem algorithm_name (kind : Kind) : kind.algorithm.lock.name = kind.name := by
  cases kind <;> rfl

def standard : Kind := ticket

/-- Whether a thread can attempt to take the lock without entering a queue for good. -/
def supportsTry : Kind → Bool
  | clh | hclh => false
  | _ => true

def lower (s : String) : List Char :=
  s.toList.map Char.toLower

def ofName (s : String) : Except Failure Kind :=
  match all.find? fun kind => lower kind.name == lower s with
  | some kind => .ok kind
  | none => .error (.error (.invalidConfig "unknown lock algorithm"))

end Kind

end SpinLocks
