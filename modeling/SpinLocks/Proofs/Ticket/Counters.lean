import Mathlib.Algebra.GroupWithZero.Nat
import Mathlib.Algebra.Ring.Int.Defs
import SpinLocks.Lock.Ticket
import SpinLocks.Proofs.Ticket.Word
import SpinLocks.Proofs.View

namespace SpinLocks.Ticket

/-- The ticket that is called, and the ticket that is drawn next. -/
structure Counters where
  head : Nat
  tail : Nat
  deriving DecidableEq

namespace Counters

structure Own where
  ticket : Nat
  queuedTotal : Nat
  acquires : Nat
  deriving DecidableEq

def draw (counters : Counters) : Counters :=
  { counters with tail := (counters.tail + 1) % 2 ^ 32 }

def call (counters : Counters) : Counters :=
  { counters with head := (counters.head + 1) % 2 ^ 32 }

def queued (counters : Counters) : Nat :=
  (((counters.tail : Int) - counters.head) % 2 ^ 32).toNat

def await (counters : Counters) (own : Own) : LockTurn Counters Own Wait :=
  if counters.head = own.ticket then ⟨counters, own, .done .done⟩
  else ⟨counters, own, .waiting .called⟩

def acquire (counters : Counters) (own : Own) : LockTurn Counters Own Wait :=
  await counters.draw ⟨counters.tail, own.queuedTotal + counters.queued, own.acquires + 1⟩

def release (counters : Counters) (own : Own) : LockTurn Counters Own Wait :=
  ⟨counters.call, own, .done .done⟩

def tryAcquire (counters : Counters) (own : Own) : LockTurn Counters Own Wait :=
  if counters.head = counters.tail then
    ⟨counters.draw, { own with ticket := counters.tail }, .done (.took true)⟩
  else ⟨counters, own, .done (.took false)⟩

theorem shared_acquire (counters : Counters) (own : Own) :
    (counters.acquire own).shared = counters.draw := by
  unfold acquire await
  split <;> rfl

theorem ticket_acquire (counters : Counters) (own : Own) :
    (counters.acquire own).own.ticket = counters.tail := by
  unfold acquire await
  split <;> rfl

def protocol : Protocol Counters Own Wait Entry Command Reply where
  join _ counters := (counters, .ok ⟨0, 0, 0⟩)
  leave counters _ := (counters, none)
  start command counters own := command.exclusive counters own acquire release tryAcquire
  resume
    | .called => await

end Counters

def Word.counters (word : Word) : Counters :=
  ⟨word.head.toNat, word.tail.toNat⟩

def Own.counted (own : Own) : Counters.Own :=
  ⟨own.ticket.toNat, own.queuedTotal, own.acquires⟩

theorem Own.ticket_counted (own : Own) : own.counted.ticket = own.ticket.toNat := rfl

abbrev counted (turn : LockTurn Word Own Wait) : LockTurn Counters Counters.Own Wait :=
  turn.map Word.counters Own.counted

section Word

variable (word : Word)

theorem counters_draw : word.draw.counters = word.counters.draw := by
  simp [Word.counters, Counters.draw]

theorem counters_call : word.call.counters = word.counters.call := by
  simp [Word.counters, Counters.call]

theorem toNat_queued : word.queued.toNat = word.counters.queued := by
  have hhead := word.head.toNat_lt
  have htail := word.tail.toNat_lt
  rw [Word.queued, UInt32.toNat_sub, Counters.queued]
  simp only [Word.counters]
  omega

theorem head_eq_iff {ticket : UInt32} : word.counters.head = ticket.toNat ↔ word.head = ticket :=
  UInt32.toNat_inj

end Word

section Turns

variable (word : Word) (own : Own)

theorem counted_await : counted (await word own) = word.counters.await own.counted := by
  simp only [await, Counters.await, Own.counted, head_eq_iff]
  split <;> rfl

theorem counted_acquire : counted (acquire word own) = word.counters.acquire own.counted := by
  have hown (word : Word) : Own.counted
      ⟨word.tail, own.queuedTotal + (word.tail - word.head).toNat, own.acquires + 1⟩ =
        ⟨word.counters.tail, own.queuedTotal + word.counters.queued, own.acquires + 1⟩ := by
    rw [← toNat_queued]
    rfl
  rw [acquire, counted_await, Word.head_draw, counters_draw, hown]
  rfl

theorem counted_release : counted (release word own) = word.counters.release own.counted := by
  rw [Counters.release, ← counters_call]
  rfl

theorem tryAcquire_eq : tryAcquire word own =
    if word.head = word.tail then ⟨word.draw, { own with ticket := word.tail }, .done (.took true)⟩
    else ⟨word, own, .done (.took false)⟩ := by
  rw [tryAcquire, Word.drawIfFree?_eq]
  by_cases hfree : word.head = word.tail <;> simp [hfree]

theorem counted_tryAcquire :
    counted (tryAcquire word own) = word.counters.tryAcquire own.counted := by
  have hfree : word.counters.head = word.counters.tail ↔ word.head = word.tail := UInt32.toNat_inj
  simp only [tryAcquire_eq, Counters.tryAcquire, hfree, ← counters_draw]
  split <;> rfl

end Turns

theorem views : ticket.protocol.Views Counters.protocol Word.counters Own.counted where
  join _ _ := rfl
  leave _ _ := rfl
  start command word own :=
    (Command.exclusive_map (counted_acquire word own) (counted_release word own)
      (counted_tryAcquire word own) command).symm
  resume
    | .called, word, own => (counted_await word own).symm

/-- Whatever the word, each operation on it is the operation on two counters: neither disturbs the
other, and each begins again at zero by itself. So is each run, with whatever word and wherever the
threads stand when it begins. -/
theorem two_counters (word : Word) (own : Own) :
    let head := word.head.toNat
    let tail := word.tail.toNat
    (acquire word own).shared.counters = ⟨head, (tail + 1) % 2 ^ 32⟩ ∧
      (acquire word own).own.ticket.toNat = tail ∧
      (release word own).shared.counters = ⟨(head + 1) % 2 ^ 32, tail⟩ ∧
      (if head = tail then
        counted (tryAcquire word own) =
          ⟨⟨head, (tail + 1) % 2 ^ 32⟩, { own.counted with ticket := tail }, .done (.took true)⟩
      else tryAcquire word own = ⟨word, own, .done (.took false)⟩) ∧
      (word.queued.toNat : Int) = ((tail : Int) - head) % 2 ^ 32 ∧
      ∀ (n : Nat) (s : System Word Own Wait n) (schedule : List (Fin n × Action Entry Command)),
        (s.map Word.counters Own.counted).run Counters.protocol schedule =
          (s.run ticket.protocol schedule).map (System.map Word.counters Own.counted) id := by
  intro head tail
  have hshared := congrArg Turn.shared (counted_acquire word own)
  rw [Turn.shared_map, Counters.shared_acquire] at hshared
  have hticket := congrArg (fun turn => turn.own.ticket) (counted_acquire word own)
  simp only [Turn.own_map, Own.ticket_counted, Counters.ticket_acquire] at hticket
  refine ⟨hshared, hticket, counters_call word, ?_, ?_, fun n s schedule => views.run s schedule⟩
  · by_cases hfree : head = tail
    · have hsame : word.counters.head = word.counters.tail := hfree
      rw [if_pos hfree, counted_tryAcquire, Counters.tryAcquire, if_pos hsame]
      rfl
    · have hne : word.head ≠ word.tail := mt (congrArg UInt32.toNat) hfree
      rw [if_neg hfree, tryAcquire_eq, if_neg hne]
  · rw [toNat_queued, Counters.queued, Int.toNat_of_nonneg (Int.emod_nonneg _ (by decide))]
    rfl

example : (release (.ofCounters 0xffffffff 5) Own.initial).shared.counters = ⟨0, 5⟩ := by decide

end SpinLocks.Ticket
