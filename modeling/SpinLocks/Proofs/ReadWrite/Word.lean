import Mathlib.Data.Nat.Bitwise
import SpinLocks.Lock.ReadWrite
import SpinLocks.Proofs.Usage

namespace SpinLocks.ReadWrite

namespace Word

variable (word : Word)

theorem toNat_readers : word.readers.toNat = word.raw.toNat % 256 := by
  rw [readers, maxReaders, UInt16.toNat_and]
  exact Nat.and_two_pow_sub_one_eq_mod _ 8

theorem isWriteLocked_iff : word.isWriteLocked = true ↔ word.raw.toNat / 256 % 2 = 1 := by
  have hbit : (word.raw &&& writer).toNat = (word.raw.toNat.testBit 8).toNat * 256 := by
    rw [writer, UInt16.toNat_and]
    exact Nat.and_two_pow _ 8
  rw [isWriteLocked, bne_iff_ne, Ne, ← UInt16.toNat_inj, hbit, Nat.testBit_eq_decide_div_mod_eq]
  by_cases h : word.raw.toNat / 256 % 2 = 1 <;> simp [h]

theorem isFree_iff : word.isFree = true ↔ word.raw.toNat = 0 := by
  rw [isFree, beq_iff_eq, ← UInt16.toNat_inj]
  rfl

theorem admitsReader_iff :
    word.admitsReader = true ↔ word.raw.toNat / 256 % 2 = 0 ∧ word.raw.toNat % 256 < 255 := by
  have hlocked := word.isWriteLocked_iff
  rw [admitsReader, Bool.and_eq_true, Bool.not_eq_true', ← Bool.not_eq_true, hlocked,
    decide_eq_true_iff, UInt16.lt_iff_toNat_lt, toNat_readers, show maxReaders.toNat = 255 from rfl]
  omega

variable {word}

theorem toNat_enter (h : word.raw.toNat % 256 < 255) :
    word.enter.raw.toNat = word.raw.toNat + 1 := by
  have hlt := word.raw.toNat_lt
  rw [enter, UInt16.toNat_add, show (1 : UInt16).toNat = 1 from rfl]
  omega

theorem toNat_exit (h : 0 < word.raw.toNat) : word.exit.raw.toNat = word.raw.toNat - 1 := by
  have hle : (1 : UInt16) ≤ word.raw := UInt16.le_iff_toNat_le.mpr h
  exact UInt16.toNat_sub_of_le _ _ hle

end Word

inductive Access where
  | reading
  | writing
  deriving DecidableEq

def accessOf : Command → Access
  | .acquireRead | .releaseRead | .tryAcquireRead => .reading
  | _ => .writing

namespace Access

def point : Access → Wait
  | reading => .reading
  | writing => .writing

def admits : Access → Word → Bool
  | reading => Word.admitsReader
  | writing => Word.isFree

def enter : Access → Word → Word
  | reading, word => word.enter
  | writing, _ => ⟨Word.writer⟩

def exit : Access → Word → Word
  | reading, word => word.exit
  | writing, _ => Word.free

/-- By the number of those who have each access, one more may have it. -/
def Room (count : Access → Nat) : Access → Prop
  | reading => count writing = 0 ∧ count reading < 255
  | writing => count reading = 0 ∧ count writing = 0

instance Room.decidable (count : Access → Nat) : (access : Access) → Decidable (Room count access)
  | reading => inferInstanceAs (Decidable (_ ∧ _))
  | writing => inferInstanceAs (Decidable (_ ∧ _))

end Access

variable {word : Word} {own : Backoff} {command : Command} {access : Access}

theorem resume_eq : resume access.point word own =
    if access.admits word then ⟨access.enter word, own, .done .done⟩
    else ⟨word, own, .waiting access.point⟩ := by
  cases access <;> rfl

theorem start_asks (h : command.asks = true) : start command word own =
    if (accessOf command).admits word then ⟨(accessOf command).enter word, own, .done .done⟩
    else ⟨word, own, .waiting (accessOf command).point⟩ := by
  cases command <;> first | rfl | cases h

theorem start_givesBack (h : command.givesBack = true) :
    start command word own = ⟨(accessOf command).exit word, own, .done .done⟩ := by
  cases command <;> first | rfl | cases h

theorem start_attempts (ha : command.asks = false) (hb : command.givesBack = false) :
    start command word own =
      if (accessOf command).admits word then
        ⟨(accessOf command).enter word, own, .done (.took true)⟩
      else ⟨word, own, .done (.took false)⟩ := by
  obtain h | rfl | rfl := Command.asks_or_attempts hb
  · simp [ha] at h
  · rfl
  · rfl

/-- The word tells how many have each access. -/
structure Counts (word : Word) (count : Access → Nat) : Prop where
  raw_eq : word.raw.toNat = count .reading + 256 * count .writing
  readers_le : count .reading ≤ 255
  writers_le : count .writing ≤ 1
  apart : count .writing = 1 → count .reading = 0

namespace Counts

variable {count : Access → Nat}

theorem free : Counts Word.free fun _ => 0 := by
  constructor <;> decide

section Read

variable (h : Counts word count)
include h

theorem readers_eq : word.readers.toNat = count .reading := by
  have hle := h.readers_le
  rw [Word.toNat_readers, h.raw_eq]
  omega

theorem isWriteLocked_iff : word.isWriteLocked = true ↔ count .writing = 1 := by
  have hreaders := h.readers_le
  have hwriters := h.writers_le
  rw [Word.isWriteLocked_iff, h.raw_eq]
  omega

theorem isFree_iff : word.isFree = true ↔ count .reading = 0 ∧ count .writing = 0 := by
  rw [Word.isFree_iff, h.raw_eq]
  omega

theorem admits_iff : access.admits word = true ↔ access.Room count := by
  have hreaders := h.readers_le
  have hwriters := h.writers_le
  cases access with
  | reading =>
    show word.admitsReader = true ↔ _ ∧ _
    rw [Word.admitsReader_iff, h.raw_eq]
    omega
  | writing => exact h.isFree_iff

theorem enter (hr : access.Room count) :
    Counts (access.enter word) (Function.update count access (count access + 1)) := by
  have hraw := h.raw_eq
  cases access with
  | reading =>
    obtain ⟨hw, hlt⟩ := hr
    have henter : word.enter.raw.toNat = word.raw.toNat + 1 := Word.toNat_enter (by omega)
    constructor <;> simp [Access.enter, henter, hraw, hw]
    omega
  | writing =>
    obtain ⟨hr, hw⟩ := hr
    constructor <;> simp [Access.enter, Word.writer, hr, hw]

theorem exit (hpos : 0 < count access) :
    Counts (access.exit word) (Function.update count access (count access - 1)) := by
  have hraw := h.raw_eq
  have hreaders := h.readers_le
  have hwriters := h.writers_le
  have hapart := h.apart
  cases access with
  | reading =>
    have hexit : word.exit.raw.toNat = word.raw.toNat - 1 := Word.toNat_exit (by omega)
    constructor <;> simp [Access.exit, hexit, hraw]
    all_goals omega
  | writing =>
    have hone : count .writing = 1 := by omega
    constructor <;> simp [Access.exit, Word.free, hone, hapart hone]

end Read

end Counts

end SpinLocks.ReadWrite
