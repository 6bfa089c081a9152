import SpinLocks.Kind
import SpinLocks.Proofs.ArrayQueue.Steps
import SpinLocks.Proofs.Clh.Steps
import SpinLocks.Proofs.ClusterTicket.HandsOver
import SpinLocks.Proofs.Hclh.Exclusion
import SpinLocks.Proofs.Mcs.Handover
import SpinLocks.Proofs.ReadWrite.Modes
import SpinLocks.Proofs.TestAndSet
import SpinLocks.Proofs.Ticket.Order

namespace SpinLocks

open Usage

variable {n : Nat}

theorem TestAndSet.excludesAll {Own : Type} {lock : Lock Bool Own Wait} (hl : OneFlag lock)
    (n : Nat) : ExcludesAll (n := n) lock fun _ u => Raised u where
  holder_idle h := h.holder_idle
  holder_unique h := h.holder_unique
  release _ _ _ _ _ _ hb := by
    rw [hl.start, TestAndSet.start, Command.exclusive_of_givesBack hb]
    rfl
  step h _ _ _ hp := h.step hl hp

theorem ArrayQueue.excludesAll : ExcludesAll arrayQueue fun asked (u : Threads n) =>
    ∃ first line, Ringed u first line ∧ first + line.length = asked where
  holder_idle := fun ⟨_, _, h, _⟩ => h.holder_idle
  holder_unique := fun ⟨_, _, h, _⟩ => h.holder_unique
  release := by
    rintro _ u ⟨first, line, h, -⟩ t own command hs hh hb
    obtain ⟨rest, rfl⟩ := h.holder_first t hh
    have hstart : arrayQueue.start command u.shared own = _ := Command.exclusive_of_givesBack hb
    rw [hstart]
    exact (h.settle_release hs hh).2
  step := by
    rintro _ u ⟨first, line, h, rfl⟩ hfew t action hp
    obtain ⟨⟨first', line', h', -, he⟩, -⟩ := h.step hfew (.inl hp)
    exact ⟨first', line', h', he⟩

theorem Clh.excludesAll : ExcludesAll clh fun _ (u : Threads n) => ∃ spare line, Queued u spare line
    where
  holder_idle := fun ⟨_, _, h⟩ => h.holder_idle
  holder_unique := fun ⟨_, _, h⟩ => h.holder_unique
  release := by
    rintro _ u ⟨spare, line, h⟩ t own command hs hh hb
    obtain ⟨rest, rfl⟩ := h.holder_first t hh
    have hstart : clh.start command u.shared own = _ := Command.exclusive_of_givesBack hb
    rw [hstart]
    exact (h.settle_release hs hh).2
  step := by
    rintro _ u ⟨spare, line, h⟩ - t action hp
    obtain ⟨⟨spare', line', h', -⟩, -⟩ := h.step hp
    exact ⟨spare', line', h'⟩

theorem Mcs.excludesAll : ExcludesAll mcs fun _ (u : Threads n) => ∃ line, Queued u line where
  holder_idle := fun ⟨_, h⟩ => h.holder_idle
  holder_unique := fun ⟨_, h⟩ => h.holder_unique
  release := by
    rintro _ u ⟨line, h⟩ t own command hs hh hb
    have he := h.release_done hh hb
    rwa [step_start hs] at he
  step := by
    rintro _ u ⟨line, h⟩ - t action hp
    obtain ⟨⟨line', h', -⟩, -⟩ := h.step hp
    exact ⟨line', h'⟩

theorem Ticket.excludesAll (hn : n < 2 ^ 32) : ExcludesAll ticket fun _ (u : Threads n) =>
    ∃ first line, Counted Word.free.head u first line where
  holder_idle := fun ⟨_, _, h⟩ => h.holder_idle
  holder_unique := fun ⟨_, _, h⟩ => h.holder_unique
  release := by
    intro _ u _ t own command _ _ hb
    have hstart : ticket.start command u.shared own = _ := Command.exclusive_of_givesBack hb
    rw [hstart]
    rfl
  step := by
    rintro _ u ⟨first, line, h⟩ - t action hp
    obtain ⟨⟨first', line', h', -⟩, -⟩ := h.step hn hp
    exact ⟨first', line', h'⟩

theorem Hclh.excludesAll : ExcludesAll hclh fun _ (u : Threads n) => ∃ q, Queued u q where
  holder_idle := fun ⟨_, h⟩ => h.holder_idle
  holder_unique := fun ⟨_, h⟩ => h.exclusive.holder_unique
  release := by
    rintro _ u ⟨q, h⟩ t own command hs hh hb
    obtain ⟨_, _, _, -, -, -, he, -⟩ := h.release hh hb
    rw [step_start hs] at he
    exact congrArg Prod.snd he
  step := by
    rintro _ u ⟨q, h⟩ - t action hp
    exact (h.step hp).1

theorem ClusterTicket.excludesAll (hn : n < 0x80000000) :
    ExcludesAll clusterTicket fun _ (u : Threads n) => ∃ q, Ordered u q where
  holder_idle := fun ⟨_, h⟩ => h.holder_idle
  holder_unique := fun ⟨_, h⟩ => (h.handsOver hn).holder_unique
  release := by
    rintro _ u ⟨q, h⟩ t own command hs hh hb
    have hstart : clusterTicket.start command u.shared own = _ :=
      Command.exclusive_of_givesBack hb
    rw [hstart]
    exact (h.settle_release hs hh).1
  step := by
    rintro _ u ⟨q, h⟩ - t action hp
    exact (h.step hn hp).1

/-- Every lock that is made for a valid configuration excludes from the start. -/
theorem exists_excludes (kind : Kind) {config : Config} (hv : config.Valid) (hn : n < 0x80000000)
    (mode : Fin n → ReadWrite.Access) :
    ∃ Inv, Excludes kind.algorithm.lock Inv ∧
      Inv 0 mode (opening kind.algorithm.lock config n) := by
  cases kind with
  | tas => exact ⟨_, (TestAndSet.excludesAll TestAndSet.oneFlag_tas n).excludes,
      .opening TestAndSet.oneFlag_tas config n⟩
  | ttas => exact ⟨_, (TestAndSet.excludesAll TestAndSet.oneFlag_ttas n).excludes,
      .opening TestAndSet.oneFlag_ttas config n⟩
  | array =>
    exact ⟨_, ArrayQueue.excludesAll.excludes, 0, [], ArrayQueue.ringed_opening config n, rfl⟩
  | clh => exact ⟨_, Clh.excludesAll.excludes, _, _, Clh.queued_opening config n⟩
  | mcs => exact ⟨_, Mcs.excludesAll.excludes, _, Mcs.queued_opening config n⟩
  | ticket =>
    have hn' : n < 2 ^ 32 := Nat.lt_trans hn (by decide)
    exact ⟨_, (Ticket.excludesAll hn').excludes, 0, [], Ticket.counted_fresh (by decide) n⟩
  | hclh => exact ⟨_, Hclh.excludesAll.excludes, _, Hclh.queued_opening hv n⟩
  | htlock =>
    exact ⟨_, (ClusterTicket.excludesAll hn).excludes, _, ClusterTicket.ordered_opening hv n⟩
  | rwTtas => exact ⟨_, ReadWrite.Moded.excludes, .opening mode config⟩

end SpinLocks
