import SpinLocks.Proofs.Adapter.Exclusion

namespace SpinLocks

open ReadWrite (Access)

variable {adapter : Adapter} {n : Nat}

namespace Outstanding

/-- What a lock shows goes with the numbers of locks that are outstanding: of one flag, that it is
raised while there is any; of two, that the first is, and the second while there is an exclusive
one. -/
def Tells (count : Access → Nat) : Field → Prop
  | .flag locked => 0 < count .writing → locked = true
  | .list [.flag locked, .flag exclusive] =>
    (0 < count .reading ∨ 0 < count .writing → locked = true) ∧
      (exclusive = true ↔ 0 < count .writing)
  | _ => False

/-- A thread is there that may ask whether the lock is held, besides those that may wait. -/
def Asker (u : Outstanding adapter n) : Prop :=
  (∃ t, (u.seat t).waits = false) ∨ n + 1 < 2 ^ 32

/-- One exclusive lock is outstanding at most, and then no other. -/
structure Exclusive (u : Outstanding adapter n) : Prop where
  writers_le : u.count .writing ≤ 1
  apart : 0 < u.count .writing → u.count .reading = 0

theorem Single.exclusive {u : Outstanding adapter n} {held : Bool} (h : Single u held) :
    u.Exclusive :=
  ⟨h.writing_eq.trans_le held.toNat_le, fun _ => h.reading_eq⟩

theorem Admitted.exclusive {u : Outstanding Adapter.readWrite n} (h : Admitted u) : u.Exclusive :=
  ⟨h.writers_le, fun hpos => h.apart (Nat.le_antisymm h.writers_le hpos)⟩

theorem Flagged.tells {Own : Type} {lock : Lock Bool Own TestAndSet.Wait} {fresh : Own}
    {u : Outstanding (Adapter.exclusive lock false fresh) n} {held : Bool}
    (hfree : ∀ raised, lock.isFree raised = !raised) (h : Flagged u held) :
    Tells u.count ((Adapter.exclusive lock false fresh).locked u.shared) := by
  show 0 < u.count .writing → (!lock.isFree u.shared) = true
  rw [show lock.isFree u.shared = !held from (hfree _).trans (congrArg _ h.shared_eq), h.writing_eq]
  cases held <;> simp

/-- The tickets that are drawn do not come round to the one that is called, while a thread is left
that has none. -/
theorem Queued.tells {u : Outstanding tickets n} {held : Bool} {first : Nat}
    {line : List (Fin n)} (hn : n < 2 ^ 32) (h : Queued u held first line) (hasker : u.Asker) :
    Tells u.count (tickets.locked u.shared) := by
  have hlt : held.toNat + line.length < 2 ^ 32 := by
    obtain ⟨t, ht⟩ | hroom := hasker
    · refine h.length_lt_of_not_mem hn (t := t) fun hm => ?_
      cases ht.symm.trans ((h.mem_iff t).mp hm)
    · have hle := h.nodup.length_le_card
      have := held.toNat_le
      rw [Fintype.card_fin] at hle
      omega
  intro hpos
  rw [h.writing_eq] at hpos
  refine bne_iff_ne.mpr fun hfree => ?_
  rw [((h.head_eq_tail_iff hlt).mp hfree).1] at hpos
  cases hpos

theorem Admitted.tells {u : Outstanding Adapter.readWrite n} (h : Admitted u) :
    Tells u.count (Adapter.readWrite.locked u.shared) := by
  have hle := h.writers_le
  show (_ → (!ReadWrite.Word.isFree u.shared) = true) ∧
    (ReadWrite.Word.isWriteLocked u.shared = true ↔ _)
  rw [Bool.not_eq_true', ← Bool.not_eq_true, h.isFree_iff, h.isWriteLocked_iff]
  omega

/-- One thread takes the lock, and then all of them ask for it. Where there are as many threads as
tickets but one, the next ticket is the one that is called. -/
theorem locked_asks (hn : n + 1 = 2 ^ 32) (t : Fin n) :
    let calls := (t, some .acquire) :: asks (List.finRange n)
    let last := ((opening tickets n).run calls).1
    (opening tickets n).Proper calls ∧ last.count .writing = 1 ∧
      tickets.locked last.shared = .flag false := by
  intro calls last
  let taken := ((opening tickets n).step t (some .acquire)).1
  obtain ⟨htaken, hseat⟩ := (Queued.opening n).step_take (seat_opening tickets t)
  have hidle (s : Fin n) : taken.seat s = .idle () := (hseat s).trans (seat_opening tickets s)
  have hlength : (List.finRange n).length = n := List.length_finRange
  have hlt : ([] : List (Fin n)).length + (List.finRange n).length < 2 ^ 32 := by
    rw [hlength, List.length_nil]
    omega
  obtain ⟨hp, hq⟩ := htaken.run_asks (fun s _ => hidle s) (List.nodup_finRange n) hlt
  -- One ticket is with the lock that is outstanding, and one with each thread.
  have hround : true.toNat + ([] ++ List.finRange n).length = 2 ^ 32 := by
    rw [List.nil_append, hlength, Bool.toNat_true]
    omega
  have hfree := bne_eq_false_iff_eq.mpr (hq.head_eq_tail hround)
  exact ⟨⟨permits_acquire, hp⟩, hq.writing_eq, congrArg Field.flag hfree⟩

/-- What holds of every lock that can be called, after every proper schedule of calls. -/
theorem exclusive_tells_run {name : String} (hname : Adapter.ofName? name = some adapter)
    (hn : n < 2 ^ 32) {calls : Calls n} (hp : (opening adapter n).Proper calls) :
    let last := ((opening adapter n).run calls).1
    last.Exclusive ∧
      ((name = "ticket" → last.Asker) → Tells last.count (adapter.locked last.shared)) := by
  unfold Adapter.ofName? at hname
  split at hname <;> cases hname
  · obtain ⟨held, h⟩ := run_induction (fun u => ∃ held, Flagged u held)
      (fun u t call ⟨held, h⟩ hp => h.step TestAndSet.oneFlag_tas hp) ⟨false, .opening _ n, rfl⟩ hp
    exact ⟨h.exclusive, fun _ => h.tells fun _ => rfl⟩
  · obtain ⟨held, h⟩ := run_induction (fun u => ∃ held, Flagged u held)
      (fun u t call ⟨held, h⟩ hp => h.step TestAndSet.oneFlag_ttas hp) ⟨false, .opening _ n, rfl⟩ hp
    exact ⟨h.exclusive, fun _ => h.tells fun _ => rfl⟩
  · obtain ⟨held, first, line, h⟩ := run_induction
      (fun u => ∃ held first line, Queued u held first line)
      (fun u t call ⟨held, first, line, h⟩ hp => h.step hn hp) ⟨false, 0, [], .opening n⟩ hp
    exact ⟨h.exclusive, fun hasker => h.tells hn (hasker rfl)⟩
  · have h := run_induction Admitted (fun u t call h hp => h.step hp) (.opening n) hp
    exact ⟨h.exclusive, fun _ => h.tells⟩

end Outstanding

namespace Adapter

def kept (adapter : Adapter) (owns : Fin n → adapter.Local) :
    System adapter.Shared adapter.Local adapter.Point n :=
  ⟨adapter.free, Vector.ofFn fun t => .idle (owns t)⟩

theorem stateless_ofName? {name : String} (hname : ofName? name = some adapter) :
    ∃ R, Stateless adapter.lock R := by
  unfold ofName? at hname
  split at hname <;> cases hname
  · exact ⟨_, TestAndSet.oneFlag_tas.stateless⟩
  · exact ⟨_, TestAndSet.oneFlag_ttas.stateless⟩
  · exact ⟨_, stateless_ticket⟩
  · exact ⟨_, stateless_readWrite⟩

theorem shadows_kept (R : adapter.Local → adapter.Local → Prop) (owns : Fin n → adapter.Local) :
    Shadows R (Outstanding.opening adapter n).system (adapter.kept owns) where
  shared_eq := rfl
  beside := by
    intro t
    simp [Outstanding.opening, kept, System.seat, Beside]

end Adapter

/-- Whatever states the threads would keep between their calls, they get the same answers without,
and leave the same word. Of the locks that are outstanding one at most is exclusive, and is the only
one; and the word tells which are, of tickets to a thread that is not in the middle of a call. -/
theorem adapters_run {name : String} (hname : Adapter.ofName? name = some adapter)
    (hn : n < 2 ^ 32) {calls : Calls n} (hp : (Outstanding.opening adapter n).Proper calls) :
    let (last, answers) := (Outstanding.opening adapter n).run calls
    (∀ owns : Fin n → adapter.Local,
      let (kept, answers') := (adapter.kept owns).run adapter.lock.protocol (Calls.actions calls)
      answers = answers' ∧ last.shared = kept.shared) ∧
    last.count .writing ≤ 1 ∧
    (0 < last.count .writing → last.count .reading = 0) ∧
    ((name = "ticket" → last.Asker) →
      Outstanding.Tells last.count (adapter.locked last.shared)) := by
  obtain ⟨hexclusive, htells⟩ := Outstanding.exclusive_tells_run hname hn hp
  refine ⟨?_, hexclusive.writers_le, hexclusive.apart, htells⟩
  intro owns
  obtain ⟨R, hl⟩ := Adapter.stateless_ofName? hname
  obtain ⟨hs, hanswers⟩ := (Adapter.shadows_kept R owns).run hl calls
  have heq := Outstanding.run_eq (Outstanding.opening adapter n) calls
  rw [← heq] at hs hanswers
  exact ⟨hanswers, hs.shared_eq⟩

/-- The writer is admitted once one reader has unlocked for both. -/
theorem adapters_writer_last :
    let calls : Calls 3 := [(0, some .acquireRead), (1, some .acquireRead), (2, some .acquireWrite),
      (1, some .releaseRead), (1, some .releaseRead), (2, none)]
    let (last, answers) := (Outstanding.opening Adapter.readWrite 3).run calls
    answers = [.done .done, .done .done, .waiting, .done .done, .done .done, .done .done] ∧
      answers = ((Adapter.readWrite.kept fun _ => Backoff.initial).run readWrite.protocol
        (Calls.actions calls)).2 ∧
      Outstanding.Tells last.count (.list [.flag true, .flag true]) := by
  have hname : Adapter.ofName? "rw_ttas" = some Adapter.readWrite := rfl
  have hproper : (Outstanding.opening Adapter.readWrite 3).Proper [(0, some .acquireRead),
      (1, some .acquireRead), (2, some .acquireWrite), (1, some .releaseRead),
      (1, some .releaseRead), (2, none)] :=
    ⟨⟨⟨"lock_shared", rfl⟩, nofun⟩, ⟨⟨"lock_shared", rfl⟩, nofun⟩,
      ⟨⟨"lock_exclusive", rfl⟩, nofun⟩, ⟨⟨"unlock_shared", rfl⟩, fun _ => Nat.two_pos⟩,
      ⟨⟨"unlock_shared", rfl⟩, fun _ => Nat.one_pos⟩, trivial, trivial⟩
  have h := adapters_run hname (by decide) hproper
  exact ⟨by decide, (h.1 fun _ => Backoff.initial).1, h.2.2.2 fun hname => absurd hname (by decide)⟩

/-- The first thread takes the lock, and all threads wait for it. The lock says that it is free. -/
theorem adapters_come_round :
    let others := 2 ^ 32 - 2
    let calls : Calls (others + 1) :=
      (0, some .acquire) :: Outstanding.asks (List.finRange (others + 1))
    let last := ((Outstanding.opening Outstanding.tickets (others + 1)).run calls).1
    others + 1 < 2 ^ 32 ∧ Adapter.ofName? "ticket" = some Outstanding.tickets ∧
      (Outstanding.opening Outstanding.tickets (others + 1)).Proper calls ∧
      last.count .writing = 1 ∧ Outstanding.tickets.locked last.shared = .flag false := by
  -- With the number of tickets written out, Lean would run the schedule to compare two terms.
  generalize hk : 2 ^ 32 = k
  intro others
  have hn : others + 1 + 1 = 2 ^ 32 := by omega
  exact ⟨by omega, rfl, Outstanding.locked_asks hn 0⟩

end SpinLocks
