import SpinLocks.Proofs.ArrayQueue.Order

namespace SpinLocks.ArrayQueue

open Usage

variable {n : Nat} {u : Threads n} {first : Nat} {line : List (Fin n)} {t : Fin n} {own : Own}
  {shared : Shared} {slots : Nat}

/-- The slot of each ticket but the last is followed by the slot of the next ticket, and so is that
of the last where the tail counts whole rounds. -/
theorem slotOf_succ_iff (shared : Shared) (ticket : UInt64) :
    shared.slotOf (shared.slotOf ticket.toNat + 1) = shared.slotOf (ticket + 1).toNat ↔
      (ticket + 1 = 0 → shared.flags.length ∣ 2 ^ 64) := by
  have hnext : shared.slotOf (shared.slotOf ticket.toNat + 1) = shared.slotOf (ticket.toNat + 1) :=
    Nat.mod_add_mod ..
  have htail : (ticket + 1).toNat = (ticket.toNat + 1) % 2 ^ 64 := UInt64.toNat_add ..
  have hlast : ticket + 1 = 0 ↔ (ticket.toNat + 1) % 2 ^ 64 = 0 := by
    rw [← UInt64.toNat_inj, htail]
    rfl
  have hlt := ticket.toNat_lt
  rw [hnext, htail, hlast]
  by_cases he : ticket.toNat + 1 = 2 ^ 64
  · have hzero : shared.slotOf 0 = 0 := Nat.zero_mod _
    rw [he, Nat.mod_self, hzero, Shared.slotOf, ← Nat.dvd_iff_mod_eq_zero]
    simp
  · have hmod : (ticket.toNat + 1) % 2 ^ 64 = ticket.toNat + 1 := Nat.mod_eq_of_lt (by omega)
    rw [hmod]
    simp

/-- So many tickets are counted as if the tail did not begin again. -/
theorem slotOf_mod {k : Nat} (h : shared.flags.length ∣ 2 ^ 64 ∨ k < 2 ^ 64) :
    shared.slotOf (k % 2 ^ 64) = shared.slotOf k := by
  obtain hdvd | hlt := h
  · exact Nat.mod_mod_of_dvd k hdvd
  · rw [Nat.mod_eq_of_lt hlt]

theorem Ringed.tailSlot_mod (h : Ringed u first line) :
    u.shared.tailSlot = u.shared.slotOf ((first + line.length) % 2 ^ 64) := by
  rw [Shared.tailSlot, h.tail_eq, UInt64.toNat_ofNat']

theorem Ringed.tailSlot_eq_of_room (h : Ringed u first line)
    (hroom : u.shared.flags.length ∣ 2 ^ 64 ∨ first + line.length < 2 ^ 64) :
    u.shared.tailSlot = u.shared.slotOf (first + line.length) :=
  h.tailSlot_mod.trans (slotOf_mod hroom)

/-- Whoever asks for the lock gets it at once where nobody is engaged. -/
def GrantsIdle (u : Threads n) : Prop :=
  (∀ s, ¬ u.Engaged s) → arrayQueue.isFree u.shared = true ∧
    ∀ t own, u.seat t = .idle own →
      (∀ command, command.asks = true → (u.step arrayQueue t (.start command)).2 = .done .done) ∧
      (u.step arrayQueue t (.start .tryAcquire)).2 = .done (.took true)

theorem Ringed.grantsIdle (h : Ringed u first line)
    (hslot : u.shared.tailSlot = u.shared.slotOf (first + line.length)) : GrantsIdle u := by
  intro hnone
  obtain rfl : line = [] :=
    List.eq_nil_iff_forall_not_mem.mpr fun s hs => hnone s ((h.engaged_iff s).mpr hs)
  have hslot : u.shared.tailSlot = u.shared.slotOf first := hslot
  refine ⟨(isFree_eq h.raised).trans (decide_eq_true hslot), fun t own hs => ⟨?_, ?_⟩⟩
  · intro command hasks
    have hstart : arrayQueue.start command u.shared own = acquire u.shared own :=
      Command.exclusive_of_asks hasks
    rw [Usage.step_start hs, hstart, acquire_eq h.raised, if_pos hslot]
    rfl
  · have hstart : arrayQueue.start .tryAcquire u.shared own = tryAcquire u.shared own := rfl
    rw [Usage.step_start hs, hstart, tryAcquire_eq h.raised, if_pos hslot]
    rfl

theorem RingedIn.wraps (h : RingedIn slots u first line) :
    Ticketed Own.drawn (fun i => (i % 2 ^ 64, i % slots)) u first line where
  toLined := h.1.toLined
  ticket_eq := by
    intro i hi
    rw [h.1.drawn i hi, Option.map_some, Own.drawn, UInt64.toNat_ofNat', Shared.slotOf, h.2]

variable {config : Config} {schedule : Schedule n}

def rounds (t : Fin n) : Nat → Schedule n
  | 0 => []
  | k + 1 => rounds t k ++ [(t, .start .acquire), (t, .start .release)]

/-- The slots go round in turn as long as the tail does not begin again, and for good where it
counts whole rounds. -/
theorem wraps_run (ha : (opening arrayQueue config n).Along arrayQueue Allows schedule)
    (hroom : max config.maxThreads 2 ∣ 2 ^ 64 ∨
      ((opening arrayQueue config n).entries arrayQueue schedule).length < 2 ^ 64) :
    let before := opening arrayQueue config n
    let after := (before.run arrayQueue schedule).1
    (∃ waiting, InTurn arrayQueue Own.drawn
      (fun i => (i % 2 ^ 64, i % max config.maxThreads 2)) before schedule waiting) ∧
      GrantsIdle after := by
  intro before after
  obtain ⟨limit, hlimit, hfew⟩ : ∃ limit, (before.entries arrayQueue schedule).length < limit ∧
      ∀ k < limit, max config.maxThreads 2 ∣ 2 ^ 64 ∨ k < 2 ^ 64 := by
    obtain hdvd | hlt := hroom
    · exact ⟨_, Nat.lt_succ_self _, fun _ _ => .inl hdvd⟩
    · exact ⟨_, hlt, fun _ => .inr⟩
  have hslot (u : Threads n) (first : Nat) (line : List (Fin n))
      (h : RingedIn (max config.maxThreads 2) u first line) (hlt : first + line.length < limit) :
      u.shared.tailSlot = u.shared.slotOf (first + line.length) :=
    h.1.tailSlot_eq_of_room (h.2 ▸ hfew _ hlt)
  have hopening : RingedIn (max config.maxThreads 2) before 0 [] :=
    ⟨ringed_opening config n, (ringed_opening config n).length_eq⟩
  obtain ⟨first, line, h, hcount, hturn⟩ := inTurn_run arrayQueue
    (fun _ _ _ h _ => h.wraps) (fun _ _ _ h _ => h.1.inOrder)
    (fun u first line t action h hlt ha =>
      Draws.mono (h.1.step_of_slot (hslot u first line h hlt) ha).1 fun _ _ h' =>
        ⟨h', (length_flags_step u t action).trans h.2⟩)
    hopening ha hlimit
  exact ⟨⟨_, hturn⟩, h.1.grantsIdle (hslot _ first line h (hcount ▸ hlimit))⟩

section Round

variable {k : Nat}

theorem Ringed.round (h : Ringed u k []) (hs : u.seat t = .idle own) (hk : k < 2 ^ 64) :
    let round : Schedule n := [(t, .start .acquire), (t, .start .release)]
    u.Proper arrayQueue round ∧ Ringed (u.run arrayQueue round).1 (k + 1) [] ∧
      ∃ own, (u.run arrayQueue round).1.seat t = .idle own := by
  intro round
  have hf := h.not_holds_of_not_mem (List.not_mem_nil (a := t))
  have hslot : u.shared.tailSlot = u.shared.slotOf k := Ringed.tailSlot_eq h hk
  let held := u.put t u.shared.draw (.idle u.shared.nextOwn) true
  have hacquire : u.step arrayQueue t (.start .acquire) = (held, .done .done) := by
    have hstart : arrayQueue.start .acquire u.shared own = acquire u.shared own := rfl
    rw [Usage.step_start hs, hstart, acquire_eq h.raised, if_pos hslot, settle_done, hf]
    rfl
  have hheld : Ringed held k [t] :=
    h.draw (own?_of_idle hs) List.not_mem_nil hslot rfl rfl (fun _ => rfl) fun _ => ⟨_, rfl⟩
  have hs' : held.seat t = .idle u.shared.nextOwn := seat_put_self ..
  have hh : held.holds t = true := holds_put_self ..
  have hrelease : held.step arrayQueue t (.start .release) =
      (held.put t (held.shared.pass u.shared.nextOwn.slot) (.idle u.shared.nextOwn) false,
        .done .done) := by
    have hstart : arrayQueue.start .release held.shared u.shared.nextOwn =
        release held.shared u.shared.nextOwn := rfl
    rw [Usage.step_start hs', hstart,
      release_eq (hheld.slot_lt List.mem_cons_self (own?_of_idle hs')), settle_done, hh]
    rfl
  have hrun : (u.run arrayQueue round).1 =
      held.put t (held.shared.pass u.shared.nextOwn.slot) (.idle u.shared.nextOwn) false := by
    simp only [round, Usage.run, hacquire, hrelease]
  rw [hrun]
  refine ⟨⟨?_, ?_, trivial⟩, hheld.pass (own?_of_idle hs'), _, seat_put_self ..⟩
  · simp [permits, Command.givesBack, hf]
  · simp [permits, Command.givesBack, hacquire, hh]

theorem rounds_run (hcap : 0 < config.maxThreads) (t : Fin n) (entry : Entry) {k : Nat}
    (hk : k ≤ 2 ^ 64) :
    let schedule : Schedule n := (t, .join entry) :: rounds t k
    let before := opening arrayQueue config n
    before.Proper arrayQueue schedule ∧ Ringed (before.run arrayQueue schedule).1 k [] ∧
      ∃ own, (before.run arrayQueue schedule).1.seat t = .idle own := by
  induction k with
  | zero =>
    intro schedule before
    have hs : before.seat t = .vacant := seat_opening arrayQueue config n t
    have hjoin : arrayQueue.join entry before.shared = (_, .ok ⟨0, 0⟩) := if_pos hcap
    have hstep := step_join_ok arrayQueue hs hjoin
    have h := ((ringed_opening config n).step_join hs entry).1
    refine ⟨⟨rfl, trivial⟩, h, ⟨0, 0⟩, ?_⟩
    show (before.step arrayQueue t (.join entry)).1.seat t = _
    rw [hstep]
    exact seat_put_self ..
  | succ k ih =>
    obtain ⟨hp, h, own, hs⟩ := ih (Nat.le_of_lt hk)
    obtain ⟨hp', h', hs'⟩ := h.round hs hk
    intro schedule before
    have hsplit : schedule = ((t, .join entry) :: rounds t k) ++
        [(t, .start .acquire), (t, .start .release)] := rfl
    rw [hsplit, run_append]
    exact ⟨along_append.mpr ⟨hp, hp'⟩, h', hs'⟩

end Round

/-- Where the tail has counted up to the end in the middle of a round, the lock that nobody holds or
waits for is not granted any more. -/
theorem Ringed.starves {k : Nat} (h : Ringed u k []) (hk : k = 2 ^ 64) (hs : u.seat t = .idle own)
    (hdvd : ¬ u.shared.flags.length ∣ 2 ^ 64) :
    let waiting := (u.step arrayQueue t (.start .acquire)).1
    (u.step arrayQueue t (.start .acquire)).2 = .waiting ∧
      waiting.step arrayQueue t .resume = (waiting, .waiting) := by
  have hslot : u.shared.tailSlot ≠ u.shared.slotOf k := by
    have hzero : u.shared.slotOf 0 = 0 := Nat.zero_mod _
    rw [h.tailSlot_mod, List.length_nil, Nat.add_zero, hk, Nat.mod_self, hzero, Shared.slotOf]
    exact fun he => hdvd (Nat.dvd_of_mod_eq_zero he.symm)
  have hf := h.not_holds_of_not_mem (List.not_mem_nil (a := t))
  have hstep : u.step arrayQueue t (.start .acquire) =
      (u.put t u.shared.draw (.waiting u.shared.nextOwn .flag) false, .waiting) := by
    have hstart : arrayQueue.start .acquire u.shared own = acquire u.shared own := rfl
    rw [Usage.step_start hs, hstart, acquire_eq h.raised, if_neg hslot, settle_waiting, hf]
    rfl
  intro waiting
  have hwaiting : waiting.seat t = .waiting u.shared.nextOwn .flag := by
    simp only [waiting, hstep]
    exact seat_put_self ..
  have hraised : Raised waiting.shared.flags (u.shared.slotOf k) := by
    simp only [waiting, hstep]
    exact h.raised
  have hresume : arrayQueue.resume .flag waiting.shared u.shared.nextOwn =
      ⟨waiting.shared, u.shared.nextOwn, .waiting .flag⟩ := by
    have hlt : u.shared.tailSlot < waiting.shared.flags.length := by
      simp only [waiting, hstep]
      exact Shared.slotOf_lt (Nat.zero_lt_of_lt h.raised.slot_lt) _
    exact (await_eq hraised hlt).trans (if_neg hslot)
  refine ⟨by rw [hstep], ?_⟩
  rw [step_resume hwaiting, hresume, settle_self hwaiting]
  rfl

theorem starves_run (hcap : 0 < config.maxThreads) (hdvd : ¬ max config.maxThreads 2 ∣ 2 ^ 64)
    (t : Fin n) (entry : Entry) {k : Nat} (hk : k = 2 ^ 64) :
    let schedule : Schedule n := (t, .join entry) :: rounds t k
    let before := opening arrayQueue config n
    let after := (before.run arrayQueue schedule).1
    let waiting := (after.step arrayQueue t (.start .acquire)).1
    before.Proper arrayQueue schedule ∧ (∀ s, ¬ after.Engaged s) ∧
      (∃ own, after.seat t = .idle own) ∧
      (after.step arrayQueue t (.start .acquire)).2 = .waiting ∧
      waiting.step arrayQueue t .resume = (waiting, .waiting) := by
  intro schedule before after waiting
  obtain ⟨hp, h, own, hs⟩ := rounds_run hcap t entry hk.le
  have hlength : after.shared.flags.length = max config.maxThreads 2 :=
    (length_flags_run before schedule).trans (ringed_opening config n).length_eq
  have hnone (s : Fin n) : ¬ after.Engaged s := fun he =>
    List.not_mem_nil ((h.engaged_iff s).mp he)
  exact ⟨hp, hnone, ⟨own, hs⟩, h.starves hk hs (hlength ▸ hdvd)⟩

/-- The slot that is raised after a ticket is that of the next, and the idle lock is granted at
once, in all runs where the ring has as many slots as divide the count of the tail, and else in
those that draw fewer tickets than the tail can count. -/
theorem slot_sequence_run (hn : 0 < n) (hcap : 0 < config.maxThreads) :
    let before : Threads n := opening arrayQueue config n
    let slots := max config.maxThreads 2
    (∀ (shared : Shared) (ticket : UInt64),
      shared.slotOf (shared.slotOf ticket.toNat + 1) = shared.slotOf (ticket + 1).toNat ↔
        (ticket + 1 = 0 → shared.flags.length ∣ 2 ^ 64)) ∧
    (∀ schedule, before.Along arrayQueue Allows schedule →
      slots ∣ 2 ^ 64 ∨ (before.entries arrayQueue schedule).length < 2 ^ 64 →
      (∃ waiting, InTurn arrayQueue Own.drawn (fun i => (i % 2 ^ 64, i % slots)) before schedule
        waiting) ∧ GrantsIdle (before.run arrayQueue schedule).1) ∧
    ((∀ schedule, before.Proper arrayQueue schedule →
      GrantsIdle (before.run arrayQueue schedule).1) ↔ slots ∣ 2 ^ 64) := by
  intro before slots
  refine ⟨slotOf_succ_iff, fun schedule ha hroom => wraps_run ha hroom, fun hall => ?_,
    fun hdvd schedule hp => (wraps_run (hp.mono fun _ _ _ => .inl) (.inl hdvd)).2⟩
  by_contra hdvd
  obtain ⟨k, hk⟩ : ∃ k, k = 2 ^ 64 := ⟨_, rfl⟩
  obtain ⟨hp, hnone, ⟨own, hs⟩, hwaits, -⟩ := starves_run hcap hdvd ⟨0, hn⟩ ⟨config, 0⟩ hk
  have hgranted := ((hall _ hp hnone).2 _ own hs).1 .acquire rfl
  cases hgranted.symm.trans hwaits

/-- Two slots go round evenly. Slot zero follows that of the last ticket, and the lock is granted
after each thread has had it, and one has attempted it while it held it. -/
theorem slot_sequence_pair :
    let last : UInt64 := 0xffffffffffffffff
    let schedule : Schedule 2 :=
      [(0, .join ⟨.pair, 0⟩), (1, .join ⟨.pair, 1⟩), (0, .start .acquire), (1, .start .acquire),
        (0, .start .release), (1, .resume), (1, .start .tryAcquire), (1, .start .release),
        (0, .start .tryAcquire), (0, .start .release)]
    let before := opening arrayQueue .pair 2
    let after := (before.run arrayQueue schedule).1
    0 < 2 ∧ 0 < Config.pair.maxThreads ∧ before.Along arrayQueue Allows schedule ∧ 2 ∣ 2 ^ 64 ∧
      (create .pair).slotOf ((create .pair).slotOf last.toNat + 1) =
        (create .pair).slotOf (last + 1).toNat ∧
      (∀ s, ¬ after.Engaged s) ∧ GrantsIdle after := by
  intro last schedule before after
  have hn : 0 < 2 := by decide
  have hcap : 0 < Config.pair.maxThreads := by decide
  have ha : before.Along arrayQueue Allows schedule := by decide
  have hdvd : 2 ∣ 2 ^ 64 := by decide
  obtain ⟨hslots, hgrants, -⟩ := slot_sequence_run hn hcap
  exact ⟨hn, hcap, ha, hdvd, (hslots _ last).mpr fun _ => hdvd, by decide,
    (hgrants schedule ha (.inl hdvd)).2⟩

/-- Three slots do not go round evenly, and the lock that is idle after so many rounds is not
granted. Nor is it, with two slots, after the holder got it once more while the other thread waited
for it. -/
theorem slot_sequence_skips :
    let trio : Config := { Config.pair with maxThreads := 3 }
    let last : UInt64 := 0xffffffffffffffff
    let schedule : Schedule 1 := (0, .join ⟨trio, 0⟩) :: rounds 0 (2 ^ 64)
    let before := opening arrayQueue trio 1
    let after := (before.run arrayQueue schedule).1
    let waiting := (after.step arrayQueue 0 (.start .acquire)).1
    let twice : List (Fin 2 × Action Entry Command) :=
      [(0, .join ⟨.pair, 0⟩), (1, .join ⟨.pair, 0⟩), (0, .start .acquire), (1, .start .acquire),
        (0, .start .tryAcquire), (0, .start .release), (0, .start .release), (1, .resume),
        (1, .start .release)]
    let idle := (System.init 2 (create .pair)).run arrayQueue.protocol twice
    ((create trio).slotOf ((create trio).slotOf last.toNat + 1) = 1 ∧
      (create trio).slotOf (last + 1).toNat = 0) ∧
    (before.Proper arrayQueue schedule ∧ (∀ s, ¬ after.Engaged s) ∧
      (∃ own, after.seat 0 = .idle own) ∧
      (after.step arrayQueue 0 (.start .acquire)).2 = .waiting ∧
      waiting.step arrayQueue 0 .resume = (waiting, .waiting)) ∧
    idle.2 = [.joined, .joined, .done .done, .waiting, .done (.took true), .done .done, .done .done,
      .done .done, .done .done] ∧
    (idle.1.step arrayQueue.protocol 0 (.start .acquire)).2 = .waiting := by
  generalize hk : 2 ^ 64 = k
  intro trio last schedule before after waiting twice idle
  exact ⟨by decide, starves_run (by decide) (by decide) 0 ⟨trio, 0⟩ hk.symm, by decide, by decide⟩

end SpinLocks.ArrayQueue