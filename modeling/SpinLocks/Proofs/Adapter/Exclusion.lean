import Mathlib.Data.Fintype.Card
import Mathlib.Data.Fintype.Basic
import SpinLocks.Proofs.Adapter.Outstanding

namespace SpinLocks

open ReadWrite (Access accessOf)

variable {n : Nat}

def Calls.writes (call : Option Command) : Bool :=
  call.all fun command => accessOf command = .writing

namespace Outstanding

section Single

variable {adapter : Adapter} {u : Outstanding adapter n} {t : Fin n} {call : Option Command}
  {turn : LockTurn adapter.Shared adapter.Local adapter.Point} {held : Bool}

/-- Where all access is exclusive, one lock is outstanding at most. -/
structure Single (u : Outstanding adapter n) (held : Bool) : Prop where
  asked_eq : ∀ t, u.asked t = .writing
  writing_eq : u.count .writing = held.toNat
  reading_eq : u.count .reading = 0

theorem Single.opening (adapter : Adapter) (n : Nat) :
    Single (Outstanding.opening adapter n) false :=
  ⟨fun _ => rfl, rfl, rfl⟩

theorem Single.access_eq (h : Single u held) (hcall : Calls.writes call = true) (t : Fin n) :
    u.access t call = .writing := by
  cases call with
  | none => exact h.asked_eq t
  | some command => exact of_decide_eq_true hcall

variable (t call turn) in
theorem Single.settle (h : Single u held) (hcall : Calls.writes call = true)
    (hturn : turn.answer.turnsOver = true → held = Calls.unlocks call) :
    Single (u.settle t call turn) (held ^^ turn.answer.turnsOver) := by
  have haccess := h.access_eq hcall t
  have hasked : ∀ s, (u.settle t call turn).asked s = .writing := by
    intro s
    obtain he | ⟨-, he⟩ := u.asked_settle t call turn s
    · rw [he, h.asked_eq]
    · rw [he, haccess]
  cases hover : turn.answer.turnsOver with
  | false =>
    rw [Bool.xor_false]
    have hcount := count_settle_of_not u t call hover
    exact ⟨hasked, hcount ▸ h.writing_eq, hcount ▸ h.reading_eq⟩
  | true =>
    have hheld := hturn hover
    cases hu : Calls.unlocks call with
    | false =>
      have hcount := count_settle_lock u t hover hu
      rw [haccess, h.writing_eq, hheld, hu] at hcount
      rw [hheld, hu]
      exact ⟨hasked, by rw [hcount]; rfl, by rw [hcount]; exact h.reading_eq⟩
    | true =>
      have hcount := count_settle_unlock u t hover hu
      rw [haccess, h.writing_eq, hheld, hu] at hcount
      rw [hheld, hu]
      exact ⟨hasked, by rw [hcount]; rfl, by rw [hcount]; exact h.reading_eq⟩

end Single

theorem exclusiveCommand?_cases {name : String} {command : Command}
    (h : Adapter.exclusiveCommand? name = some command) :
    command = .acquire ∨ command = .tryAcquire ∨ command = .release := by
  unfold Adapter.exclusiveCommand? at h
  split at h <;> cases h
  · exact .inl rfl
  · exact .inr (.inl rfl)
  · exact .inr (.inr rfl)

section Flag

variable {Own : Type} {lock : Lock Bool Own TestAndSet.Wait} {fresh : Own}
  {u : Outstanding (Adapter.exclusive lock false fresh) n} {t : Fin n} {call : Option Command}
  {held : Bool}

/-- The flag is raised while a lock is outstanding. -/
structure Flagged (u : Outstanding (Adapter.exclusive lock false fresh) n) (held : Bool) : Prop
    extends Single u held where
  shared_eq : u.shared = held

variable (t call) in
theorem Flagged.settle (turn : LockTurn Bool Own TestAndSet.Wait) (h : Flagged u held)
    (hcall : Calls.writes call = true)
    (hturn : turn.answer.turnsOver = true → held = Calls.unlocks call)
    (hshared : turn.shared = (held ^^ turn.answer.turnsOver)) :
    ∃ held, Flagged (u.settle t call turn) held :=
  ⟨held ^^ turn.answer.turnsOver, h.toSingle.settle t call turn hcall hturn, hshared⟩

theorem Flagged.settle_acquire (h : Flagged u held) (own : Own)
    (hcall : Calls.writes call = true) (hlocks : Calls.unlocks call = false) :
    ∃ held', Flagged (u.settle t call (TestAndSet.acquire held own)) held' := by
  refine h.settle t call _ hcall ?_ ?_
  · intro hover
    cases held with
    | false => exact hlocks.symm
    | true => cases hover
  · cases held <;> rfl

theorem Flagged.step (hl : TestAndSet.OneFlag lock) (h : Flagged u held) (hp : u.Permits call) :
    ∃ held', Flagged (u.step t call).1 held' := by
  obtain ⟨cause, he⟩ | ⟨command, own, rfl, -, he⟩ | ⟨own, wait, rfl, -, he⟩ := step_cases u t call
  · rw [he]
    exact ⟨held, h⟩
  · obtain ⟨⟨name, hname⟩, hunlock⟩ := hp
    have hlock : (Adapter.exclusive lock false fresh).lock.start = TestAndSet.start := hl.start
    rw [he, hlock, h.shared_eq]
    obtain rfl | rfl | rfl := exclusiveCommand?_cases hname
    · exact h.settle_acquire _ rfl rfl
    · refine h.settle t _ (TestAndSet.tryAcquire held _) rfl ?_ ?_
      · intro hover
        cases held with
        | false => rfl
        | true => cases hover
      · cases held <;> rfl
    · have hraised : held = true := by
        have hpos := hunlock rfl
        rw [show accessOf .release = .writing from rfl, h.writing_eq] at hpos
        cases held with
        | false => cases hpos
        | true => rfl
      exact h.settle t _ (TestAndSet.release held _) rfl (fun _ => hraised)
        (by rw [hraised]; rfl)
  · have hlock : (Adapter.exclusive lock false fresh).lock.resume = TestAndSet.resume := hl.resume
    rw [he, hlock, h.shared_eq]
    exact h.settle_acquire _ rfl rfl

end Flag

section Turns

open Ticket

variable {word : Word} {own : Ticket.Own}

theorem start_acquire : start .acquire word own = acquire word own :=
  Command.exclusive_of_asks rfl

variable (own) in
theorem acquire_of_free (h : word.head = word.tail) :
    ∃ own', acquire word own = ⟨word.draw, own', .done .done⟩ := by
  simp only [acquire, await, Word.head_draw, if_pos h]
  exact ⟨_, rfl⟩

variable (own) in
theorem acquire_of_not_free (h : word.head ≠ word.tail) :
    ∃ own', own'.ticket = word.tail ∧
      acquire word own = ⟨word.draw, own', .waiting Ticket.Wait.called⟩ := by
  simp only [acquire, await, Word.head_draw, if_neg h]
  exact ⟨_, rfl, rfl⟩

variable (own) in
theorem tryAcquire_of_free (h : word.head = word.tail) :
    ∃ own', tryAcquire word own = ⟨word.draw, own', .done (.took true)⟩ := by
  rw [tryAcquire, Word.drawIfFree?_eq, if_pos h]
  exact ⟨_, rfl⟩

theorem tryAcquire_of_not_free (h : word.head ≠ word.tail) :
    tryAcquire word own = ⟨word, own, .done (.took false)⟩ := by
  rw [tryAcquire, Word.drawIfFree?_eq, if_neg h]

theorem await_of_ne (h : word.head ≠ own.ticket) (point : Ticket.Wait) :
    await word own = ⟨word, own, .waiting point⟩ := by
  cases point
  exact if_neg h

end Turns

section Tickets

open Ticket (number)

abbrev tickets : Adapter := Adapter.exclusive ticket Ticket.Word.free Ticket.Own.initial

variable {u : Outstanding tickets n} {t : Fin n} {call : Option Command} {held : Bool}
  {first : Nat} {line rest : List (Fin n)}
  {turn : LockTurn tickets.Shared tickets.Local tickets.Point}

/-- The threads that wait have the tickets that follow that of the lock outstanding, or that begin
with the one that is called. -/
structure Queued (u : Outstanding tickets n) (held : Bool) (first : Nat) (line : List (Fin n)) :
    Prop extends Single u held where
  nodup : line.Nodup
  mem_iff : ∀ t, t ∈ line ↔ (u.seat t).waits = true
  head_eq : Ticket.Word.head u.shared = number 0 first
  tail_eq : Ticket.Word.tail u.shared = number 0 (first + held.toNat + line.length)
  ticket_eq : ∀ i (hi : i < line.length), ∃ own wait, u.seat (line)[i] = .waiting own wait ∧
    wait.own.ticket = number 0 (first + held.toNat + i)

theorem Queued.opening (n : Nat) : Queued (.opening tickets n) false 0 [] where
  toSingle := .opening tickets n
  nodup := List.nodup_nil
  mem_iff := by
    intro t
    rw [seat_opening]
    simp [Seat.waits]
  head_eq := rfl
  tail_eq := by
    show Ticket.Word.free.tail = number 0 0
    decide
  ticket_eq i hi := absurd hi (Nat.not_lt_zero i)

section Length

variable (h : Queued u held first line)
include h

/-- A thread that does not wait leaves a ticket for the lock that is outstanding. -/
theorem Queued.length_lt_of_not_mem (hn : n < 2 ^ 32) (ht : t ∉ line) :
    held.toNat + line.length < 2 ^ 32 := by
  have hle := (List.nodup_cons.mpr ⟨ht, h.nodup⟩).length_le_card
  rw [Fintype.card_fin, List.length_cons] at hle
  have := held.toNat_le
  omega

theorem Queued.head_eq_tail_iff (hlt : held.toNat + line.length < 2 ^ 32) :
    Ticket.Word.head u.shared = Ticket.Word.tail u.shared ↔ held = false ∧ line = [] := by
  rw [h.head_eq, h.tail_eq, Nat.add_assoc, Ticket.number_add, Ticket.number_eq_self_iff hlt,
    Nat.add_eq_zero_iff, List.length_eq_zero_iff]
  cases held <;> simp

/-- So many tickets come round to the one that is called. -/
theorem Queued.head_eq_tail (heq : held.toNat + line.length = 2 ^ 32) :
    Ticket.Word.head u.shared = Ticket.Word.tail u.shared := by
  rw [h.head_eq, h.tail_eq, Nat.add_assoc, heq, Ticket.number_add]
  exact (UInt32.add_zero _).symm

end Length

theorem Queued.settle_idle {held' : Bool} {first' : Nat} (h : Queued u held first line)
    (ht : t ∉ line) (hs : Single (u.settle t call turn) held')
    (hseat : (Adapter.carry turn).seat.waits = false)
    (hhead : Ticket.Word.head turn.shared = number 0 first')
    (htail : Ticket.Word.tail turn.shared = number 0 (first' + held'.toNat + line.length))
    (hfirst : line ≠ [] → first' + held'.toNat = first + held.toNat) :
    Queued (u.settle t call turn) held' first' line where
  toSingle := hs
  nodup := h.nodup
  mem_iff := by
    intro s
    rw [seat_settle]
    split
    · next he => simp [he, ht, hseat]
    · exact h.mem_iff s
  head_eq := hhead
  tail_eq := htail
  ticket_eq := by
    intro i hi
    have hne : (line)[i] ≠ t := fun he => ht (he ▸ List.getElem_mem hi)
    rw [seat_settle, if_neg hne, hfirst (List.ne_nil_of_length_pos (Nat.zero_lt_of_lt hi))]
    exact h.ticket_eq i hi

theorem Queued.settle_wait {own : Ticket.Own} (h : Queued u held first line) (ht : t ∉ line)
    (hcall : Calls.writes call = true) (hticket : own.ticket = Ticket.Word.tail u.shared) :
    Queued (u.settle t call ⟨Ticket.Word.draw u.shared, own, .waiting Ticket.Wait.called⟩) held
      first (line ++ [t]) where
  toSingle := by
    have hs := h.toSingle.settle t call
      ⟨Ticket.Word.draw u.shared, own, .waiting Ticket.Wait.called⟩ hcall (by rintro ⟨⟩)
    rwa [show held = (held ^^ false) from (Bool.xor_false held).symm]
  nodup := List.nodup_append.mpr ⟨h.nodup, List.nodup_singleton t, by
    rintro s hs _ hm rfl
    exact ht (List.mem_singleton.mp hm ▸ hs)⟩
  mem_iff := by
    intro s
    rw [seat_settle, List.mem_append, List.mem_singleton]
    split
    · next he => simp [he, Adapter.carry, Turn.seat, Seat.waits]
    · next hst => rw [or_iff_left hst, h.mem_iff]
  head_eq := (Ticket.Word.head_draw _).trans h.head_eq
  tail_eq := by
    rw [List.length_append, List.length_singleton, ← Nat.add_assoc, Ticket.number_succ, ← h.tail_eq]
    exact Ticket.Word.tail_draw _
  ticket_eq := by
    intro i hi
    rw [List.length_append, List.length_singleton] at hi
    rw [seat_settle]
    obtain hlt | rfl := Nat.lt_succ_iff_lt_or_eq.mp hi
    · have hne : (line)[i] ≠ t := fun he => ht (he ▸ List.getElem_mem hlt)
      rw [List.getElem_append_left hlt, if_neg hne]
      exact h.ticket_eq i hlt
    · rw [List.getElem_concat_length rfl, if_pos rfl]
      exact ⟨_, _, rfl, hticket.trans h.tail_eq⟩

theorem Queued.settle_grant {own : Ticket.Own} (h : Queued u false first (t :: rest)) :
    Queued (u.settle t none ⟨u.shared, own, .done .done⟩) true first rest where
  toSingle := h.toSingle.settle t none _ rfl fun _ => rfl
  nodup := (List.nodup_cons.mp h.nodup).2
  mem_iff := by
    intro s
    rw [seat_settle]
    split
    · next he => simp [he, (List.nodup_cons.mp h.nodup).1, Adapter.carry, Turn.seat, Seat.waits]
    · next hst => rw [← h.mem_iff, List.mem_cons, or_iff_right hst]
  head_eq := h.head_eq
  tail_eq := by
    refine h.tail_eq.trans ?_
    rw [List.length_cons, Nat.add_comm rest.length, ← Nat.add_assoc]
    rfl
  ticket_eq := by
    intro i hi
    have hne : rest[i] ≠ t := fun he => (List.nodup_cons.mp h.nodup).1 (he ▸ List.getElem_mem hi)
    obtain ⟨own, wait, hs, hticket⟩ := h.ticket_eq (i + 1) (Nat.succ_lt_succ hi)
    rw [seat_settle, if_neg hne]
    refine ⟨own, wait, hs, hticket.trans ?_⟩
    rw [Nat.add_comm i, ← Nat.add_assoc]
    rfl

theorem Queued.not_mem_idle {own : Unit} (h : Queued u held first line)
    (hs : u.seat t = .idle own) : t ∉ line := by
  rw [h.mem_iff, hs]
  exact Bool.false_ne_true

theorem Queued.settle_draw {own : Ticket.Own} {reply : Reply} (h : Queued u false first [])
    (hcall : Calls.writes call = true) (hlocks : Calls.unlocks call = false)
    (hover : Answer.turnsOver (.done reply) = true) :
    Queued (u.settle t call ⟨Ticket.Word.draw u.shared, own, .done reply⟩) true first [] := by
  have hs := h.toSingle.settle t call ⟨Ticket.Word.draw u.shared, own, .done reply⟩ hcall
    fun _ => hlocks.symm
  rw [show Turn.answer _ = .done reply from rfl, hover] at hs
  refine h.settle_idle List.not_mem_nil hs rfl ?_ ?_ (absurd rfl)
  · exact (Ticket.Word.head_draw _).trans h.head_eq
  · refine (Ticket.Word.tail_draw _).trans ?_
    rw [h.tail_eq]
    exact (Ticket.number_succ 0 first).symm

variable (call) in
theorem Queued.settle_acquire (h : Queued u held first line) (hn : n < 2 ^ 32) (ht : t ∉ line)
    (hcall : Calls.writes call = true) (hlocks : Calls.unlocks call = false) (own : Ticket.Own) :
    ∃ held' line', Queued (u.settle t call (Ticket.acquire u.shared own)) held' first line' := by
  by_cases hfree : Ticket.Word.head u.shared = Ticket.Word.tail u.shared
  · obtain ⟨rfl, rfl⟩ := (h.head_eq_tail_iff (h.length_lt_of_not_mem hn ht)).mp hfree
    obtain ⟨own', hturn⟩ := acquire_of_free own hfree
    rw [hturn]
    exact ⟨true, [], h.settle_draw hcall hlocks rfl⟩
  · obtain ⟨own', hticket, hturn⟩ := acquire_of_not_free own hfree
    rw [hturn]
    exact ⟨held, line ++ [t], h.settle_wait ht hcall hticket⟩

theorem Queued.settle_attempt (h : Queued u held first line) (hn : n < 2 ^ 32) (ht : t ∉ line)
    (own : Ticket.Own) :
    ∃ held' line', Queued (u.settle t (some .tryAcquire) (Ticket.tryAcquire u.shared own)) held'
      first line' := by
  by_cases hfree : Ticket.Word.head u.shared = Ticket.Word.tail u.shared
  · obtain ⟨rfl, rfl⟩ := (h.head_eq_tail_iff (h.length_lt_of_not_mem hn ht)).mp hfree
    obtain ⟨own', hturn⟩ := tryAcquire_of_free own hfree
    rw [hturn]
    exact ⟨true, [], h.settle_draw rfl rfl rfl⟩
  · have hs := h.toSingle.settle t (some .tryAcquire) ⟨u.shared, own, .done (.took false)⟩ rfl
      (by rintro ⟨⟩)
    rw [tryAcquire_of_not_free hfree]
    refine ⟨held, line, h.settle_idle ht ?_ rfl h.head_eq h.tail_eq fun _ => rfl⟩
    exact (Bool.xor_false held).symm ▸ hs

theorem Queued.settle_release (h : Queued u true first line) (ht : t ∉ line) (own : Ticket.Own) :
    Queued (u.settle t (some .release) (Ticket.release u.shared own)) false (first + 1) line := by
  have hs := h.toSingle.settle t (some .release) (Ticket.release u.shared own) rfl
    fun _ => rfl
  refine h.settle_idle ht hs rfl ?_ ?_ fun _ => rfl
  · refine (Ticket.Word.head_call _).trans ?_
    rw [h.head_eq]
    exact (Ticket.number_succ 0 first).symm
  · exact (Ticket.Word.tail_call _).trans h.tail_eq

theorem Queued.settle_resume {own : Unit} {wait : Adapter.Wait Ticket.Own Ticket.Wait}
    (h : Queued u held first line) (hn : n < 2 ^ 32) (hs : u.seat t = .waiting own wait) :
    ∃ held' line', Queued (u.settle t none (Ticket.await u.shared wait.own)) held' first line' := by
  have ht : t ∈ line := by
    rw [h.mem_iff, hs]
    rfl
  obtain ⟨i, hi, rfl⟩ := List.mem_iff_getElem.mp ht
  obtain ⟨own', wait', hs', hticket⟩ := h.ticket_eq i hi
  obtain rfl : wait = wait' := by
    cases hs.symm.trans hs'
    rfl
  have hlength := h.nodup.length_le_card
  rw [Fintype.card_fin] at hlength
  have hle := held.toNat_le
  have hcalled : Ticket.Word.head u.shared = wait.own.ticket ↔ held.toNat + i = 0 := by
    rw [h.head_eq, hticket, Nat.add_assoc, Ticket.number_add, Ticket.number_eq_self_iff]
    show _ < 2 ^ 32
    omega
  by_cases hzero : held.toNat + i = 0
  · have hturn : Ticket.await u.shared wait.own = _ := if_pos (hcalled.mpr hzero)
    obtain ⟨hheld, rfl⟩ := Nat.add_eq_zero_iff.mp hzero
    obtain rfl : held = false := by cases held <;> simp_all
    obtain ⟨s, rest, rfl⟩ := List.exists_cons_of_length_pos hi
    rw [hturn]
    exact ⟨true, rest, h.settle_grant⟩
  · rw [await_of_ne (mt hcalled.mp hzero) wait.point]
    have hself := settle_self hs
    exact ⟨held, line, hself.symm ▸ h⟩

theorem start_tickets {command : Command} : tickets.lock.start command u.shared tickets.fresh =
    Ticket.start command u.shared Ticket.Own.initial := rfl

theorem Queued.step (h : Queued u held first line) (hn : n < 2 ^ 32) (hp : u.Permits call) :
    ∃ held' first' line', Queued (u.step t call).1 held' first' line' := by
  obtain ⟨cause, he⟩ | ⟨command, own, rfl, hs, he⟩ | ⟨own, wait, rfl, hs, he⟩ := step_cases u t call
  · rw [he]
    exact ⟨held, first, line, h⟩
  · have ht := h.not_mem_idle hs
    obtain ⟨⟨name, hname⟩, hunlock⟩ := hp
    rw [he]
    obtain rfl | rfl | rfl := exclusiveCommand?_cases hname
    · have hturn := (start_tickets (u := u)).trans start_acquire
      obtain ⟨held', line', h'⟩ := h.settle_acquire (some .acquire) hn ht rfl rfl
        Ticket.Own.initial
      rw [hturn]
      exact ⟨held', first, line', h'⟩
    · obtain ⟨held', line', h'⟩ := h.settle_attempt hn ht Ticket.Own.initial
      exact ⟨held', first, line', h'⟩
    · have hpos := hunlock rfl
      rw [show accessOf .release = .writing from rfl, h.writing_eq] at hpos
      obtain rfl : held = true := by cases held <;> simp_all
      exact ⟨false, first + 1, line, h.settle_release ht Ticket.Own.initial⟩
  · obtain ⟨held', line', h'⟩ := h.settle_resume hn hs
    rw [he]
    cases hpoint : wait.point
    exact ⟨held', first, line', h'⟩

theorem permits_acquire : u.Permits (some .acquire) := ⟨⟨"lock", rfl⟩, nofun⟩

theorem step_acquire (hs : u.seat t = .idle ()) (hturn : Ticket.acquire u.shared .initial = turn) :
    (u.step t (some .acquire)).1 = u.settle t (some .acquire) turn := by
  have hcall := (start_tickets.trans start_acquire).trans hturn
  exact (congrArg Prod.fst (step_start hs .acquire)).trans (congrArg (u.settle t _) hcall)

theorem Queued.step_take (h : Queued u false first []) (hs : u.seat t = .idle ()) :
    Queued (u.step t (some .acquire)).1 true first [] ∧
      ∀ s, (u.step t (some .acquire)).1.seat s = u.seat s := by
  have hfree := (h.head_eq_tail_iff (Nat.two_pow_pos 32)).mpr ⟨rfl, rfl⟩
  obtain ⟨own, hturn⟩ := acquire_of_free Ticket.Own.initial hfree
  rw [step_acquire hs hturn]
  refine ⟨h.settle_draw rfl rfl rfl, fun s => (seat_settle s).trans ?_⟩
  split
  · next hst => rw [hst, hs]; rfl
  · rfl

theorem Queued.step_wait (h : Queued u true first line) (hs : u.seat t = .idle ())
    (hlt : 1 + line.length < 2 ^ 32) :
    Queued (u.step t (some .acquire)).1 true first (line ++ [t]) := by
  have hheld : Ticket.Word.head u.shared ≠ Ticket.Word.tail u.shared := fun hfree =>
    absurd ((h.head_eq_tail_iff hlt).mp hfree).1 (by decide)
  obtain ⟨own, hticket, hturn⟩ := acquire_of_not_free Ticket.Own.initial hheld
  rw [step_acquire hs hturn]
  exact h.settle_wait (h.not_mem_idle hs) rfl hticket

def asks (threads : List (Fin n)) : Calls n :=
  threads.map fun t => (t, some .acquire)

theorem Queued.run_asks {threads : List (Fin n)} (h : Queued u true first line)
    (hidle : ∀ t ∈ threads, u.seat t = .idle ()) (hnodup : threads.Nodup)
    (hlt : line.length + threads.length < 2 ^ 32) :
    u.Proper (asks threads) ∧ Queued (u.run (asks threads)).1 true first (line ++ threads) := by
  induction threads generalizing u line with
  | nil => exact ⟨trivial, (List.append_nil line).symm ▸ h⟩
  | cons t rest ih =>
    rw [List.length_cons] at hlt
    obtain ⟨ht, hrest⟩ := List.nodup_cons.mp hnodup
    have hs := hidle t List.mem_cons_self
    have h' := h.step_wait hs (by omega)
    have hidle' : ∀ s ∈ rest, (u.step t (some .acquire)).1.seat s = .idle () := by
      intro s hmem
      have hst : s ≠ t := fun he => ht (he ▸ hmem)
      rw [step_start hs, seat_settle, if_neg hst]
      exact hidle s (List.mem_cons_of_mem t hmem)
    obtain ⟨hp, hq⟩ := ih h' hidle' hrest (by simp; omega)
    rw [List.append_assoc] at hq
    exact ⟨⟨permits_acquire, hp⟩, hq⟩

end Tickets

section ReadWrite

variable {u : Outstanding Adapter.readWrite n} {t : Fin n} {call : Option Command}
  {own : Backoff} {access : Access}

/-- The word counts the locks that are outstanding, and threads wait for what they asked for. -/
structure Admitted (u : Outstanding Adapter.readWrite n) : Prop extends
    ReadWrite.Counts u.shared u.count where
  point_eq : ∀ t own wait, u.seat t = .waiting own wait → wait.point = (u.asked t).point

theorem Admitted.opening (n : Nat) : Admitted (.opening Adapter.readWrite n) where
  toCounts := .free
  point_eq := by
    intro t own wait hs
    simp [Outstanding.opening, Outstanding.seat, System.seat] at hs

theorem Admitted.settle
    {turn : LockTurn Adapter.readWrite.Shared Adapter.readWrite.Local Adapter.readWrite.Point}
    (h : Admitted u) (hcounts : ReadWrite.Counts turn.shared (u.settle t call turn).count)
    (hpoint : ∀ point, turn.ending = .waiting point → point = (u.access t call).point) :
    Admitted (u.settle t call turn) where
  toCounts := hcounts
  point_eq := by
    intro s own wait hs
    rw [seat_settle] at hs
    split at hs
    · next he =>
      obtain ⟨shared, own', ending⟩ := turn
      cases ending with
      | waiting point =>
        cases hs
        rw [he, asked_settle_self rfl]
        exact hpoint point rfl
      | done | failed => cases hs
    · next hst =>
      obtain he | ⟨he, -⟩ := u.asked_settle t call turn s
      · rw [he]
        exact h.point_eq s own wait hs
      · exact absurd he hst

theorem Admitted.settle_lock
    {turn : LockTurn Adapter.readWrite.Shared Adapter.readWrite.Local Adapter.readWrite.Point}
    {reply : Reply} (h : Admitted u) (hlocks : Calls.unlocks call = false)
    (hadmits : (u.access t call).admits u.shared = true)
    (hshared : turn.shared = (u.access t call).enter u.shared) (hending : turn.ending = .done reply)
    (hover : Answer.turnsOver (.done reply) = true) : Admitted (u.settle t call turn) := by
  have hanswer : turn.answer = .done reply := by simp [Turn.answer, hending]
  refine h.settle ?_ fun point hpoint => by cases hending.symm.trans hpoint
  rw [count_settle_lock u t (hanswer ▸ hover) hlocks, hshared]
  exact h.toCounts.enter (h.toCounts.admits_iff.mp hadmits)

theorem Admitted.settle_unlock
    {turn : LockTurn Adapter.readWrite.Shared Adapter.readWrite.Local Adapter.readWrite.Point}
    (h : Admitted u) (hunlocks : Calls.unlocks call = true) (hpos : 0 < u.count (u.access t call))
    (hshared : turn.shared = (u.access t call).exit u.shared)
    (hending : turn.ending = .done .done) :
    Admitted (u.settle t call turn) := by
  have hanswer : turn.answer = .done .done := by simp [Turn.answer, hending]
  refine h.settle ?_ fun point hpoint => by cases hending.symm.trans hpoint
  rw [count_settle_unlock u t (hanswer ▸ rfl) hunlocks, hshared]
  exact h.toCounts.exit hpos

theorem Admitted.settle_not
    {turn : LockTurn Adapter.readWrite.Shared Adapter.readWrite.Local Adapter.readWrite.Point}
    (h : Admitted u) (hshared : turn.shared = u.shared)
    (hending : turn.ending = .waiting (u.access t call).point ∨
      turn.ending = .done (.took false)) : Admitted (u.settle t call turn) := by
  have hover : turn.answer.turnsOver = false := by
    obtain he | he := hending <;> simp [Turn.answer, he, Answer.turnsOver]
  refine h.settle ?_ ?_
  · rw [count_settle_of_not u t call hover, hshared]
    exact h.toCounts
  · intro point hpoint
    obtain he | he := hending <;> cases he.symm.trans hpoint
    rfl

theorem Admitted.step (h : Admitted u) (hp : u.Permits call) : Admitted (u.step t call).1 := by
  obtain ⟨cause, he⟩ | ⟨command, own, rfl, -, he⟩ | ⟨own, wait, rfl, hs, he⟩ := step_cases u t call
  · rw [he]
    exact h
  · rw [he]
    cases hb : command.givesBack with
    | true =>
      have hturn : Adapter.readWrite.lock.start command u.shared Adapter.readWrite.fresh = _ :=
        ReadWrite.start_givesBack hb
      rw [hturn]
      exact h.settle_unlock hb (hp.2 hb) rfl rfl
    | false =>
      have hlocks : Calls.unlocks (some command) = false := hb
      by_cases hadmits : (accessOf command).admits u.shared = true
      · cases ha : command.asks with
        | true =>
          have hturn : Adapter.readWrite.lock.start command u.shared Adapter.readWrite.fresh = _ :=
            (ReadWrite.start_asks ha).trans (if_pos hadmits)
          rw [hturn]
          exact h.settle_lock hlocks hadmits rfl rfl rfl
        | false =>
          have hturn : Adapter.readWrite.lock.start command u.shared Adapter.readWrite.fresh = _ :=
            (ReadWrite.start_attempts ha hb).trans (if_pos hadmits)
          rw [hturn]
          exact h.settle_lock hlocks hadmits rfl rfl rfl
      · cases ha : command.asks with
        | true =>
          have hturn : Adapter.readWrite.lock.start command u.shared Adapter.readWrite.fresh = _ :=
            (ReadWrite.start_asks ha).trans (if_neg hadmits)
          rw [hturn]
          exact h.settle_not rfl (.inl rfl)
        | false =>
          have hturn : Adapter.readWrite.lock.start command u.shared Adapter.readWrite.fresh = _ :=
            (ReadWrite.start_attempts ha hb).trans (if_neg hadmits)
          rw [hturn]
          exact h.settle_not rfl (.inr rfl)
  · have hpoint : wait.point = (u.asked t).point := h.point_eq t own wait hs
    have hturn : Adapter.readWrite.lock.resume wait.point u.shared wait.own = _ :=
      hpoint ▸ ReadWrite.resume_eq
    rw [he, hturn]
    by_cases hadmits : (u.asked t).admits u.shared = true
    · rw [if_pos hadmits]
      exact h.settle_lock rfl hadmits rfl rfl rfl
    · rw [if_neg hadmits]
      exact h.settle_not rfl (.inl (congrArg Ending.waiting hpoint))

end ReadWrite

end Outstanding

end SpinLocks
