import Mathlib.Algebra.GroupWithZero.Nat
import SpinLocks.Proofs.Ticket.Order

namespace SpinLocks.Ticket

open Usage

variable {n : Nat}

structure Record where
  /-- How many threads held the lock or waited for it, each time the thread asked for it. -/
  queues : List Nat
  /-- How many tickets had been drawn before the last that the thread drew. -/
  last : Option Nat
  deriving DecidableEq

namespace Record

def blank : Record := ⟨[], none⟩

def next (u : Threads n) (t : Fin n) (action : Action Entry Command) (drawn : Nat)
    (record : Record) : Record :=
  match u.seat t, action with
  | .vacant, .join _ => blank
  | .idle _, .start command =>
    { queues := record.queues ++ if command.asks then [u.engaged.card] else []
      last := if u.enters ticket t action then some drawn else record.last }
  | _, _ => record

/-- The thread has counted what the record says, where `start` is the first ticket of all. -/
structure Tells (record : Record) (start : UInt32) (own : Own) : Prop where
  acquires_eq : own.acquires = record.queues.length
  queuedTotal_eq : own.queuedTotal = record.queues.sum
  ticket_eq : own.ticket = record.last.elim 0 (number start)

end Record

structure Tally (n : Nat) where
  drawn : Nat
  records : Fin n → Record

namespace Tally

def opening : Tally n := ⟨0, fun _ => .blank⟩

def step (tally : Tally n) (u : Threads n) (t : Fin n) (action : Action Entry Command) :
    Tally n where
  drawn := tally.drawn + (if u.enters ticket t action then [t] else []).length
  records := Function.update tally.records t
    ((tally.records t).next u t action tally.drawn)

theorem records_step (tally : Tally n) (u : Threads n) (t : Fin n)
    (action : Action Entry Command) : (tally.step u t action).records =
      Function.update tally.records t ((tally.records t).next u t action tally.drawn) := rfl

/-- The tally is kept beside the run, of nothing but who acts and how. -/
def run (tally : Tally n) (u : Threads n) : Schedule n → Tally n
  | [] => tally
  | (t, action) :: rest => (tally.step u t action).run (u.step ticket t action).1 rest

end Tally

/-- What a thread may do. Whoever holds the lock may also attempt it once more, in vain. -/
def Allows (u : Threads n) (t : Fin n) (action : Action Entry Command) : Prop :=
  u.permits t action = true ∨ action = .start .tryAcquire

instance Allows.decidable (u : Threads n) (t : Fin n) (action : Action Entry Command) :
    Decidable (Allows u t action) :=
  inferInstanceAs (Decidable (_ ∨ _))

variable {start : UInt32} {u : Threads n} {first drawn : Nat} {line : List (Fin n)} {t : Fin n}
  {own : Own} {point : Wait} {action : Action Entry Command} {command : Command} {record : Record}

theorem own_await (word : Word) (own : Own) : (await word own).own = own := by
  rw [await]
  split <;> rfl

theorem step_attempt_reading (hs : u.seat t = .idle own) :
    u.step ticket t (.start .tryAcquireRead) = (u, .refused .noSuchOperation) := by
  have hstart : ticket.start .tryAcquireRead u.shared own =
    .refuse u.shared own .noSuchOperation := rfl
  rw [step_start hs, hstart, Turn.refuse, settle_failed, ← hs, put_self]
  rfl

namespace Counted

variable (hn : n < 2 ^ 32) (h : Counted start u first line)
include hn h

theorem own_tryAcquire (own : Own) : (tryAcquire u.shared own).own =
    if line = [] then { own with ticket := u.shared.tail } else own := by
  rw [tryAcquire, Word.drawIfFree?_eq]
  simp only [h.head_eq_tail_iff hn]
  by_cases hnil : line = [] <;> simp [hnil]

theorem step_attempt_held (hs : u.seat t = .idle own) (hh : u.holds t = true) :
    u.step ticket t (.start .tryAcquire) = (u, .done (.took false)) := by
  have hnil : line ≠ [] := by
    obtain ⟨rest, rfl⟩ := h.holder_first t hh
    exact List.cons_ne_nil t rest
  have hturn : tryAcquire u.shared own = ⟨u.shared, own, .done (.took false)⟩ := by
    rw [tryAcquire, Word.drawIfFree?_eq, if_neg (mt (h.head_eq_tail_iff hn).mp hnil)]
  have hstart : ticket.start .tryAcquire u.shared own = tryAcquire u.shared own := rfl
  rw [Usage.step_start hs, hstart, hturn, settle_took, Bool.xor_false, ← hs, put_self]
  rfl

theorem enters_attempt (hs : u.seat t = .idle own) :
    u.enters ticket t (.start .tryAcquire) = decide (line = []) := by
  cases hh : u.holds t with
  | true =>
    obtain ⟨rest, rfl⟩ := h.holder_first t hh
    rw [Lined.enters_of_holds hh]
    rfl
  | false =>
    have hstep : u.step ticket t (.start .tryAcquire) = _ := Usage.step_start hs .tryAcquire
    have h' := (h.settle_attempt hn hs hh).1
    split at h'
    · next hnil =>
      subst hnil
      exact h.toLined.enters_enter (by rw [hstep]; exact h'.toLined)
    · next hnil =>
      rw [h.toLined.enters_stay (by rw [hstep]; exact h'.toLined), decide_eq_false hnil]

theorem step_allowed (ha : Allows u t action) : Advances start u t action first line := by
  obtain hp | rfl := ha
  · exact (h.step hn hp).1
  · cases hh : u.holds t with
    | true =>
      obtain ⟨own, hs⟩ := h.holder_idle t hh
      exact .stay h (by rwa [h.step_attempt_held hn hs hh])
    | false => exact (h.step hn (by rw [permits, hh]; rfl)).1

end Counted

namespace Record

theorem tells_blank (start : UInt32) : blank.Tells start Own.initial := ⟨rfl, rfl, rfl⟩

theorem next_refused {cause : Refusal} (h : (u.seat t).refusal? action = some cause) :
    record.next u t action drawn = record := by
  unfold next
  split <;> simp_all [Seat.refusal?]

theorem next_join {entry : Entry} (hs : u.seat t = .vacant) :
    record.next u t (.join entry) drawn = blank := by
  simp only [next, hs]

theorem next_resume : record.next u t .resume drawn = record := by
  unfold next
  split <;> simp_all

theorem next_start (hs : u.seat t = .idle own) :
    record.next u t (.start command) drawn =
      { queues := record.queues ++ if command.asks then [u.engaged.card] else []
        last := if u.enters ticket t (.start command) then some drawn else record.last } := by
  simp only [next, hs]

theorem next_start_self (hs : u.seat t = .idle own) (hasks : command.asks = false)
    (he : u.enters ticket t (.start command) = false) :
    record.next u t (.start command) drawn = record := by
  rw [next_start hs, hasks, he]
  simp

namespace Tells

variable (hn : n < 2 ^ 32) (h : Counted start u first line) (hr : record.Tells start own)
include hn h hr

theorem acquire (hs : u.seat t = .idle own) (hf : u.holds t = false)
    (hasks : command.asks = true) :
    (record.next u t (.start command) (first + line.length)).Tells start
      (acquire u.shared own).own := by
  have hown : (Ticket.acquire u.shared own).own =
      ⟨u.shared.tail, own.queuedTotal + u.shared.queued.toNat, own.acquires + 1⟩ := by
    rw [Ticket.acquire, own_await, Word.head_draw, Word.queued]
  rw [next_start hs, hasks, h.enters_of_asks hn hs hf hasks, hown]
  constructor
  · simp [hr.acquires_eq]
  · simp [hr.queuedTotal_eq, h.toNat_queued hn]
  · exact h.tail_eq

theorem attempt (hs : u.seat t = .idle own) :
    (record.next u t (.start .tryAcquire) (first + line.length)).Tells start
      (tryAcquire u.shared own).own := by
  have henters := h.enters_attempt hn hs
  rw [h.own_tryAcquire hn]
  by_cases hnil : line = []
  · rw [decide_eq_true hnil] at henters
    rw [next_start hs, henters, if_pos hnil]
    constructor
    · simpa [Command.asks] using hr.acquires_eq
    · simpa [Command.asks] using hr.queuedTotal_eq
    · exact h.tail_eq
  · rw [decide_eq_false hnil] at henters
    rw [next_start_self hs rfl henters, if_neg hnil]
    exact hr

theorem start_command (hs : u.seat t = .idle own) (ha : Allows u t (.start command)) :
    (record.next u t (.start command) (first + line.length)).Tells start
      (ticket.start command u.shared own).own := by
  obtain hp | ha := ha
  · have hb : command.givesBack = u.holds t := by simpa [permits] using hp
    cases hh : u.holds t with
    | true =>
      rw [hh] at hb
      have hasks : command.asks = false := by cases command <;> first | rfl | cases hb
      have hstart : ticket.start command u.shared own = release u.shared own :=
        Command.exclusive_of_givesBack hb
      rw [next_start_self hs hasks (Lined.enters_of_holds hh), hstart]
      exact hr
    | false =>
      obtain hasks | rfl | rfl := Command.asks_or_attempts (hb.trans hh)
      · have hstart : ticket.start command u.shared own = Ticket.acquire u.shared own :=
          Command.exclusive_of_asks hasks
        rw [hstart]
        exact hr.acquire hn h hs hh hasks
      · exact hr.attempt hn h hs
      · have hself := step_attempt_reading hs
        have hstay := h.toLined.enters_stay (by rw [hself]; exact h.toLined)
        rw [next_start_self hs rfl hstay]
        exact hr
  · cases ha
    exact hr.attempt hn h hs

end Tells

end Record

/-- Where the line stands, and what the tally says of it and of each thread. -/
structure Tallied (start : UInt32) (tally : Tally n) (u : Threads n) (first : Nat)
    (line : List (Fin n)) : Prop where
  counted : Counted start u first line
  drawn_eq : tally.drawn = first + line.length
  tells : ∀ t own, u.own? t = some own → (tally.records t).Tells start own

namespace Tallied

variable {tally : Tally n} {own' : Own}

theorem opening {word : Word} (hw : word.head = word.tail) (n : Nat) :
    Tallied word.head Tally.opening (fresh word n : Threads n) 0 [] where
  counted := counted_fresh hw n
  drawn_eq := rfl
  tells := by
    intro t own ho
    cases (own?_fresh word n t).symm.trans ho

variable (hn : n < 2 ^ 32) (h : Tallied start tally u first line) (ha : Allows u t action)
include hn h ha

theorem tells_self (ho : (u.step ticket t action).1.own? t = some own') :
    ((tally.records t).next u t action tally.drawn).Tells start own' := by
  obtain ⟨cause, hr, he⟩ | ⟨entry, rfl, hs⟩ | ⟨own, rfl, hs⟩ | ⟨own, command, rfl, hs⟩ |
    ⟨own, point, rfl, hs⟩ := step_cases ticket u t action
  · rw [he] at ho
    rw [Record.next_refused hr]
    exact h.tells t own' ho
  · have hjoin : ticket.join entry u.shared = (u.shared, .ok Own.initial) := rfl
    rw [step_join_ok ticket hs hjoin, own?_put, if_pos rfl] at ho
    cases ho
    rw [Record.next_join hs]
    exact Record.tells_blank start
  · rw [fst_step_leave ticket hs, own?_put, if_pos rfl] at ho
    cases ho
  · rw [Usage.step_start hs, own?_settle] at ho
    cases ho
    rw [h.drawn_eq]
    exact (h.tells t own (own?_of_idle hs)).start_command hn h.counted hs ha
  · rw [step_resume hs, own?_settle] at ho
    cases ho
    cases point
    rw [Record.next_resume, show (ticket.resume .called u.shared own).own = own from own_await ..]
    exact h.tells t own (own?_of_waiting hs)

theorem step : ∃ first' line',
    Tallied start (tally.step u t action) (u.step ticket t action).1 first' line' := by
  obtain ⟨first', line', h', -, hcount⟩ := h.counted.step_allowed hn ha
  refine ⟨first', line', h', ?_, ?_⟩
  · rw [Tally.step, h.drawn_eq, hcount]
  · intro s own' ho
    by_cases hst : s = t
    · subst hst
      rw [Tally.records_step, Function.update_self]
      exact h.tells_self hn ha ho
    · rw [own?_step_of_ne hst] at ho
      rw [Tally.records_step, Function.update_of_ne hst]
      exact h.tells s own' ho

omit ha in
theorem run {schedule : Schedule n} (ha : u.Along ticket Allows schedule) : ∃ first' line',
    Tallied start (tally.run u schedule) (u.run ticket schedule).1 first' line' := by
  induction schedule generalizing u tally first line with
  | nil => exact ⟨first, line, h⟩
  | cons step rest ih =>
    obtain ⟨t, action⟩ := step
    obtain ⟨first', line', h'⟩ := h.step hn ha.1
    exact ih h' ha.2

end Tallied

variable {word : Word} {schedule : Schedule n}

/-- Each thread has counted how often it asked for the lock, and how many threads held the lock or
waited for it each time, and keeps the ticket that it drew last. -/
theorem statistics_run (hn : n < 2 ^ 32) (hw : word.head = word.tail)
    (ha : (fresh word n : Threads n).Along ticket Allows schedule) :
    let before : Threads n := fresh word n
    ∀ t own, (before.run ticket schedule).1.own? t = some own →
      ((Tally.opening.run before schedule).records t).Tells word.head own := by
  intro before
  obtain ⟨first, line, h⟩ := (Tallied.opening hw n).run hn ha
  exact h.tells

/-- The first thread has the last ticket, and attempts the lock that it holds once more. The second
draws ticket zero, looks in vain twice before it is called, and then asks for the lock again. -/
theorem statistics_wrapping :
    let word : Word := .ofCounters 0xffffffff 0xffffffff
    let schedule : Schedule 2 :=
      [(0, .join ⟨.pair, 0⟩), (1, .join ⟨.pair, 1⟩), (0, .start .tryAcquire),
        (0, .start .tryAcquire), (1, .start .acquire), (1, .resume), (1, .resume),
        (0, .start .release), (1, .resume), (1, .start .release), (1, .start .acquire)]
    let before : Threads 2 := fresh word 2
    let record := (Tally.opening.run before schedule).records 1
    2 < 2 ^ 32 ∧ word.head = word.tail ∧ before.Along ticket Allows schedule ∧
      (before.run ticket schedule).1.own? 1 = some ⟨1, 1, 2⟩ ∧
      record = ⟨[1, 0], some 2⟩ ∧ record.Tells word.head ⟨1, 1, 2⟩ := by
  intro word schedule before record
  have hn : 2 < 2 ^ 32 := by decide
  have hw : word.head = word.tail := by decide
  have ha : before.Along ticket Allows schedule := by decide
  have ho : (before.run ticket schedule).1.own? 1 = some ⟨1, 1, 2⟩ := by decide +kernel
  have hrecord : record = ⟨[1, 0], some 2⟩ := by decide
  exact ⟨hn, hw, ha, ho, hrecord, statistics_run hn hw ha 1 _ ho⟩

end SpinLocks.Ticket
