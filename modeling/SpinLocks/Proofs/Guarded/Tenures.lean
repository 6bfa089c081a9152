import SpinLocks.Proofs.Guarded.Kinds
import SpinLocks.Proofs.Guarded.Steps

namespace SpinLocks.Guarded

open Usage
open ReadWrite (Access)

variable {LockShared Local Point Data Result : Type} {n : Nat}

section Run

variable {lock : Lock LockShared Local Point}
  {Inv : Nat → (Fin n → Access) → Usage LockShared Local Point n → Prop} {asked : Nat}
  {s : Threads LockShared Local Point Data Result n} {u : Usage LockShared Local Point n}
  {c : Cell Data n} {t : Fin n} {action : Action Entry (Command Data Result)}
  {plan : Plan Data Result n}

theorem Comes.sees (h : Standing Inv asked s u c)
    (hc : Comes lock Inv asked u c t (deeds lock s t action) (s.step (protocol lock) t action)) :
    Sees lock s t action where
  tells use hm := by
    rw [h.data_eq]
    exact (hc.tells use hm).1
  alone use hm r hg := (hc.tells use hm).2 r ((h.owner_iff r).mp hg)
  keeps hnone := by
    obtain ⟨c', h', hm⟩ := hc.stands
    rw [h'.data_eq, hm.data_eq, after_events, h.data_eq]
    simpa using hnone

/-- What happens in a run goes on from what happened before. -/
theorem Standing.run (hx : Excludes lock Inv) (h : Standing Inv asked s u c) {value : Data}
    {past : List (Event Data Result n)} (hkept : Kept value past c)
    (hp : Proper lock s plan)
    (hfew : asked + (u.entries lock (calls (deedsAlong lock s plan))).length < 2 ^ 64) :
    (∃ asked' c', Standing Inv asked' (s.run (protocol lock) plan).1
        (u.run lock (calls (deedsAlong lock s plan))).1 c' ∧
      Kept value (past ++ events lock u (deedsAlong lock s plan)) c') ∧
    Along lock (Sees lock) s plan := by
  induction plan generalizing asked s u c past with
  | nil => exact ⟨⟨asked, c, h, by simpa [deedsAlong, events] using hkept⟩, trivial⟩
  | cons step rest ih =>
    obtain ⟨t, action⟩ := step
    rw [deedsAlong, calls_append, entries_append, List.length_append] at hfew
    have hc := h.step hx hp.1 (by omega)
    obtain ⟨c', h', hm⟩ := hc.stands
    obtain ⟨⟨asked', last, hlast, hall⟩, hsees⟩ := ih h' (hkept.move hm) hp.2 (by omega)
    refine ⟨⟨asked', last, ?_, ?_⟩, hc.sees h, hsees⟩
    · rw [deedsAlong, calls_append, run_append]
      exact hlast
    · rw [deedsAlong, events_append, ← List.append_assoc]
      exact hall

end Run

def opening (lock : Lock LockShared Local Point) (config : Config) (n : Nat) (value : Data) :
    Threads LockShared Local Point Data Result n :=
  System.init n ⟨lock.create config, value⟩

theorem standing_opening {lock : Lock LockShared Local Point}
    {Inv : Nat → (Fin n → Access) → Usage LockShared Local Point n → Prop} {config : Config}
    (hinv : Inv 0 (fun _ => .writing) (Usage.opening lock config n)) (value : Data) :
    Standing Inv 0 (opening lock config n value : Threads LockShared Local Point Data Result n)
      (Usage.opening lock config n) ⟨value, none⟩ where
  shared_eq := rfl
  seat_eq t := by rw [seat_opening, opening, System.seat_init]; rfl
  holds_eq t := by rw [opening, System.seat_init]; rfl
  inv := by
    have hmodes : modes (opening lock config n value :
        Threads LockShared Local Point Data Result n) = fun _ => .writing := by
      funext t
      rw [modes, opening, System.seat_init]
      rfl
    rwa [hmodes]
  acquires t := by
    rw [opening, System.seat_init]
    exact acquires_vacant
  data_eq := rfl
  owner_iff t := by simp [opening, guards]

/-- The threads use the lock by its rules. Those that are granted the data have them one at a time,
and each lets them go once, or keeps a guard; so at most one thread keeps one. The data are what the
uses made of the value, in the order of the grants, and this is what every use finds. -/
theorem tenures_run (kind : Kind) {config : Config} (hv : config.Valid) (hn : n < 0x80000000)
    (value : Data) {plan : Plan Data Result n}
    (hp : Proper kind.algorithm.lock (opening kind.algorithm.lock config n value) plan)
    (hfew : ((Usage.opening kind.algorithm.lock config n).entries kind.algorithm.lock
      (calls (deedsAlong kind.algorithm.lock (opening kind.algorithm.lock config n value)
        plan))).length < 2 ^ 64) :
    let lock := kind.algorithm.lock
    let before := opening lock config n value
    let last := (before.run (protocol lock) plan).1
    let done := deedsAlong lock before plan
    let happened := events lock (Usage.opening lock config n) done
    Mirrors last ((Usage.opening lock config n).run lock (calls done)).1 ∧
    (∃ (past : List (Tenure Data Result n)) (current : Option (Tenure Data Result n)),
      happened = past.flatMap Tenure.closed ++ current.elim [] Tenure.opened ∧
      ∀ t, guards (last.seat t) = true ↔ current.map Tenure.thread = some t) ∧
    last.shared.data = happened.foldl Event.after value ∧
    Along lock (Sees lock) before plan := by
  intro lock before last done happened
  obtain ⟨Inv, hx, hinv⟩ := exists_excludes kind hv hn fun _ => .writing
  have h : Standing Inv 0 before (Usage.opening lock config n) ⟨value, none⟩ :=
    standing_opening hinv value
  obtain ⟨⟨_, c, hlast, hkept⟩, hsees⟩ := h.run hx (.nil value) hp (by rwa [Nat.zero_add])
  rw [List.nil_append] at hkept
  obtain ⟨past, current, hhappened, howner⟩ := hkept.tenures
  refine ⟨hlast.toMirrors, ⟨past, current, hhappened, fun t => ?_⟩, ?_, hsees⟩
  · rw [← howner]
    exact hlast.owner_iff t
  · exact hlast.data_eq.trans hkept.data_eq

/-- The second thread raises a fault once it has written. The first reads what it wrote, and keeps a
guard for good. -/
theorem tenures_fault :
    let plan : Plan Nat Nat 2 :=
      [(0, .join ⟨.pair, 0⟩), (1, .join ⟨.pair, 1⟩), (0, .start .lock),
        (1, .start (.lockThen fun d => (d + 10, .error (.raised "late")))),
        (0, .start (.access fun d => (2 * d, .ok d))), (0, .start .unlock), (1, .resume),
        (0, .start (.readThen .ok)), (0, .start .tryLock)]
    let before : Threads Mcs.Shared Mcs.Own Mcs.Wait Nat Nat 2 := opening mcs .pair 2 3
    let last := (before.run (protocol mcs) plan).1
    last.shared.data = 16 ∧ Along mcs (Sees mcs) before plan := by
  intro plan before last
  have hp : Proper mcs before plan := by decide
  have hfew : ((Usage.opening mcs .pair 2).entries mcs
      (calls (deedsAlong mcs before plan))).length < 2 ^ 64 := by decide
  exact ⟨by decide, (tenures_run .mcs Config.valid_pair (by decide) 3 hp hfew).2.2.2⟩

end SpinLocks.Guarded
