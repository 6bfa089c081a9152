import SpinLocks.Proofs.Hclh.Mirror

namespace SpinLocks.Hclh

open Shared Usage

variable {n : Nat}

/-- The two queues look alike from outside: whether the lock is free, who holds it, and where each
thread stands, with which links. -/
structure Alike (u : Threads n) (v : Clh.Threads n) : Prop where
  isFree_eq : u.shared.isFree = v.shared.isFree
  holds_eq : ∀ t, u.holds t = v.holds t
  seat_eq : ∀ t, v.seat t = mirror (u.seat t)

variable {u : Threads n} {q : Order n} {v : Clh.Threads n} {w t : Fin n}
  {schedule later : Schedule n}

theorem Mirrored.alike (h : Mirrored u q v) : Alike u v where
  isFree_eq := h.isFree_eq
  holds_eq t := (h.holds_eq t).symm
  seat_eq := h.seat_eq

theorem Mirrored.run (h : Mirrored u q v) (hp : u.Proper hclh schedule)
    (hstay : ∀ step ∈ schedule, step.2 ≠ .leave) :
    (u.run hclh schedule).2.map Answer.anonymous = (v.run clh schedule).2.map Answer.anonymous ∧
      (∃ q', Mirrored (u.run hclh schedule).1 q' (v.run clh schedule).1) ∧
      u.Along hclh (fun u t action => ¬ Recycles u t action) schedule := by
  induction schedule generalizing u q v with
  | nil => exact ⟨rfl, ⟨q, h⟩, trivial⟩
  | cons step rest ih =>
    obtain ⟨t, action⟩ := step
    obtain ⟨hpermits, hrest⟩ := hp
    obtain ⟨hfirst, hlater⟩ := List.forall_mem_cons.mp hstay
    obtain ⟨he, q', h'⟩ := h.step hpermits hfirst
    obtain ⟨hes, hlast, halong⟩ := ih h' hrest hlater
    refine ⟨?_, hlast, h.not_recycles action, halong⟩
    simp only [Usage.run, List.map_cons, he, hes]

/-- The threads ahead of one that waits were engaged before. -/
structure Precedes (u₀ : Threads n) (w : Fin n) (u : Threads n) (q : Order n) : Prop
    extends Spliced u q where
  ahead_engaged : ∃ pre post, q.line = pre ++ w :: post ∧ ∀ t ∈ pre, u₀.Engaged t

theorem Spliced.precedes (h : Spliced u q) (hw : u.waits w = true) : Precedes u w u q := by
  obtain ⟨pre, post, hl⟩ := List.append_of_mem (h.mem_line (.inr hw))
  refine ⟨h, pre, post, hl, fun t ht => (h.engaged_iff t).mpr (.inl ?_)⟩
  rw [hl]
  exact List.mem_append_left _ ht

variable {u₀ : Threads n}

theorem Precedes.step (h : Precedes u₀ w u q) {action : Action Entry Command}
    (hp : u.permits t action = true) (hr : ¬ Recycles u t action) (hw : u.waits w = true) :
    ∃ q', Precedes u₀ w (u.step hclh t action).1 q' := by
  obtain ⟨pre, post, hl, hpre⟩ := h.ahead_engaged
  obtain ⟨q', h', hline | hline | ⟨hh, hline⟩⟩ := h.toSpliced.step hp hr
  · exact ⟨q', h', pre, post, hline.trans hl, hpre⟩
  · refine ⟨q', h', pre, post ++ [t], ?_, hpre⟩
    rw [hline, hl, List.append_assoc, List.cons_append]
  · cases pre with
    | nil =>
      -- who waits is not the one in front that gives the lock back
      obtain ⟨rfl, -⟩ := List.cons.inj (hline.symm.trans hl)
      obtain ⟨own, point, hs⟩ := waits_iff.mp hw
      simp [h.holds_of_waiting hs] at hh
    | cons a pre =>
      obtain ⟨-, hline⟩ := List.cons.inj (hline.symm.trans hl)
      exact ⟨q', h', pre, post, hline, fun s hs => hpre s (List.mem_cons_of_mem a hs)⟩

theorem Precedes.engaged (h : Precedes u₀ w u q) (hw : u.waits w = true)
    (hh : u.holds t = true) : u₀.Engaged t := by
  obtain ⟨pre, post, hl, hpre⟩ := h.ahead_engaged
  obtain ⟨rest, ht⟩ := h.holder_first t hh
  cases pre with
  | nil =>
    obtain ⟨rfl, -⟩ := List.cons.inj (ht.symm.trans hl)
    obtain ⟨own, point, hs⟩ := waits_iff.mp hw
    simp [h.holds_of_waiting hs] at hh
  | cons a pre =>
    obtain ⟨rfl, -⟩ := List.cons.inj (ht.symm.trans hl)
    exact hpre t List.mem_cons_self

/-- While a thread waits, nobody takes the lock who asks for it later. -/
theorem Precedes.run (h : Precedes u₀ w u q) (hp : u.Proper hclh later)
    (hr : u.Along hclh (fun u t action => ¬ Recycles u t action) later)
    (hw : u.Throughout hclh (fun u => u.waits w = true) later)
    (hh : (u.run hclh later).1.holds t = true) : u₀.Engaged t := by
  induction later generalizing u q with
  | nil => exact h.engaged hw hh
  | cons step rest ih =>
    obtain ⟨s, action⟩ := step
    obtain ⟨q', h'⟩ := h.step hp.1 hr.1 hw.1
    exact ih h' hp.2 hr.2 hw.2 hh

variable {config : Config}

/-- The same schedule on both queues is answered alike and leads to states that look alike. In it,
who holds the lock while another thread waits was engaged already when that thread began to wait. -/
theorem refines_clh (hv : config.Valid) (hp : (opening hclh config n).Proper hclh schedule)
    (hstay : ∀ step ∈ schedule, step.2 ≠ .leave) :
    ((opening hclh config n).run hclh schedule).2.map Answer.anonymous =
        ((opening clh config n).run clh schedule).2.map Answer.anonymous ∧
      Alike ((opening hclh config n).run hclh schedule).1
        ((opening clh config n).run clh schedule).1 ∧
      ∀ earlier later, schedule = earlier ++ later → ∀ w t,
        ((opening hclh config n).run hclh earlier).1.Throughout hclh
            (fun u => u.waits w = true) later →
          ((opening hclh config n).run hclh schedule).1.holds t = true →
            ((opening hclh config n).run hclh earlier).1.Engaged t := by
  obtain ⟨he, ⟨q, h⟩, hr⟩ := (mirrored_opening hv n).run hp hstay
  refine ⟨he, h.alike, ?_⟩
  rintro earlier later rfl w t hw hh
  obtain ⟨hp, hp'⟩ := along_append.mp hp
  obtain ⟨hr, hr'⟩ := along_append.mp hr
  obtain ⟨q', h'⟩ := spliced_run hv hp hr
  rw [run_append] at hh
  exact (h'.precedes hw.now).run hp' hr' hw hh

/-- There is no node for the third thread. The first asks for the lock again while the second, on
another core, waits for it. -/
theorem refines_clh_again :
    let schedule : Schedule 3 :=
      [(0, .join ⟨.pair, 0⟩), (1, .join ⟨.pair, 1⟩), (2, .join ⟨.pair, 0⟩), (0, .start .acquire),
        (1, .start .acquire), (0, .start .release), (0, .start .acquire), (1, .resume)]
    Config.pair.Valid ∧ (opening hclh .pair 3).Proper hclh schedule ∧
      (∀ step ∈ schedule, step.2 ≠ .leave) ∧
      Alike ((opening hclh .pair 3).run hclh schedule).1
        ((opening clh .pair 3).run clh schedule).1 := by
  intro schedule
  have hp : (opening hclh .pair 3).Proper hclh schedule := by decide
  have hstay : ∀ step ∈ schedule, step.2 ≠ .leave := by decide
  exact ⟨Config.valid_pair, hp, hstay, (refines_clh Config.valid_pair hp hstay).2.1⟩

end SpinLocks.Hclh
