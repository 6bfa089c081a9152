import Mathlib.Algebra.BigOperators.Group.Finset.Piecewise
import Mathlib.Algebra.Order.BigOperators.Group.Finset
import Mathlib.Data.Fintype.Basic
import SpinLocks.Proofs.Attempts.Sound
import SpinLocks.Proofs.ReadWrite.Exclusion

namespace SpinLocks.ReadWrite

open Custody (step_start_self)

variable {n : Nat} {g : Custody Word Backoff Wait n} {t : Fin n} {own : Backoff} {access : Access}
  {action : Action Entry Command}

def count (g : Custody Word Backoff Wait n) (access : Access) : Nat :=
  ∑ t, g.held t access

def tally (g : Custody Word Backoff Wait n) : Holdings n :=
  ⟨g.system, g.asked, count g⟩

theorem held_le_count (t : Fin n) (access : Access) : g.held t access ≤ count g access :=
  Finset.single_le_sum (f := fun s => g.held s access) (fun _ _ => Nat.zero_le _)
    (Finset.mem_univ t)

theorem sum_update_held (t : Fin n) (mine : Access → Nat) (access : Access) :
    (∑ s, Function.update g.held t mine s access) + g.held t access =
      count g access + mine access := by
  have hupdate : ∀ s, Function.update g.held t mine s access =
      Function.update (fun s => g.held s access) t (mine access) s := by
    intro s
    rw [Function.update_apply, Function.update_apply]
    split <;> rfl
  simp only [count, hupdate]
  rw [Finset.sum_update_of_mem (Finset.mem_univ t),
    Finset.sum_eq_sum_sdiff_singleton_add (Finset.mem_univ t) fun s => g.held s access]
  omega

theorem sum_update_access (t : Fin n) (changed : Access) (back : Bool)
    (hpos : back = true → 0 < g.held t changed) :
    (fun access => ∑ s, Function.update g.held t (Function.update (g.held t) changed
        (if back then g.held t changed - 1 else g.held t changed + 1)) s access) =
      Function.update (count g) changed
        (if back then count g changed - 1 else count g changed + 1) := by
  funext access
  have hsum := sum_update_held (g := g) t (Function.update (g.held t) changed
    (if back then g.held t changed - 1 else g.held t changed + 1)) access
  have hle := held_le_count (g := g) t access
  by_cases ha : access = changed
  · subst ha
    rw [Function.update_self] at hsum ⊢
    cases back with
    | false => simp at hsum ⊢; omega
    | true => have := hpos rfl; simp at hsum ⊢; omega
  · rw [Function.update_of_ne ha] at hsum ⊢
    omega

theorem asked_tally (answer : Answer Reply) :
    (if answer = .waiting then Function.update g.asked t (g.access accessOf t action)
      else g.asked) = (tally g).askedAfter t action answer := by
  cases action with
  | start command => cases answer <;> rfl
  | join | leave | resume =>
    split
    · exact Function.update_eq_self t g.asked
    · rfl

theorem count_tally (hp : g.permits accessOf t action = true) :
    count (g.step readWrite accessOf t action).1 =
      (tally g).countAfter t action (g.step readWrite accessOf t action).2 := by
  unfold count
  rw [Custody.held_step]
  cases hover : (g.step readWrite accessOf t action).2.turnsOver with
  | false =>
    simp only [Custody.heldAfter, hover]
    cases action <;> simp only [Holdings.countAfter, hover] <;> rfl
  | true =>
    simp only [Custody.heldAfter, hover]
    cases action with
    | join entry => cases (Custody.not_turnsOver_join entry).symm.trans hover
    | leave => cases Custody.not_turnsOver_leave.symm.trans hover
    | resume =>
      simp only [Holdings.countAfter, hover]
      exact sum_update_access t (g.asked t) false (by simp)
    | start command =>
      simp only [Holdings.countAfter, hover]
      refine (sum_update_access t (accessOf command) command.givesBack ?_).trans ?_
      · intro hb
        simpa [Custody.permits, hb] using hp
      · cases command.givesBack <;> rfl

/-- Together the threads do what they are said to do one by one. -/
theorem tally_step (hp : g.permits accessOf t action = true) :
    tally (g.step readWrite accessOf t action).1 = ((tally g).step t action).1 := by
  have hstep : ((tally g).step t action).1 =
      ⟨(g.step readWrite accessOf t action).1.system,
        (tally g).askedAfter t action (g.step readWrite accessOf t action).2,
        (tally g).countAfter t action (g.step readWrite accessOf t action).2⟩ := rfl
  rw [hstep, ← asked_tally, ← count_tally hp]
  rfl

theorem permits_tally (hp : g.permits accessOf t action = true) :
    (tally g).permits action = true := by
  cases action with
  | join | leave | resume => rfl
  | start command =>
    cases hb : command.givesBack with
    | false => simp [Holdings.permits, hb]
    | true =>
      have hpos : 0 < g.held t (accessOf command) := by simpa [Custody.permits, hb] using hp
      have hle := held_le_count (g := g) t (accessOf command)
      simp only [Holdings.permits, hb, Bool.not_true, Bool.false_or]
      exact decide_eq_true (Nat.lt_of_lt_of_le hpos hle)

theorem alone_of_counts (h : Counts g.shared (count g)) (hheld : 0 < g.held t .writing) :
    g.Alone t := by
  have hle := held_le_count (g := g) t .writing
  have hwriters := h.writers_le
  have hreaders := h.apart (by omega)
  intro s access
  cases access with
  | reading =>
    have hle := held_le_count (g := g) s .reading
    simp
    omega
  | writing =>
    by_cases hst : s = t
    · simp [hst]
      omega
    · have hsum := sum_update_held (g := g) t (fun _ => 0) .writing
      have hothers : Function.update g.held t (fun _ => 0) s .writing ≤
          ∑ s, Function.update g.held t (fun _ => 0) s .writing :=
        Finset.single_le_sum (f := fun s => Function.update g.held t (fun _ => 0) s .writing)
          (fun _ _ => Nat.zero_le _) (Finset.mem_univ s)
      rw [Function.update_of_ne hst] at hothers
      simp [hst]
      omega

theorem count_of_nobody (h : g.Nobody) (access : Access) : count g access = 0 :=
  Finset.sum_eq_zero fun t _ => h t access

theorem tallied_opening (config : Config) (n : Nat) :
    Tallied (tally (.opening readWrite config n)) := by
  have hcount : count (.opening readWrite config n : Custody Word Backoff Wait n) = fun _ => 0 :=
    funext (count_of_nobody fun _ _ => rfl)
  have htally : tally (.opening readWrite config n) = Holdings.opening config n := by
    rw [tally, hcount]
    rfl
  rw [htally]
  exact .opening config n

theorem attempting {Part : Type} (part : Part) : Attempting readWrite fun _ => part where
  took := by
    intro word own hfree
    have hfree' : word.isFree = true := hfree
    exact ⟨⟨Word.writer⟩, own, if_pos hfree', rfl, fun _ => rfl⟩
  failed := by
    intro word own hfree
    have hfree' : ¬ word.isFree = true := Bool.eq_false_iff.mp hfree
    exact if_neg hfree'

theorem governs : Governs readWrite accessOf fun g : Custody Word Backoff Wait n =>
    Tallied (tally g) where
  attempts_write := rfl
  releases_write := rfl
  step := by
    intro g h t action hp
    rw [tally_step hp]
    exact (h.step (permits_tally hp)).1
  not_free := by
    intro g h t access hheld
    rw [← Bool.not_eq_true]
    intro hfree
    have hle := held_le_count (g := g) t access
    obtain ⟨hr, hw⟩ := h.toCounts.isFree_iff.mp hfree
    have hzero : count g access = 0 := by cases access <;> assumption
    omega
  alone h _ hheld := alone_of_counts h.toCounts hheld
  tryRead := by
    intro g h t own hs hheld
    have hle := held_le_count (g := g) t .writing
    have hnot : ¬ g.shared.admitsReader = true := by
      intro hadmits
      have hroom : Access.reading.Room (count g) := h.toCounts.admits_iff.mp hadmits
      have hzero := hroom.1
      omega
    have hturn : readWrite.start .tryAcquireRead g.shared own =
        ⟨g.shared, own, .done (.took false)⟩ := if_neg hnot
    exact step_start_self hs hturn rfl rfl rfl
  release _ _ _ _ _ := rfl
  passes := by
    intro g h hnobody
    have hr := count_of_nobody hnobody .reading
    have hw := count_of_nobody hnobody .writing
    constructor
    · intro _
      exact h.toCounts.isFree_iff.mpr ⟨hr, hw⟩
    · intro t hwaits
      have hroom : (g.asked t).Room (count g) := by
        cases g.asked t with
        | reading => exact ⟨hw, by omega⟩
        | writing => exact ⟨hr, hw⟩
      obtain ⟨own, point, hs⟩ := (Usage.waits_iff (u := ⟨g.system, fun _ => false⟩)).mp hwaits
      exact ⟨t, hwaits, (h.separated.resume_eq t own point hs).trans (if_pos hroom)⟩

end SpinLocks.ReadWrite
