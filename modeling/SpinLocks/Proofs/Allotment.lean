import Mathlib.Logic.Function.Basic
import SpinLocks.Arena

namespace SpinLocks

structure Allotted {n : Nat} (claimed : Nat → Bool) (node : Fin n → Link) (spare : Link) :
    Prop where
  claimed_iff : ∀ k, claimed k = true ↔ spare = some k ∨ ∃ t, node t = some k
  spare_ne : ∀ t k, spare = some k → node t ≠ some k
  inj : ∀ s t k, node s = some k → node t = some k → s = t

namespace Allotted

variable {n : Nat} {claimed claimed' : Nat → Bool} {node : Fin n → Link} {spare : Link} {t : Fin n}
  {j k : Nat}

section Own

variable (h : Allotted claimed node spare)
include h

theorem claimed_of_node (hk : node t = some k) : claimed k = true :=
  (h.claimed_iff k).mpr (.inr ⟨t, hk⟩)

theorem claimed_of_spare (hk : spare = some k) : claimed k = true :=
  (h.claimed_iff k).mpr (.inl hk)

theorem node_ne_of_free (hf : claimed k = false) (s : Fin n) : node s ≠ some k := by
  intro hs
  simp [h.claimed_of_node hs] at hf

theorem spare_ne_of_free (hf : claimed k = false) : spare ≠ some k := by
  intro hs
  simp [h.claimed_of_spare hs] at hf

theorem claim (hn : node t = none) (hf : claimed k = false)
    (hclaimed : ∀ i, claimed' i = if k = i then true else claimed i) :
    Allotted claimed' (Function.update node t (some k)) spare where
  claimed_iff := by
    intro i
    rw [hclaimed]
    split
    · next he =>
      subst he
      simp only [true_iff]
      exact .inr ⟨t, Function.update_self ..⟩
    · next hki =>
      rw [h.claimed_iff]
      refine or_congr_right (exists_congr fun s => ?_)
      rw [Function.update_apply]
      split
      · next hst => simp [hst, hn, hki]
      · rfl
  spare_ne := by
    intro s i hi
    rw [Function.update_apply]
    split
    · rintro ⟨⟩
      exact h.spare_ne_of_free hf hi
    · exact h.spare_ne s i hi
  inj := by
    intro r s i hr hs
    rw [Function.update_apply] at hr hs
    split at hr <;> split at hs
    · next hrt hst => rw [hrt, hst]
    · cases hr
      exact absurd hs (h.node_ne_of_free hf s)
    · cases hs
      exact absurd hr (h.node_ne_of_free hf r)
    · exact h.inj r s i hr hs

theorem unclaim (hk : node t = some k)
    (hclaimed : ∀ i, claimed' i = if k = i then false else claimed i) :
    Allotted claimed' (Function.update node t none) spare where
  claimed_iff := by
    intro i
    rw [hclaimed]
    split
    · next he =>
      subst he
      simp only [Bool.false_eq_true, false_iff, not_or, not_exists]
      refine ⟨fun hs => h.spare_ne t k hs hk, fun s hs => ?_⟩
      rw [Function.update_apply] at hs
      split at hs
      · cases hs
      · next hst => exact hst (h.inj s t k hs hk)
    · next hki =>
      rw [h.claimed_iff]
      refine or_congr_right (exists_congr fun s => ?_)
      rw [Function.update_apply]
      split
      · next hst => simp [hst, hk, hki]
      · rfl
  spare_ne := by
    intro s i hi
    rw [Function.update_apply]
    split
    · simp
    · exact h.spare_ne s i hi
  inj := by
    intro r s i hr hs
    rw [Function.update_apply] at hr hs
    split at hr
    · cases hr
    split at hs
    · cases hs
    exact h.inj r s i hr hs

end Own

/-- A thread takes the spare node, and leaves its own as the spare one. -/
theorem exchange (h : Allotted claimed node (some j)) (hk : node t = some k) :
    Allotted claimed (Function.update node t (some j)) (some k) where
  claimed_iff := by
    intro i
    rw [h.claimed_iff]
    constructor
    · rintro (hj | ⟨s, hs⟩)
      · exact .inr ⟨t, by rw [Function.update_self, hj]⟩
      · by_cases hst : s = t
        · exact .inl (hk.symm.trans (hst ▸ hs))
        · exact .inr ⟨s, by rw [Function.update_of_ne hst, hs]⟩
    · rintro (hi | ⟨s, hs⟩)
      · exact .inr ⟨t, hk.trans hi⟩
      · rw [Function.update_apply] at hs
        split at hs
        · exact .inl hs
        · exact .inr ⟨s, hs⟩
  spare_ne := by
    rintro s i ⟨⟩ hs
    rw [Function.update_apply] at hs
    split at hs
    · exact h.spare_ne t j rfl (hk.trans hs.symm)
    · next hst => exact hst (h.inj s t k hs hk)
  inj := by
    intro r s i hr hs
    rw [Function.update_apply] at hr hs
    split at hr <;> split at hs
    · next hrt hst => rw [hrt, hst]
    · exact absurd hs (h.spare_ne s i hr)
    · exact absurd hr (h.spare_ne r i hs)
    · exact h.inj r s i hr hs

end Allotted

end SpinLocks
