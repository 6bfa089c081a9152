import Mathlib.Logic.Function.Basic

namespace SpinLocks

variable {α β : Type}

def Chain (ahead behind : α → β) (first : β) : List α → β → Prop
  | [], last => first = last
  | a :: rest, last => ahead a = first ∧ Chain ahead behind (behind a) rest last

namespace Chain

variable {ahead behind : α → β} {first last : β} {line rest : List α}

theorem append {middle : β} (h : Chain ahead behind first line middle)
    (hr : Chain ahead behind middle rest last) : Chain ahead behind first (line ++ rest) last := by
  induction line generalizing first with
  | nil => exact (show first = middle from h) ▸ hr
  | cons a line ih => exact ⟨h.1, ih h.2⟩

theorem congr {ahead' behind' : α → β} (h : Chain ahead behind first line last)
    (he : ∀ a ∈ line, ahead' a = ahead a ∧ behind' a = behind a) :
    Chain ahead' behind' first line last := by
  induction line generalizing first with
  | nil => exact h
  | cons a line ih =>
    obtain ⟨ha, hb⟩ := he a List.mem_cons_self
    refine ⟨ha.trans h.1, ?_⟩
    rw [hb]
    exact ih h.2 fun b hm => he b (List.mem_cons_of_mem a hm)

/-- What one who is no member has ahead and leaves behind does not matter. -/
theorem update [DecidableEq α] {a : α} (h : Chain ahead behind first line last) (ha : a ∉ line)
    (x y : β) :
    Chain (Function.update ahead a x) (Function.update behind a y) first line last := by
  refine h.congr fun b hb => ?_
  have hne : b ≠ a := fun he => ha (he ▸ hb)
  exact ⟨Function.update_of_ne hne .., Function.update_of_ne hne ..⟩

theorem relink {behind' : α → β} {a : α} (h : Chain ahead behind first (line ++ [a]) last)
    (he : ∀ b ∈ line, behind' b = behind b) :
    Chain ahead behind' first (line ++ [a]) (behind' a) := by
  induction line generalizing first with
  | nil => exact ⟨h.1, rfl⟩
  | cons b line ih =>
    refine ⟨h.1, ?_⟩
    rw [he b List.mem_cons_self]
    exact ih h.2 fun c hm => he c (List.mem_cons_of_mem b hm)

/-- What is ahead of a member is where the chain begins, or is left behind by another member. -/
theorem ahead_mem (h : Chain ahead behind first line last) {a : α} (ha : a ∈ line) :
    ahead a = first ∨ ∃ b ∈ line, behind b = ahead a := by
  induction line generalizing first with
  | nil => cases ha
  | cons b line ih =>
    obtain rfl | hm := List.mem_cons.mp ha
    · exact .inl h.1
    · right
      obtain he | ⟨c, hc, he⟩ := ih h.2 hm
      · exact ⟨b, List.mem_cons_self, he.symm⟩
      · exact ⟨c, List.mem_cons_of_mem b hc, he⟩

theorem ahead_mem_of_ne_head {a : α} (h : Chain ahead behind first line last) (ha : a ∈ line)
    (hne : line.head? ≠ some a) : ∃ b ∈ line, behind b = ahead a := by
  cases line with
  | nil => cases ha
  | cons b line =>
    have hr : a ∈ line := (List.mem_cons.mp ha).resolve_left fun he => hne (by simp [he])
    obtain he | ⟨c, hc, he⟩ := h.2.ahead_mem hr
    · exact ⟨b, List.mem_cons_self, he.symm⟩
    · exact ⟨c, List.mem_cons_of_mem b hc, he⟩

theorem last_mem (h : Chain ahead behind first line last) (hne : line ≠ []) :
    ∃ a ∈ line, behind a = last := by
  induction line generalizing first with
  | nil => exact absurd rfl hne
  | cons a line ih =>
    cases line with
    | nil => exact ⟨a, List.mem_cons_self, h.2⟩
    | cons b line =>
      obtain ⟨c, hc, he⟩ := ih h.2 (List.cons_ne_nil b line)
      exact ⟨c, List.mem_cons_of_mem a hc, he⟩

theorem ahead_mem_rest {a : α} (h : Chain ahead behind first (a :: rest) last)
    (hnodup : (a :: rest).Nodup)
    (hinj : ∀ b ∈ a :: rest, ∀ c ∈ a :: rest, behind b = behind c → b = c) {b : α} (hb : b ∈ rest) :
    ∃ c ∈ a :: rest, behind c = ahead b ∧ behind c ≠ last := by
  induction rest generalizing a first with
  | nil => cases hb
  | cons d rest ih =>
    obtain ⟨hnot, hnodup'⟩ := List.nodup_cons.mp hnodup
    obtain rfl | hm := List.mem_cons.mp hb
    · refine ⟨a, List.mem_cons_self, h.2.1.symm, fun he => hnot ?_⟩
      obtain ⟨c, hc, hlast⟩ := h.2.last_mem (List.cons_ne_nil b rest)
      rw [hinj a List.mem_cons_self c (List.mem_cons_of_mem a hc) (he.trans hlast.symm)]
      exact hc
    · obtain ⟨c, hc, he⟩ := ih h.2 hnodup' (fun b hb c hc =>
        hinj b (List.mem_cons_of_mem a hb) c (List.mem_cons_of_mem a hc)) hm
      exact ⟨c, List.mem_cons_of_mem a hc, he⟩

theorem ahead_inj (h : Chain ahead behind first line last) (hnodup : line.Nodup)
    (hinj : ∀ b ∈ line, ∀ c ∈ line, behind b = behind c → b = c)
    (hfirst : ∀ b ∈ line, behind b ≠ first) {b c : α} (hb : b ∈ line) (hc : c ∈ line)
    (he : ahead b = ahead c) : b = c := by
  induction line generalizing first with
  | nil => cases hb
  | cons a line ih =>
    obtain ⟨hnot, hnodup'⟩ := List.nodup_cons.mp hnodup
    have hinj' : ∀ b ∈ line, ∀ c ∈ line, behind b = behind c → b = c := fun b hb c hc =>
      hinj b (List.mem_cons_of_mem a hb) c (List.mem_cons_of_mem a hc)
    have hbehind : ∀ b ∈ line, behind b ≠ behind a := by
      intro b hb he
      exact hnot (hinj b (List.mem_cons_of_mem a hb) a List.mem_cons_self he ▸ hb)
    -- what is ahead of the first is left behind by no member
    have hrest : ∀ b ∈ line, ahead b ≠ first := by
      intro b hb hahead
      obtain hprev | ⟨c, hc, hprev⟩ := h.2.ahead_mem hb
      · exact hfirst a List.mem_cons_self (hprev.symm.trans hahead)
      · exact hfirst c (List.mem_cons_of_mem a hc) (hprev.trans hahead)
    obtain rfl | hbl := List.mem_cons.mp hb
    · obtain rfl | hcl := List.mem_cons.mp hc
      · rfl
      · exact absurd (he.symm.trans h.1) (hrest c hcl)
    · obtain rfl | hcl := List.mem_cons.mp hc
      · exact absurd (he.trans h.1) (hrest b hbl)
      · exact ih h.2 hnodup' hinj' hbehind hbl hcl

end Chain

end SpinLocks
