import Mathlib.Tactic.ByContra
import SpinLocks.Arena

namespace SpinLocks.Arena

variable {α : Type}

def claims (arena : Arena α) : List Bool :=
  arena.cells.map (·.claimed)

theorem length_claims (arena : Arena α) : arena.claims.length = arena.size := by
  simp [claims, size]

theorem isClaimed_eq_claims (arena : Arena α) (index : Nat) :
    arena.isClaimed index = arena.claims[index]?.getD false := by
  simp [isClaimed, claims]

theorem claims_modify (arena : Arena α) (index : Nat) (f : α → α) :
    (arena.modify index f).claims = arena.claims := by
  simp only [claims, modify]
  apply List.ext_getElem?
  intro i
  by_cases h : index = i <;> simp [h, Function.comp_def]

theorem claims_of_update {arena rest : Arena α} {index : Nat} {f : α → α}
    (h : arena.update index f = .ok rest) : rest.claims = arena.claims := by
  unfold update at h
  split at h
  · cases h
    exact arena.claims_modify index _
  · cases h

theorem claims_of_store {arena rest : Arena α} {index : Nat} {node : α}
    (h : arena.store index node = .ok rest) : rest.claims = arena.claims :=
  claims_of_update h

theorem claims_setClaimed (arena : Arena α) (index : Nat) (claimed : Bool) :
    (arena.setClaimed index claimed).claims = arena.claims.set index claimed := by
  simp only [claims, setClaimed]
  apply List.ext_getElem?
  intro i
  by_cases h : index = i
  · subst h
    by_cases hi : index < arena.cells.length <;> simp [hi]
  · simp [h]

theorem claims_replicate (size : Nat) (node : α) :
    (replicate size node).claims = List.replicate (min size nilIndex) false := by
  simp [claims, replicate]

theorem isClaimed_replicate (size index : Nat) (node : α) :
    (replicate size node).isClaimed index = false := by
  rw [isClaimed_eq_claims, claims_replicate, List.getElem?_replicate]
  split <;> rfl

theorem lt_of_isClaimed {arena : Arena α} {index : Nat} (h : arena.isClaimed index = true) :
    index < arena.size := by
  by_contra hlt
  have hc : arena.cells[index]? = none := List.getElem?_eq_none (by simpa [size] using hlt)
  simp [isClaimed, hc] at h

theorem exists_node? {arena : Arena α} {index : Nat} (h : index < arena.size) :
    ∃ node, arena.node? index = some node :=
  Option.ne_none_iff_exists'.mp (mt node?_eq_none_iff.mp (Nat.not_le.mpr h))

theorem claim?_map_fst (arena : Arena α) :
    arena.claim?.map Prod.fst = arena.claims.findIdx? (! ·) := by
  simp [claim?, claims, List.findIdx?_map, Function.comp_def]

theorem claims_of_claim?_eq_none {arena : Arena α} (h : arena.claim? = none) {claimed : Bool}
    (hc : claimed ∈ arena.claims) : claimed = true := by
  have hnone : arena.claims.findIdx? (! ·) = none := by rw [← claim?_map_fst, h, Option.map_none]
  simpa using List.findIdx?_eq_none_iff.mp hnone claimed hc

theorem claims_of_claim? {arena rest : Arena α} {index : Nat}
    (h : arena.claim? = some (index, rest)) :
    arena.claims[index]? = some false ∧ rest.claims = arena.claims.set index true := by
  obtain ⟨hlt, hfree, rfl⟩ := isClaimed_of_claim? h
  refine ⟨?_, arena.claims_setClaimed index true⟩
  rw [← length_claims] at hlt
  rw [isClaimed_eq_claims, List.getElem?_eq_getElem hlt] at hfree
  rw [List.getElem?_eq_getElem hlt]
  exact congrArg some hfree

/-- A node is left for a thread that joins. -/
def HasRoom (arena : Arena α) : Prop :=
  ∃ index < arena.size, arena.isClaimed index = false

theorem not_hasRoom_of_claim? {arena : Arena α} (h : arena.claim? = none) : ¬ arena.HasRoom := by
  rintro ⟨index, hlt, hfree⟩
  rw [claim?_eq_none_iff.mp h index hlt] at hfree
  cases hfree

theorem hasRoom_of_claim? {arena rest : Arena α} {index : Nat}
    (h : arena.claim? = some (index, rest)) : arena.HasRoom :=
  ⟨index, (isClaimed_of_claim? h).1, (isClaimed_of_claim? h).2.1⟩

end SpinLocks.Arena
