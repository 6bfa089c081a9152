import SpinLocks.Failure

namespace SpinLocks

/-- The number that stands for no node. No arena is large enough to have a node of this number. -/
def nilIndex : Nat := 0xffffffff

abbrev Link := Option Nat

def Link.index (link : Link) : Nat :=
  link.getD nilIndex

structure Arena.Cell (α : Type) where
  claimed : Bool
  node : α
  deriving DecidableEq

/-- A fixed number of queue nodes that threads claim and give back, and that they pass among
themselves while they wait. A node is named by its place in the arena; a `Link` may name none. -/
structure Arena (α : Type) where
  cells : List (Arena.Cell α)
  deriving DecidableEq

namespace Arena

variable {α : Type}

def replicate (size : Nat) (node : α) : Arena α :=
  ⟨List.replicate (min size nilIndex) ⟨false, node⟩⟩

def size (arena : Arena α) : Nat :=
  arena.cells.length

def setClaimed (arena : Arena α) (index : Nat) (claimed : Bool) : Arena α :=
  ⟨arena.cells.modify index ({ · with claimed })⟩

def claim? (arena : Arena α) : Option (Nat × Arena α) :=
  (arena.cells.findIdx? (!·.claimed)).map fun index => (index, arena.setClaimed index true)

def unclaim (arena : Arena α) (index : Nat) : Except Fault (Arena α) :=
  if index < arena.size then .ok (arena.setClaimed index false)
  else .error (.outOfBounds arena.size index)

def load (arena : Arena α) (index : Nat) : Except Fault α :=
  match arena.cells[index]? with
  | some cell => .ok cell.node
  | none => .error (.outOfBounds arena.size index)

def modify (arena : Arena α) (index : Nat) (f : α → α) : Arena α :=
  ⟨arena.cells.modify index fun cell => { cell with node := f cell.node }⟩

def update (arena : Arena α) (index : Nat) (f : α → α) : Except Fault (Arena α) :=
  if index < arena.size then .ok (arena.modify index f)
  else .error (.outOfBounds arena.size index)

def store (arena : Arena α) (index : Nat) (node : α) : Except Fault (Arena α) :=
  arena.update index fun _ => node

def node? (arena : Arena α) (index : Nat) : Option α :=
  arena.cells[index]?.map (·.node)

def isClaimed (arena : Arena α) (index : Nat) : Bool :=
  (arena.cells[index]?.map (·.claimed)).getD false

@[simp]
theorem size_replicate (size : Nat) (node : α) :
    (replicate size node).size = min size nilIndex := by
  simp [replicate, Arena.size]

@[simp]
theorem size_setClaimed (arena : Arena α) (index : Nat) (claimed : Bool) :
    (arena.setClaimed index claimed).size = arena.size := by
  simp [setClaimed, Arena.size]

@[simp]
theorem size_modify (arena : Arena α) (index : Nat) (f : α → α) :
    (arena.modify index f).size = arena.size := by
  simp [modify, Arena.size]

theorem node?_eq_none_iff {arena : Arena α} {index : Nat} :
    arena.node? index = none ↔ arena.size ≤ index := by
  simp [node?, Arena.size]

theorem node?_replicate (size index : Nat) (node : α) :
    (replicate size node).node? index =
      if index < min size nilIndex then some node else none := by
  simp only [node?, replicate, List.getElem?_replicate]
  split <;> rfl

theorem node?_setClaimed (arena : Arena α) (index other : Nat) (claimed : Bool) :
    (arena.setClaimed index claimed).node? other = arena.node? other := by
  simp only [node?, setClaimed, List.getElem?_modify]
  cases arena.cells[other]? <;> by_cases h : index = other <;> simp [h]

theorem node?_modify (arena : Arena α) (index other : Nat) (f : α → α) :
    (arena.modify index f).node? other =
      if index = other then (arena.node? other).map f else arena.node? other := by
  simp only [node?, modify, List.getElem?_modify]
  cases arena.cells[other]? <;> by_cases h : index = other <;> simp [h]

theorem isClaimed_modify (arena : Arena α) (index other : Nat) (f : α → α) :
    (arena.modify index f).isClaimed other = arena.isClaimed other := by
  simp only [isClaimed, modify, List.getElem?_modify]
  cases arena.cells[other]? <;> by_cases h : index = other <;> simp [h]

theorem isClaimed_setClaimed {arena : Arena α} {index : Nat} (h : index < arena.size)
    (other : Nat) (claimed : Bool) :
    (arena.setClaimed index claimed).isClaimed other =
      if index = other then claimed else arena.isClaimed other := by
  have hl : index < arena.cells.length := h
  simp only [isClaimed, setClaimed, List.getElem?_modify]
  by_cases ho : index = other
  · subst ho; simp [hl]
  · simp [ho]

theorem load_eq_ok_iff {arena : Arena α} {index : Nat} {node : α} :
    arena.load index = .ok node ↔ arena.node? index = some node := by
  unfold load node?
  cases arena.cells[index]? <;> simp

theorem isClaimed_of_claim? {arena rest : Arena α} {index : Nat}
    (h : arena.claim? = some (index, rest)) :
    index < arena.size ∧ arena.isClaimed index = false ∧ rest = arena.setClaimed index true := by
  obtain ⟨i, hi, he⟩ := Option.map_eq_some_iff.1 h
  obtain ⟨hlt, hfree, -⟩ := List.findIdx?_eq_some_iff_getElem.1 hi
  cases he
  refine ⟨hlt, ?_, rfl⟩
  simpa [isClaimed, List.getElem?_eq_getElem hlt] using hfree

theorem claim?_eq_none_iff {arena : Arena α} :
    arena.claim? = none ↔ ∀ index < arena.size, arena.isClaimed index = true := by
  simp only [claim?, Option.map_eq_none_iff, List.findIdx?_eq_none_iff, List.mem_iff_getElem]
  constructor
  · intro h index hi
    have hl : index < arena.cells.length := hi
    have := h arena.cells[index] ⟨index, hl, rfl⟩
    simpa [isClaimed, List.getElem?_eq_getElem hl] using this
  · rintro h cell ⟨index, hi, rfl⟩
    have := h index hi
    simpa [isClaimed, List.getElem?_eq_getElem hi] using this

end Arena

end SpinLocks
