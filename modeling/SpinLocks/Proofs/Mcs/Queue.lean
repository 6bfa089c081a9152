import SpinLocks.Proofs.Chain
import SpinLocks.Proofs.Claims
import SpinLocks.Proofs.Line
import SpinLocks.Proofs.Mcs.Turns

namespace SpinLocks.Mcs

open Shared Usage

variable {n : Nat}

def nodeOf (u : Threads n) (t : Fin n) : Link :=
  (u.own? t).map Own.node

def cell (u : Threads n) (t : Fin n) : Option Node :=
  (nodeOf u t).bind u.shared.nodes.node?

def next (node : Option Node) : Link :=
  node.bind Node.next

structure Linked (tail : Link) (nodeOf : Fin n → Link) (cell : Fin n → Option Node)
    (line : List (Fin n)) : Prop where
  tail_eq : tail = line.getLast?.bind nodeOf
  links : Chain nodeOf (fun t => next (cell t)) (line.head?.bind nodeOf) line none
  waiting : ∀ t ∈ line.tail, (cell t).map Node.waiting = some true

namespace Linked

variable {tail : Link} {nodeOf : Fin n → Link} {cell : Fin n → Option Node}
  {line rest : List (Fin n)} {s t : Fin n} {x : Option Node} {k : Nat}

theorem nil (nodeOf : Fin n → Link) (cell : Fin n → Option Node) :
    Linked none nodeOf cell [] :=
  ⟨rfl, rfl, by simp⟩

theorem update (h : Linked tail nodeOf cell line) (ht : t ∉ line) :
    Linked tail nodeOf (Function.update cell t x) line where
  tail_eq := h.tail_eq
  links := by
    refine h.links.congr fun s hs => ⟨rfl, ?_⟩
    rw [Function.update_of_ne]
    rintro rfl
    exact ht hs
  waiting := by
    intro s hs
    rw [Function.update_of_ne]
    · exact h.waiting s hs
    · rintro rfl
      exact ht (List.mem_of_mem_tail hs)

theorem congr {tail' : Link} {nodeOf' : Fin n → Link} {cell' : Fin n → Option Node}
    (h : Linked tail nodeOf cell line) (htail : tail' = tail)
    (hnode : ∀ s ∈ line, nodeOf' s = nodeOf s) (hcell : ∀ s ∈ line, cell' s = cell s) :
    Linked tail' nodeOf' cell' line where
  tail_eq := by
    rw [htail, h.tail_eq]
    cases hl : line.getLast? with
    | none => rfl
    | some s => exact (hnode s (List.mem_of_getLast? hl)).symm
  links := by
    have hfirst : line.head?.bind nodeOf' = line.head?.bind nodeOf := by
      cases hl : line.head? with
      | none => rfl
      | some s => exact hnode s (List.mem_of_head? hl)
    rw [hfirst]
    exact h.links.congr fun s hs => ⟨hnode s hs, by rw [hcell s hs]⟩
  waiting := by
    intro s hs
    rw [hcell s (List.mem_of_mem_tail hs)]
    exact h.waiting s hs

theorem single (hk : nodeOf t = some k) (hc : cell t = some .queued) :
    Linked (some k) nodeOf cell [t] where
  tail_eq := hk.symm
  links := ⟨rfl, by simp [hc, next, Node.queued, Chain]⟩
  waiting := by simp

theorem enqueue (h : Linked tail nodeOf cell (line ++ [s])) (hnodup : (line ++ [s]).Nodup)
    (hk : nodeOf t = some k) (hc : cell t = some .queued) (ht : t ∉ line ++ [s])
    (hs : (cell s).isSome = true) :
    Linked (some k) nodeOf
      (Function.update cell s ((cell s).map ({ · with next := some k })))
      (line ++ [s] ++ [t]) where
  tail_eq := by simp [hk]
  links := by
    have hne : t ≠ s := by
      rintro rfl
      exact ht (by simp)
    have hline : ∀ a ∈ line, a ≠ s := by
      rintro a ha rfl
      exact (List.nodup_append.mp hnodup).2.2 a ha a (by simp) rfl
    have hlink : Chain nodeOf
        (fun a => next (Function.update cell s ((cell s).map ({ · with next := some k })) a))
        ((line ++ [s]).head?.bind nodeOf) (line ++ [s])
        (next (Function.update cell s ((cell s).map ({ · with next := some k })) s)) :=
      h.links.relink fun a ha => by rw [Function.update_of_ne (hline a ha)]
    rw [Function.update_self] at hlink
    obtain ⟨node, hnode⟩ := Option.isSome_iff_exists.mp hs
    have hhead : (line ++ [s] ++ [t]).head? = (line ++ [s]).head? := by
      cases line <;> rfl
    rw [hhead]
    refine hlink.append ⟨by simp [hnode, next, hk], ?_⟩
    show next (Function.update cell s _ t) = none
    rw [Function.update_of_ne hne, hc]
    rfl
  waiting := by
    have htail : (line ++ [s] ++ [t]).tail = (line ++ [s]).tail ++ [t] := by
      cases line <;> rfl
    rw [htail]
    intro a ha
    have hcell : (cell a).map Node.waiting = some true := by
      obtain ha | ha := List.mem_append.mp ha
      · exact h.waiting a ha
      · rw [List.mem_singleton.mp ha, hc]
        rfl
    rw [Function.update_apply]
    split
    · next he =>
      subst he
      rw [Option.map_map]
      exact hcell
    · exact hcell

theorem pass (h : Linked tail nodeOf cell (t :: s :: rest)) (hnodup : (s :: rest).Nodup) :
    Linked tail nodeOf
      (Function.update cell s ((cell s).map ({ · with waiting := false }))) (s :: rest) where
  tail_eq := by simpa using h.tail_eq
  links := by
    have hlink : Chain nodeOf (fun t => next (cell t)) (nodeOf s) (s :: rest) none := by
      rw [h.links.2.1]
      exact h.links.2
    refine hlink.congr fun a _ => ⟨rfl, ?_⟩
    rw [Function.update_apply]
    split
    · next he =>
      rw [he, next, Option.bind_map]
      rfl
    · rfl
  waiting := by
    intro a ha
    have hne : a ≠ s := by
      rintro rfl
      exact (List.nodup_cons.mp hnodup).1 ha
    rw [Function.update_of_ne hne]
    exact h.waiting a (List.mem_cons_of_mem s ha)

end Linked

/-- Each thread that has joined has a node of its own, and it is claimed. -/
structure Owned (u : Threads n) : Prop where
  claimed : ∀ t own, u.own? t = some own → u.shared.nodes.isClaimed own.node = true
  inj : ∀ s t own own', u.own? s = some own → u.own? t = some own' → own.node = own'.node → s = t

/-- Nobody waits in the middle of a release, and whoever holds the lock does not wait at all. -/
structure Seated (u : Threads n) : Prop where
  holder_idle : ∀ t, u.holds t = true → ∃ own, u.seat t = .idle own
  point_eq : ∀ t own point, u.seat t = .waiting own point → point = .grant

structure Queued (u : Threads n) (line : List (Fin n)) : Prop extends
    Lined u line, Owned u, Seated u, Linked u.shared.tail (nodeOf u) (cell u) line where
  first : ∀ t, line.head? = some t → u.waits t = true →
    (cell u t).map Node.waiting = some false

section Nodes

variable {u : Threads n} {s t : Fin n} {own : Own} {shared : Shared} {seat : Seat Own Wait}
  {holds : Bool} {k : Nat} {f : Node → Node}

theorem nodeOf_of_own? (ho : u.own? t = some own) : nodeOf u t = some own.node := by
  rw [nodeOf, ho]
  rfl

theorem cell_of_own? (ho : u.own? t = some own) : cell u t = u.shared.nodes.node? own.node := by
  rw [cell, nodeOf_of_own? ho, Option.bind_some]

theorem nodeOf_put (ho : u.own? t = some own) (hseat : seat.own? = some own) :
    nodeOf (u.put t shared seat holds) = nodeOf u := by
  funext s
  rw [nodeOf, own?_put]
  split
  · next he => rw [hseat, he, nodeOf_of_own? ho, Option.map_some]
  · rfl

theorem exists_own_of_nodeOf (h : nodeOf u t = some k) :
    ∃ own, u.own? t = some own ∧ own.node = k :=
  Option.map_eq_some_iff.mp h

section Owned

variable (h : Owned u)
include h

theorem Owned.nodeOf_inj (hs : nodeOf u s = some k) (ht : nodeOf u t = some k) : s = t := by
  obtain ⟨own, ho, hk⟩ := exists_own_of_nodeOf hs
  obtain ⟨own', ho', hk'⟩ := exists_own_of_nodeOf ht
  exact h.inj s t own own' ho ho' (hk.trans hk'.symm)

theorem Owned.lt (ho : u.own? t = some own) : own.node < u.shared.nodes.size :=
  Arena.lt_of_isClaimed (h.claimed t own ho)

/-- A change of one node is a change of the node of one thread. -/
theorem Owned.bind_modify (hs : nodeOf u s = some k) (nodes : Arena Node) :
    (fun r => (nodeOf u r).bind (nodes.modify k f).node?) =
      Function.update (fun r => (nodeOf u r).bind nodes.node?) s ((nodes.node? k).map f) := by
  funext r
  rw [Function.update_apply]
  split
  · next he => rw [he, hs, Option.bind_some, Arena.node?_modify, if_pos rfl]
  · next hrs =>
    cases hr : nodeOf u r with
    | none => rfl
    | some j =>
      have hkj : k ≠ j := by
        rintro rfl
        exact hrs (h.nodeOf_inj hr hs)
      rw [Option.bind_some, Option.bind_some, Arena.node?_modify, if_neg hkj]

theorem Owned.cell_put (ho : u.own? t = some own) (hseat : seat.own? = some own)
    (hs : nodeOf u s = some k) (hnodes : shared.nodes = u.shared.nodes.modify k f) :
    cell (u.put t shared seat holds) = Function.update (cell u) s ((cell u s).map f) := by
  have hcell : cell (u.put t shared seat holds) =
      fun r => (nodeOf u r).bind (u.shared.nodes.modify k f).node? := by
    funext r
    simp only [cell, nodeOf_put ho hseat, shared_put, hnodes]
  rw [hcell, h.bind_modify hs, cell, hs]
  rfl

end Owned

theorem Owned.put (h : Owned u) (ho : u.own? t = some own) (hseat : seat.own? = some own)
    (hclaimed : ∀ j, shared.nodes.isClaimed j = u.shared.nodes.isClaimed j) :
    Owned (u.put t shared seat holds) where
  claimed := by
    intro s own₁ hs
    simp only [shared_put, hclaimed]
    rw [own?_put] at hs
    split at hs
    · cases hseat.symm.trans hs
      exact h.claimed t own ho
    · exact h.claimed s own₁ hs
  inj := by
    have hown : ∀ r, (u.put t shared seat holds).own? r = u.own? r := by
      intro r
      rw [own?_put]
      split
      · next he => rw [hseat, he, ho]
      · rfl
    intro r s own₁ own₂ hr hs
    rw [hown] at hr hs
    exact h.inj r s own₁ own₂ hr hs

theorem Owned.join (h : Owned u) (hk : k < u.shared.nodes.size)
    (hfree : u.shared.nodes.isClaimed k = false) :
    Owned (u.put t { u.shared with nodes := u.shared.nodes.setClaimed k true } (.idle ⟨k⟩)
      holds) := by
  have hne : ∀ s own, u.own? s = some own → k ≠ own.node := by
    rintro s own ho rfl
    rw [h.claimed s own ho] at hfree
    cases hfree
  constructor
  · intro s own hs
    simp only [shared_put, Arena.isClaimed_setClaimed hk]
    rw [own?_put] at hs
    split at hs
    · cases hs
      exact if_pos rfl
    · rw [if_neg (hne s own hs)]
      exact h.claimed s own hs
  · intro r s own own' hr hs he
    rw [own?_put] at hr hs
    split at hr <;> split at hs
    · next hrt hst => rw [hrt, hst]
    · cases hr
      exact absurd he (hne s own' hs)
    · cases hs
      exact absurd he.symm (hne r own hr)
    · exact h.inj r s own own' hr hs he

theorem Owned.leave (h : Owned u) (ho : u.own? t = some own) :
    Owned (u.put t { u.shared with nodes := u.shared.nodes.setClaimed own.node false } .vacant
      holds) where
  claimed := by
    intro s own' hs
    simp only [shared_put, Arena.isClaimed_setClaimed (h.lt ho)]
    rw [own?_put] at hs
    split at hs
    · cases hs
    · next hst =>
      rw [if_neg fun he => hst (h.inj s t own' own hs ho he.symm)]
      exact h.claimed s own' hs
  inj := by
    intro r s own₁ own₂ hr hs
    rw [own?_put] at hr hs
    split at hr
    · cases hr
    · split at hs
      · cases hs
      · exact h.inj r s own₁ own₂ hr hs

theorem Seated.put (h : Seated u) (hidle : holds = true → ∃ own, seat = .idle own)
    (hpoint : ∀ own point, seat = .waiting own point → point = .grant) :
    Seated (u.put t shared seat holds) where
  holder_idle := holder_idle_put h.holder_idle hidle
  point_eq := by
    intro s own point hs
    rw [seat_put] at hs
    split at hs
    · exact hpoint own point hs
    · exact h.point_eq s own point hs

end Nodes

end SpinLocks.Mcs
