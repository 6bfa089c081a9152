import SpinLocks.Proofs.Mcs.Queue

namespace SpinLocks.Mcs

open Shared Usage

variable {n : Nat} {u : Threads n} {line rest : List (Fin n)} {s t : Fin n} {own : Own}
  {point : Wait}

/-- What is to be told of a move that leaves a thread with its node. -/
theorem Queued.put (h : Queued u line) {shared : Shared} {seat : Seat Own Wait} {holds : Bool}
    {line' : List (Fin n)} {cells : Fin n → Option Node} (ho : u.own? t = some own)
    (hseat : seat.own? = some own) (hlined : Lined (u.put t shared seat holds) line')
    (hclaimed : ∀ j, shared.nodes.isClaimed j = u.shared.nodes.isClaimed j)
    (hidle : holds = true → ∃ own, seat = .idle own)
    (hpoint : ∀ own point, seat = .waiting own point → point = .grant)
    (hcell : cell (u.put t shared seat holds) = cells)
    (hlinked : Linked shared.tail (nodeOf u) cells line')
    (hfirst : ∀ s, line'.head? = some s → (u.put t shared seat holds).waits s = true →
      (cells s).map Node.waiting = some false) :
    Queued (u.put t shared seat holds) line' := by
  rw [← hcell] at hlinked hfirst
  rw [← nodeOf_put ho hseat] at hlinked
  exact {
    hlined, h.toOwned.put ho hseat hclaimed, h.toSeated.put hidle hpoint, hlinked with
    first := hfirst }

theorem cell_put {shared : Shared} {seat : Seat Own Wait} {holds : Bool} (ho : u.own? t = some own)
    (hseat : seat.own? = some own) (hnodes : shared.nodes = u.shared.nodes) :
    cell (u.put t shared seat holds) = cell u := by
  funext s
  simp only [cell, nodeOf_put ho hseat, shared_put, hnodes]

theorem cell_enqueue (h : Owned u) (ho : u.own? t = some own) {seat : Seat Own Wait} {holds : Bool}
    (hseat : seat.own? = some own) :
    cell (u.put t (u.shared.enqueue own.node) seat holds) =
      Function.update (cell u) t (some .queued) := by
  obtain ⟨node, hnode⟩ := Arena.exists_node? (h.lt ho)
  rw [h.cell_put (f := fun _ => .queued) ho hseat (nodeOf_of_own? ho) rfl, cell_of_own? ho, hnode]
  rfl

theorem cell_link (h : Owned u) (ho : u.own? t = some own) {seat : Seat Own Wait} {holds : Bool}
    {p : Nat} (hseat : seat.own? = some own) (hp : nodeOf u s = some p) (hst : s ≠ t) :
    cell (u.put t ((u.shared.enqueue own.node).link p own.node) seat holds) =
      Function.update (Function.update (cell u) t (some .queued)) s
        ((cell u s).map ({ · with next := some own.node })) := by
  -- the node is put at the tail first, and then the other is linked to it
  have h' : Owned (u.put t (u.shared.enqueue own.node) seat holds) :=
    h.put ho hseat fun j => Arena.isClaimed_modify ..
  have ho' : (u.put t (u.shared.enqueue own.node) seat holds).own? t = some own := by
    rw [own?_put, if_pos rfl, hseat]
  rw [← put_put (u.shared.enqueue own.node) _ seat seat holds holds,
    h'.cell_put (f := ({ · with next := some own.node })) ho' hseat
      ((congrFun (nodeOf_put ho hseat) s).trans hp) rfl,
    cell_enqueue h ho hseat, Function.update_of_ne hst]

theorem Queued.enter (h : Queued u []) (hs : u.seat t = .idle own) :
    Queued (u.put t (u.shared.enqueue own.node) (.idle own) true) [t] := by
  have ho := own?_of_idle hs
  refine h.put ho rfl (h.toLined.enter (by simp) (by simp) rfl)
    (fun j => Arena.isClaimed_modify ..) (fun _ => ⟨own, rfl⟩) (by simp)
    (cell_enqueue h.toOwned ho rfl) (.single (nodeOf_of_own? ho) (Function.update_self ..)) ?_
  intro s hhead hw
  obtain rfl : t = s := by simpa using hhead
  simp [waits_put, Seat.waits] at hw

section Idle

variable (h : Queued u line) (hs : u.seat t = .idle own) (hf : u.holds t = false)
include h hs hf

/-- An attempt that fails leaves the node of the thread ready for the queue. -/
theorem Queued.prepare : Queued (u.put t (u.shared.prepare own.node) (.idle own) false) line := by
  have ho := own?_of_idle hs
  have ht := h.not_mem_idle hs hf
  refine h.put ho rfl (h.toLined.frame ht rfl) (fun j => Arena.isClaimed_modify ..) (by simp)
    (by simp) (h.cell_put (f := fun _ => .queued) ho rfl (nodeOf_of_own? ho) rfl)
    (h.toLinked.update ht) ?_
  intro s hhead hw
  have hst : s ≠ t := fun he => ht (he ▸ List.mem_of_head? hhead)
  rw [waits_put, if_neg hst] at hw
  rw [Function.update_of_ne hst]
  exact h.first s hhead hw

theorem Queued.wait {pre : List (Fin n)} {p : Nat} (hl : line = pre ++ [s])
    (hp : nodeOf u s = some p) :
    Queued (u.put t ((u.shared.enqueue own.node).link p own.node) (.waiting own .grant) false)
      (line ++ [t]) := by
  subst hl
  have ho := own?_of_idle hs
  have ht := h.not_mem_idle hs hf
  have hst : s ≠ t := by
    rintro rfl
    exact ht (by simp)
  have hcell : (cell u s).isSome = true := by
    obtain ⟨own₁, ho₁, -⟩ := exists_own_of_nodeOf hp
    obtain ⟨node, hnode⟩ := Arena.exists_node? (h.lt ho₁)
    simp [cell_of_own? ho₁, hnode]
  have hlinked := (h.toLinked.update (x := some .queued) ht).enqueue h.nodup
    (nodeOf_of_own? ho) (Function.update_self ..) ht (by rwa [Function.update_of_ne hst])
  rw [Function.update_of_ne hst] at hlinked
  refine h.put ho rfl (h.toLined.enter ht (by simp) rfl) ?_ (by simp) (by simp)
    (cell_link h.toOwned ho rfl hp hst) hlinked ?_
  · intro j
    exact (Arena.isClaimed_modify ..).trans (Arena.isClaimed_modify ..)
  · intro r hhead hw
    have hfirst : (pre ++ [s]).head? = some r := by
      cases pre <;> simpa using hhead
    have hrt : r ≠ t := by
      rintro rfl
      exact ht (List.mem_of_head? hfirst)
    rw [waits_put, if_neg hrt] at hw
    have hflag := h.first r hfirst hw
    rw [Function.update_apply]
    split
    · next he =>
      rw [he] at hflag
      rwa [Option.map_map]
    · rwa [Function.update_of_ne hrt]

end Idle

theorem Queued.grant (h : Queued u (t :: rest)) (hs : u.seat t = .waiting own point) :
    Queued (u.put t u.shared (.idle own) true) (t :: rest) := by
  have ho := own?_of_waiting hs
  refine h.put ho rfl h.toLined.grant (fun _ => rfl) (fun _ => ⟨own, rfl⟩) (by simp)
    (cell_put ho rfl rfl) h.toLinked ?_
  intro s hhead hw
  obtain rfl : t = s := by simpa using hhead
  simp [waits_put, Seat.waits] at hw

section Holder

variable (hs : u.seat t = .idle own)
include hs

theorem Queued.empty (h : Queued u [t]) : Queued (u.put t u.shared.empty (.idle own) false) [] := by
  have ho := own?_of_idle hs
  exact h.put ho rfl h.toLined.leave (fun _ => rfl) (by simp) (by simp)
    (cell_put ho rfl rfl) (.nil ..) (by simp)

theorem Queued.pass (h : Queued u (t :: s :: rest)) {k : Nat} (hk : nodeOf u s = some k) :
    Queued (u.put t (u.shared.pass k) (.idle own) false) (s :: rest) := by
  have ho := own?_of_idle hs
  refine h.put ho rfl h.toLined.leave (fun j => Arena.isClaimed_modify ..) (by simp) (by simp)
    (h.cell_put (f := ({ · with waiting := false })) ho rfl hk rfl)
    (h.toLinked.pass (List.nodup_cons.mp h.nodup).2) ?_
  intro r hhead _
  obtain rfl : s = r := by simpa using hhead
  obtain ⟨own₁, ho₁, -⟩ := exists_own_of_nodeOf hk
  obtain ⟨node, hnode⟩ := Arena.exists_node? (h.lt ho₁)
  rw [Function.update_self, Option.map_map, cell_of_own? ho₁, hnode]
  rfl

end Holder

theorem Queued.frame (h : Queued u line) {shared : Shared} {seat : Seat Own Wait} (ht : t ∉ line)
    (hw : seat.waits = false) (hnode : ∀ j, shared.nodes.node? j = u.shared.nodes.node? j)
    (htail : shared.tail = u.shared.tail) (howned : Owned (u.put t shared seat false)) :
    Queued (u.put t shared seat false) line := by
  have hne : ∀ s ∈ line, s ≠ t := by
    rintro s hm rfl
    exact ht hm
  have hnodes : ∀ s ∈ line, nodeOf (u.put t shared seat false) s = nodeOf u s := by
    intro s hm
    rw [nodeOf, own?_put, if_neg (hne s hm)]
    rfl
  have hcells : ∀ s ∈ line, cell (u.put t shared seat false) s = cell u s := by
    intro s hm
    simp only [cell, hnodes s hm, shared_put, funext hnode]
  have hseated : Seated (u.put t shared seat false) := by
    refine h.toSeated.put (by simp) ?_
    rintro own point rfl
    cases hw
  exact {
    h.toLined.frame ht hw, howned, hseated, h.toLinked.congr htail hnodes hcells with
    first := by
      intro s hhead hwaits
      have hm := List.mem_of_head? hhead
      rw [waits_put, if_neg (hne s hm)] at hwaits
      rw [hcells s hm]
      exact h.first s hhead hwaits }

theorem Queued.join (h : Queued u line) {k : Nat} (hs : u.seat t = .vacant)
    (hk : k < u.shared.nodes.size) (hfree : u.shared.nodes.isClaimed k = false) :
    Queued (u.put t { u.shared with nodes := u.shared.nodes.setClaimed k true } (.idle ⟨k⟩) false)
      line :=
  h.frame (h.not_mem_vacant h.holder_idle hs) rfl (Arena.node?_setClaimed _ _ · _) rfl
    (h.toOwned.join hk hfree)

theorem Queued.leave (h : Queued u line) (hs : u.seat t = .idle own) (hf : u.holds t = false) :
    Queued (u.put t { u.shared with nodes := u.shared.nodes.setClaimed own.node false } .vacant
      false) line :=
  h.frame (h.not_mem_idle hs hf) rfl (Arena.node?_setClaimed _ _ · _) rfl
    (h.toOwned.leave (own?_of_idle hs))

end SpinLocks.Mcs
