import SpinLocks.Kind
import SpinLocks.Proofs.Capacity
import SpinLocks.Session.Scenario

namespace SpinLocks

namespace Arena

variable {α : Type} {arena rest : Arena α} {index : Nat}

theorem unclaim_of_claim? (h : arena.claim? = some (index, rest)) :
    rest.unclaim index = .ok arena := by
  obtain ⟨hlt, hfree, rfl⟩ := isClaimed_of_claim? h
  have hl : index < arena.cells.length := hlt
  have hcell : arena.cells[index].claimed = false := by simpa [isClaimed, hl] using hfree
  have hcells : ((arena.setClaimed index true).setClaimed index false).cells = arena.cells := by
    apply List.ext_getElem?
    intro i
    by_cases hi : index = i
    · subst hi
      simp [setClaimed, hl, ← hcell]
    · simp [setClaimed, hi]
  rw [unclaim, if_pos (by simpa using hlt)]
  exact congrArg (Except.ok ∘ Arena.mk) hcells

end Arena

/-- What a lock keeps account of as threads join it and leave it: how many there are, or which nodes
they have claimed. -/
inductive Roll where
  | unkept
  | participants (count : Nat)
  | nodes (claims : List Bool)
  deriving DecidableEq

def Kind.roll : (kind : Kind) → kind.algorithm.Shared → Roll
  | .array => fun shared : ArrayQueue.Shared => .participants shared.participants
  | .clh => fun shared => .nodes (Clh.claims shared)
  | .mcs => fun shared => .nodes (Mcs.claims shared)
  | .hclh => fun shared => .nodes (Hclh.claims shared)
  | .tas | .ttas | .ticket | .htlock | .rwTtas => fun _ => .unkept

section Joining

variable {Shared Own Wait Account : Type} (lock : Lock Shared Own Wait)

/-- A lock that refuses a thread is left as it was, and a thread that leaves as soon as it has
joined restores what the lock keeps account of. -/
def Restores (account : Shared → Account) : Prop :=
  ∀ entry shared, (∃ cause, lock.join entry shared = (shared, .error cause)) ∨
    ∃ joined own restored, lock.join entry shared = (joined, .ok own) ∧
      lock.leave joined own = (restored, none) ∧ account restored = account shared

structure Lock.JoinedEach (entry : Entry) (before after : List Shared) (owns : List Own) :
    Prop where
  length_after : after.length = before.length
  length_owns : owns.length = before.length
  join : ∀ i (_ : i < before.length), lock.join entry before[i] = (after[i], .ok owns[i])

def Lock.RefusesFirst (entry : Entry) (locks : List Shared) (cause : LockError) : Prop :=
  ∃ earlier shared later, locks = earlier ++ shared :: later ∧
    (∀ s ∈ earlier, ∃ own, (lock.join entry s).2 = .ok own) ∧
    (lock.join entry shared).2 = .error cause

variable {lock} {account : Shared → Account} {entry : Entry} {before after : List Shared}
  {owns : List Own} {shared joined : Shared} {own : Own} {cause : LockError} {log : List Event}

theorem Lock.join_of_enter_ok (h : lock.enter entry shared = ⟨joined, .ok own, log⟩) :
    lock.join entry shared = (joined, .ok own) ∧ log = [] := by
  unfold Lock.enter at h
  split at h <;> cases h
  exact ⟨by assumption, rfl⟩

theorem Lock.join_of_enter_error (h : lock.enter entry shared = ⟨joined, .error cause, log⟩) :
    lock.join entry shared = (joined, .error cause) ∧
      log = [Lifecycle.refused lock.name entry cause] := by
  unfold Lock.enter at h
  split at h <;> cases h
  exact ⟨by assumption, rfl⟩

theorem Restores.join_error (hr : Restores lock account)
    (hj : lock.join entry shared = (joined, .error cause)) : joined = shared := by
  obtain ⟨cause', he⟩ | ⟨joined', own, restored, he, -⟩ := hr entry shared
  · cases he.symm.trans hj
    rfl
  · cases he.symm.trans hj

theorem Restores.leave_joined (hr : Restores lock account)
    (hj : lock.join entry shared = (joined, .ok own)) :
    ∃ restored, lock.leave joined own = (restored, none) ∧ account restored = account shared := by
  obtain ⟨cause, he⟩ | ⟨joined', own', restored, he, h⟩ := hr entry shared
  · cases he.symm.trans hj
  · cases he.symm.trans hj
    exact ⟨restored, h⟩

theorem Lock.JoinedEach.cons (hjoin : lock.join entry shared = (joined, .ok own))
    (h : lock.JoinedEach entry before after owns) :
    lock.JoinedEach entry (shared :: before) (joined :: after) (own :: owns) where
  length_after := congrArg (· + 1) h.length_after
  length_owns := congrArg (· + 1) h.length_owns
  join := by
    rintro (_ | i) hi
    · exact hjoin
    · exact h.join i (Nat.lt_of_succ_lt_succ hi)

/-- Locks that are all joined report nothing. -/
theorem joinedEach_of_enterAll (h : lock.enterAll entry before = ⟨after, .ok owns, log⟩) :
    lock.JoinedEach entry before after owns ∧ log = [] := by
  fun_induction lock.enterAll entry before generalizing after owns log with
  | case1 =>
    cases h
    exact ⟨⟨rfl, rfl, fun i hi => absurd hi (Nat.not_lt_zero i)⟩, rfl⟩
  | case2 => cases h
  | case3 shared rest joined own log hj after owns later hrest ih =>
    cases h
    obtain ⟨hjoin, rfl⟩ := Lock.join_of_enter_ok hj
    obtain ⟨heach, rfl⟩ := ih hrest
    exact ⟨heach.cons hjoin, rfl⟩
  | case4 => cases h

/-- Of the locks that were gone through, the last one reports that it refused. -/
theorem refusesFirst_of_enterAll (h : lock.enterAll entry before = ⟨after, .error cause, log⟩) :
    lock.RefusesFirst entry before cause ∧ log = [Lifecycle.refused lock.name entry cause] := by
  fun_induction lock.enterAll entry before generalizing after log with
  | case1 => cases h
  | case2 shared rest refused cause log hj =>
    cases h
    obtain ⟨hjoin, rfl⟩ := Lock.join_of_enter_error hj
    exact ⟨⟨[], shared, rest, rfl, by simp, by rw [hjoin]⟩, rfl⟩
  | case3 => cases h
  | case4 shared rest joined own log hj after cause later hrest ih =>
    cases h
    obtain ⟨hjoin, rfl⟩ := Lock.join_of_enter_ok hj
    obtain ⟨⟨earlier, refusing, rest, rfl, hall, hc⟩, rfl⟩ := ih hrest
    have hown : ∃ own, (lock.join entry shared).2 = .ok own := ⟨own, by rw [hjoin]⟩
    exact ⟨⟨shared :: earlier, refusing, rest, rfl, List.forall_mem_cons.mpr ⟨hown, hall⟩, hc⟩, rfl⟩

/-- The locks that were joined before one refused are left again, each with the private state that
it gave. -/
theorem Restores.enterAll_error (hr : Restores lock account)
    (h : lock.enterAll entry before = ⟨after, .error cause, log⟩) :
    after.map account = before.map account := by
  fun_induction lock.enterAll entry before generalizing after log with
  | case1 => cases h
  | case2 shared rest refused cause log hj =>
    cases h
    rw [hr.join_error (Lock.join_of_enter_error hj).1]
  | case3 => cases h
  | case4 shared rest joined own log hj after cause later hrest ih =>
    cases h
    obtain ⟨restored, hleave, hrestored⟩ := hr.leave_joined (Lock.join_of_enter_ok hj).1
    rw [hleave, List.map_cons, List.map_cons, hrestored, ih hrest]

theorem Restores.leaveAll_joined (hr : Restores lock account)
    (h : lock.JoinedEach entry before after owns) :
    ∃ restored, lock.leaveAll after owns = (restored, none) ∧
      restored.map account = before.map account := by
  induction before generalizing after owns with
  | nil =>
    obtain rfl := List.eq_nil_of_length_eq_zero h.length_after
    exact ⟨[], rfl, rfl⟩
  | cons shared rest ih =>
    obtain ⟨shared', after, rfl⟩ := List.exists_cons_of_length_eq_add_one h.length_after
    obtain ⟨own, owns, rfl⟩ := List.exists_cons_of_length_eq_add_one h.length_owns
    have hj : lock.join entry shared = (shared', .ok own) := h.join 0 (Nat.zero_lt_succ _)
    obtain ⟨head, hleave, hhead⟩ := hr.leave_joined hj
    obtain ⟨restored, he, hrestored⟩ := @ih after owns {
      length_after := Nat.succ.inj h.length_after
      length_owns := Nat.succ.inj h.length_owns
      join := fun i hi => h.join (i + 1) (Nat.succ_lt_succ hi) }
    exact ⟨head :: restored, by simp [Lock.leaveAll, hleave, he], by simp [hhead, hrestored]⟩

end Joining

section Restores

variable {Shared Own Wait Account : Type} {lock : Lock Shared Own Wait}

theorem Restores.comp {Account' : Type} {account : Shared → Account} (hr : Restores lock account)
    (f : Account → Account') : Restores lock (f ∘ account) := by
  intro entry shared
  obtain h | ⟨joined, own, restored, hj, hleave, he⟩ := hr entry shared
  · exact .inl h
  · exact .inr ⟨joined, own, restored, hj, hleave, congrArg f he⟩

variable (lock) in
theorem restores_of_unkept (own : Entry → Shared → Own)
    (hjoin : ∀ entry shared, lock.join entry shared = (shared, .ok (own entry shared)))
    (hleave : ∀ shared own, lock.leave shared own = (shared, none)) : Restores lock id :=
  fun entry shared =>
    .inr ⟨shared, own entry shared, shared, hjoin entry shared, hleave shared _, rfl⟩

theorem ArrayQueue.restores : Restores arrayQueue id := by
  intro entry shared
  by_cases hlt : shared.participants < shared.capacity
  · exact .inr ⟨_, ⟨0, 0⟩, shared, if_pos hlt, rfl, rfl⟩
  · exact .inl ⟨_, if_neg hlt⟩

theorem Clh.restores : Restores clh id := by
  intro entry shared
  cases hc : shared.nodes.claim? with
  | none => exact .inl ⟨_, join_none hc entry⟩
  | some found =>
    refine .inr ⟨_, _, shared, join_some hc entry, ?_, rfl⟩
    simp [clh, leave, Link.index, Arena.unclaim_of_claim? hc]

theorem Mcs.restores : Restores mcs id := by
  intro entry shared
  cases hc : shared.nodes.claim? with
  | none => exact .inl ⟨_, join_none hc entry⟩
  | some found =>
    refine .inr ⟨_, _, shared, join_some hc entry, ?_, rfl⟩
    simp [mcs, leave, Arena.unclaim_of_claim? hc]

/-- What a node holds is not restored, since it was made fresh for the thread that claimed it. -/
theorem Hclh.restores : Restores hclh claims := by
  intro entry shared
  by_cases hcluster : 256 ≤ entry.config.topology.clusterFor entry.core % shared.queues.length
  · exact .inl ⟨_, if_pos hcluster⟩
  · cases hc : shared.nodes.claim? with
    | none => exact .inl ⟨_, by simp only [hclh, join, hc, if_neg hcluster]; rfl⟩
    | some found =>
      obtain ⟨k, nodes⟩ := found
      obtain ⟨hlt, -, rfl⟩ := Arena.isClaimed_of_claim? hc
      let cluster :=
        UInt8.ofNat (entry.config.topology.clusterFor entry.core % shared.queues.length)
      have hj : hclh.join entry shared = (shared.claim cluster k, .ok ⟨some k, none, cluster⟩) := by
        simp [hclh, join, hcluster, hc, Shared.claim, cluster]
      have hk : k < (shared.claim cluster k).nodes.size := by rwa [size_claim]
      refine .inr ⟨_, _, _, hj, leave_eq rfl hk, ?_⟩
      obtain ⟨hk', hfree⟩ := List.getElem?_eq_some_iff.mp (Arena.claims_of_claim? hc).1
      simp only [claims, Shared.unclaim, Shared.claim, Arena.claims_setClaimed, Arena.claims_modify,
        List.set_set]
      rw [← hfree, List.set_getElem_self]

theorem Kind.restores_id {kind : Kind} (h : kind ≠ .hclh) : Restores kind.algorithm.lock id := by
  cases kind with
  | tas => exact restores_of_unkept SpinLocks.tas _ (fun _ _ => rfl) fun _ _ => rfl
  | ttas => exact restores_of_unkept SpinLocks.ttas _ (fun _ _ => rfl) fun _ _ => rfl
  | array => exact ArrayQueue.restores
  | clh => exact Clh.restores
  | mcs => exact Mcs.restores
  | ticket => exact restores_of_unkept SpinLocks.ticket _ (fun _ _ => rfl) fun _ _ => rfl
  | hclh => exact absurd rfl h
  | htlock => exact restores_of_unkept clusterTicket _ (fun _ _ => rfl) fun _ _ => rfl
  | rwTtas => exact restores_of_unkept readWrite _ (fun _ _ => rfl) fun _ _ => rfl

theorem Kind.restores (kind : Kind) : Restores kind.algorithm.lock kind.roll := by
  by_cases h : kind = .hclh
  · subst h
    exact Hclh.restores.comp Roll.nodes
  · exact (Kind.restores_id h).comp kind.roll

end Restores

namespace Session.Scenario

def joining {n : Nat} (t : Fin n) (core : Nat) : Step :=
  { name := "init", thread := some t, core }

def leaving {n : Nat} (t : Fin n) : Step :=
  { name := "free", thread := some t }

variable {Shared Own Wait : Type} {lock : Lock Shared Own Wait} {machine : Machine} {n core : Nat}
  {config : Config} {s : System (List Shared) (LockArray.Own Own) (LockArray.Wait Wait) n}
  {t : Fin n} {after : List Shared} {owns : List Own} {cause : LockError} {log : List Event}

theorem perform_joining_ok (hs : s.seat t = .vacant)
    (h : lock.enterAll ⟨config, core⟩ s.shared = ⟨after, .ok owns, log⟩) :
    perform (Bench.array lock machine) config s (joining t core) =
      ({ s with shared := after }.place t (.idle (.each core owns)), .answer .joined,
        Lifecycle.pinned machine ⟨config, core⟩ ++ log ++
          [Lifecycle.joinedAll lock.name ⟨config, core⟩ s.shared.length]) := by
  have hjoin : LockArray.join lock machine ⟨⟨config, core⟩, none⟩ s.shared =
      ⟨after, .ok (.each core owns), Lifecycle.pinned machine ⟨config, core⟩ ++ log ++
        [Lifecycle.joinedAll lock.name ⟨config, core⟩ s.shared.length]⟩ := by
    simp only [LockArray.join, Lock.initAll, h]
    rfl
  simp [perform, joining, Step.thread?, hs, join, System.join, Bench.array, Bench.protocol, hjoin]

theorem perform_joining_error (hs : s.seat t = .vacant)
    (h : lock.enterAll ⟨config, core⟩ s.shared = ⟨after, .error cause, log⟩) :
    perform (Bench.array lock machine) config s (joining t core) =
      ({ s with shared := after }, .answer (.failed (.error cause)),
        Lifecycle.pinned machine ⟨config, core⟩ ++ log) := by
  have hjoin : LockArray.join lock machine ⟨⟨config, core⟩, none⟩ s.shared =
      ⟨after, .error (.error cause), Lifecycle.pinned machine ⟨config, core⟩ ++ log⟩ := by
    simp only [LockArray.join, Lock.initAll, h]
    rfl
  simp [perform, joining, Step.thread?, hs, join, System.join, Bench.array, Bench.protocol, hjoin]

theorem perform_leaving (hs : s.seat t = .idle (.each core owns))
    (h : lock.leaveAll s.shared owns = (after, none)) :
    perform (Bench.array lock machine) config s (leaving t) =
      ({ s with shared := after }.place t .vacant, .answer .left,
        Lifecycle.leftAll lock.name core) := by
  simp [perform, leaving, Step.thread?, hs, operate, leave, System.leave, Bench.array,
    Bench.protocol, LockArray.leave, h]

section Log

def errors (log : List Event) : Nat :=
  log.countP (·.level = .error)

def completions (log : List Event) : Nat :=
  log.countP (·.message = "initialized local array")

theorem errors_append (log later : List Event) :
    errors (log ++ later) = errors log + errors later :=
  List.countP_append

theorem completions_append (log later : List Event) :
    completions (log ++ later) = completions log + completions later :=
  List.countP_append

theorem count_pinned (machine : Machine) (entry : Entry) :
    errors (Lifecycle.pinned machine entry) = 0 ∧
      completions (Lifecycle.pinned machine entry) = 0 := by
  unfold Lifecycle.pinned
  split
  · split <;> simp [errors, completions]
  · exact ⟨rfl, rfl⟩

end Log

abbrev Threads (kind : Kind) (n : Nat) :=
  System (List kind.algorithm.Shared) (LockArray.Own kind.algorithm.Own)
    (LockArray.Wait kind.algorithm.Wait) n

/-- The threads are where they were, and as many take part in each lock or the same nodes of it are
claimed. One algorithm makes a node fresh when it is claimed; the others show no change at all. -/
structure Unchanged {kind : Kind} (s after : Threads kind n) : Prop where
  seats_eq : after.seats = s.seats
  roll_eq : after.shared.map kind.roll = s.shared.map kind.roll
  shared_eq : kind ≠ .hclh → after.shared = s.shared

/-- A thread that joins all locks ends up with one private state for each, in their order, and
restores them if it leaves at once; or else the first lock that refuses it is reported, and no lock
is changed. -/
theorem all_or_nothing (kind : Kind) (machine : Machine) (config : Config) (core : Nat)
    {s : Threads kind n} {t : Fin n} (hs : s.seat t = .vacant) :
    let lock := kind.algorithm.lock
    let bench := Bench.array lock machine
    (∃ after owns log left,
        perform bench config s (joining t core) = (after, .answer .joined, log) ∧
        after.seats = s.seats.set t (.idle (.each core owns)) t.isLt ∧
        lock.JoinedEach ⟨config, core⟩ s.shared after.shared owns ∧
        errors log = 0 ∧ completions log = 1 ∧
        perform bench config after (leaving t) =
          (left, .answer .left, Lifecycle.leftAll lock.name core) ∧ Unchanged s left) ∨
      ∃ after cause log,
        perform bench config s (joining t core) =
          (after, .answer (.failed (.error cause)), log) ∧
        lock.RefusesFirst ⟨config, core⟩ s.shared cause ∧
        Lifecycle.refused lock.name ⟨config, core⟩ cause ∈ log ∧
        errors log = 1 ∧ completions log = 0 ∧ Unchanged s after := by
  intro lock bench
  obtain ⟨he, hc⟩ := count_pinned machine ⟨config, core⟩
  match h : lock.enterAll ⟨config, core⟩ s.shared with
  | ⟨after, .ok owns, log⟩ =>
    obtain ⟨heach, rfl⟩ := joinedEach_of_enterAll h
    obtain ⟨restored, hleave, hroll⟩ := kind.restores.leaveAll_joined heach
    have hseat : ({ s with shared := after }.place t (.idle (.each core owns))).seat t =
        .idle (.each core owns) := by
      rw [System.seat_place, if_pos rfl]
    refine .inl ⟨_, owns, _, _, perform_joining_ok hs h, rfl, heach, ?_, ?_,
      perform_leaving hseat hleave, ?_, hroll, ?_⟩
    · rw [List.append_nil, errors_append, he]
      rfl
    · rw [List.append_nil, completions_append, hc]
      rfl
    · have hself : s.place t .vacant = s := System.place_self hs
      simpa [System.place] using congrArg System.seats hself
    · -- The roll is all that some lock restores, so the others are told of by themselves.
      intro hne
      obtain ⟨restored', hleave', hid⟩ := (Kind.restores_id hne).leaveAll_joined heach
      cases hleave'.symm.trans hleave
      simpa using hid
  | ⟨after, .error cause, log⟩ =>
    obtain ⟨hfirst, rfl⟩ := refusesFirst_of_enterAll h
    have hperform : perform bench config s (joining t core) =
        ({ s with shared := after }, .answer (.failed (.error cause)),
          Lifecycle.pinned machine ⟨config, core⟩ ++
            [Lifecycle.refused lock.name ⟨config, core⟩ cause]) := perform_joining_error hs h
    have hunchanged : Unchanged s { s with shared := after } := by
      refine ⟨rfl, kind.restores.enterAll_error h, fun hne => ?_⟩
      simpa using (Kind.restores_id hne).enterAll_error h
    refine .inr ⟨_, cause, _, hperform, hfirst, ?_, ?_, ?_, hunchanged⟩
    · exact List.mem_append_right _ List.mem_cons_self
    · rw [errors_append, he]
      rfl
    · rw [completions_append, hc]
      rfl

/-- Of three locks the second is full, and the others have a node left. The thread is not bound to
its core, either. -/
theorem all_or_nothing_between :
    let machine : Machine := ⟨some [0], some 1, fun core => core < 1⟩
    let config : Config := { Config.pair with pinThreads := true }
    let bench := Bench.array Kind.hclh.algorithm.lock machine
    let steps : List Step := [
      { name := "init", thread := some 0 },
      { name := "init_one", thread := some 1, core := 1, index := 1 }]
    let s : Threads .hclh 3 := steps.foldl (fun s step => (perform bench config s step).1)
      (System.init 3 (List.replicate 3 (Kind.hclh.algorithm.lock.create config)))
    s.seat 2 = .vacant ∧
      s.shared.map Kind.hclh.roll =
        [[true, true, false], [true, true, true], [true, true, false]].map .nodes ∧
      ∃ after log,
        perform bench config s (joining (2 : Fin 3) 1) =
          (after, .answer (.failed (.error (.capacity "hclh" 2))), log) ∧
        Kind.hclh.algorithm.lock.RefusesFirst ⟨config, 1⟩ s.shared (.capacity "hclh" 2) ∧
        Lifecycle.refused "hclh" ⟨config, 1⟩ (.capacity "hclh" 2) ∈ log ∧
        errors log = 1 ∧ completions log = 0 ∧ Unchanged s after := by
  intro machine config bench steps s
  have hs : s.seat 2 = .vacant := rfl
  have hresult : (perform bench config s (joining (2 : Fin 3) 1)).2.1 =
      .answer (.failed (.error (.capacity "hclh" 2))) := rfl
  obtain ⟨after, owns, log, left, he, -⟩ | ⟨after, cause, log, he, h⟩ :=
    all_or_nothing .hclh machine config 1 hs
  · cases (congrArg (·.2.1) he).symm.trans hresult
  · cases (congrArg (·.2.1) he).symm.trans hresult
    exact ⟨hs, rfl, after, log, he, h⟩

end Session.Scenario

end SpinLocks
