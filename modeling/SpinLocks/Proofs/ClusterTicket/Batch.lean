import SpinLocks.Proofs.ClusterTicket.Turns

namespace SpinLocks.ClusterTicket

variable {n : Nat}

/-- What a thread does in a cluster: it holds the lock on behalf of the cluster, or waits there. -/
inductive Role where
  | holds
  | waits (point : Wait)

def AtFront (cur : Int) : Option Role → Prop
  | some .holds | some (.waits .called) => True
  | some (.waits (.served ticket)) => ticket.toInt = cur
  | _ => False

/-- Each ticket of the open batch that was drawn and not served yet has one thread that waits for
it. The one that is served may have one. -/
structure Served (cur nxt : Int) (roles : Fin n → Option Role) : Prop where
  range : ∀ t ticket, roles t = some (.waits (.served ticket)) →
    nxt ≤ ticket.toInt ∧ 0 ≤ ticket.toInt ∧ ticket.toInt ≤ cur
  inj : ∀ s t ticket, roles s = some (.waits (.served ticket)) →
    roles t = some (.waits (.served ticket)) → s = t
  exists_of_lt : ∀ k, nxt ≤ k → 0 ≤ k → k < cur →
    ∃ t ticket, roles t = some (.waits (.served ticket)) ∧ ticket.toInt = k

/-- Those who found no ticket left, the first of whom is to open the next batch. -/
structure Late (roles : Fin n → Option Role) (late : List (Fin n)) : Prop where
  nodup : late.Nodup
  waits : ∀ t ∈ late, roles t = some (.waits .closed) ∨ roles t = some (.waits .opened)
  closed_iff : ∀ t, roles t = some (.waits .closed) ↔ late.head? = some t

/-- The counters of a cluster and the roles of its threads, where `front` stands in front of the
open batch. -/
structure Batch (batch cur nxt : Int) (roles : Fin n → Option Role) (front : Option (Fin n))
    (late : List (Fin n)) : Prop where
  closed : front = none → cur = batch + 1 ∧ nxt ≤ 0 ∧
    ∀ t ticket, roles t ≠ some (.waits (.served ticket))
  opened : front ≠ none → 0 ≤ cur ∧ cur ≤ batch ∧ nxt ≤ cur ∧ Served cur nxt roles
  front_iff : ∀ t, front = some t ↔ AtFront cur (roles t)
  late_length : (late.length : Int) = max (-nxt) 0
  late : Late roles late

variable {batch cur nxt : Int} {roles : Fin n → Option Role} {front : Option (Fin n)}
  {late : List (Fin n)} {t : Fin n} {r : Option Role} {ticket : Int32}

theorem AtFront.cases (h : AtFront cur r) : r = some .holds ∨ r = some (.waits .called) ∨
    ∃ ticket, r = some (.waits (.served ticket)) ∧ ticket.toInt = cur := by
  match r, h with
  | some .holds, _ => exact .inl rfl
  | some (.waits .called), _ => exact .inr (.inl rfl)
  | some (.waits (.served ticket)), h => exact .inr (.inr ⟨ticket, rfl, h⟩)

section Served

variable (h : Served cur nxt roles)
include h

/-- No ticket that waits to be served is lost with a thread that did not wait for one. -/
theorem Served.update (hb : ∀ ticket, roles t = some (.waits (.served ticket)) → cur ≤ ticket.toInt)
    (ha : ∀ ticket, r ≠ some (.waits (.served ticket))) :
    Served cur nxt (Function.update roles t r) where
  range := by
    intro s ticket hs
    rw [Function.update_apply] at hs
    split at hs
    · exact absurd hs (ha ticket)
    · exact h.range s ticket hs
  inj := by
    intro s s' ticket hs hs'
    rw [Function.update_apply] at hs hs'
    split at hs
    · exact absurd hs (ha ticket)
    split at hs'
    · exact absurd hs' (ha ticket)
    exact h.inj s s' ticket hs hs'
  exists_of_lt := by
    intro k hn hz hlt
    obtain ⟨s, ticket, hs, hk⟩ := h.exists_of_lt k hn hz hlt
    have hst : s ≠ t := by
      rintro rfl
      have := hb ticket hs
      omega
    exact ⟨s, ticket, by rw [Function.update_of_ne hst, hs], hk⟩

theorem Served.lower {nxt' : Int} (hle : nxt' ≤ nxt) (hz : nxt ≤ 0) : Served cur nxt' roles where
  range := by
    intro s ticket hs
    have := h.range s ticket hs
    omega
  inj := h.inj
  exists_of_lt k _ hz' hlt := h.exists_of_lt k (by omega) hz' hlt

theorem Served.draw (hr : ∀ ticket, roles t ≠ some (.waits (.served ticket))) (hle : nxt ≤ cur)
    (hpos : 0 < nxt) (hticket : ticket.toInt = nxt - 1) :
    Served cur (nxt - 1) (Function.update roles t (some (.waits (.served ticket)))) where
  range := by
    intro s ticket' hs
    rw [Function.update_apply] at hs
    split at hs
    · cases hs
      omega
    · have := h.range s ticket' hs
      omega
  inj := by
    -- All tickets drawn before are above the one that is drawn now.
    have hne : ∀ s, roles s ≠ some (.waits (.served ticket)) := by
      intro s hs
      have := (h.range s ticket hs).1
      omega
    intro s s' ticket' hs hs'
    rw [Function.update_apply] at hs hs'
    split at hs
    · next he =>
      cases hs
      split at hs'
      · next he' => exact he.trans he'.symm
      · exact absurd hs' (hne s')
    · split at hs'
      · cases hs'
        exact absurd hs (hne s)
      · exact h.inj s s' ticket' hs hs'
  exists_of_lt := by
    intro k hn hz hlt
    by_cases hk : k = nxt - 1
    · exact ⟨t, ticket, by rw [Function.update_self], hticket.trans hk.symm⟩
    · obtain ⟨s, ticket', hs, he⟩ := h.exists_of_lt k (by omega) hz hlt
      have hst : s ≠ t := by
        rintro rfl
        exact hr ticket' hs
      exact ⟨s, ticket', by rw [Function.update_of_ne hst, hs], he⟩

theorem Served.pass
    (hr : ∀ t ticket, roles t = some (.waits (.served ticket)) → ticket.toInt ≠ cur) :
    Served (cur - 1) nxt roles where
  range := by
    intro s ticket hs
    have := h.range s ticket hs
    have := hr s ticket hs
    omega
  inj := h.inj
  exists_of_lt k hn hz hlt := h.exists_of_lt k hn hz (by omega)

end Served

section Late

variable (h : Late roles late)
include h

theorem Late.update (ht : t ∉ late) (hr : r ≠ some (.waits .closed)) :
    Late (Function.update roles t r) late where
  nodup := h.nodup
  waits := by
    intro s hs
    have hst : s ≠ t := fun he => ht (he ▸ hs)
    rw [Function.update_of_ne hst]
    exact h.waits s hs
  closed_iff := by
    intro s
    rw [Function.update_apply]
    split
    · next he =>
      refine ⟨fun hc => absurd hc hr, fun hs => absurd (List.mem_of_head? hs) (he ▸ ht)⟩
    · exact h.closed_iff s

theorem Late.first (hl : late = []) :
    Late (Function.update roles t (some (.waits .closed))) [t] where
  nodup := by simp
  waits := by
    intro s hs
    obtain rfl := List.mem_singleton.mp hs
    rw [Function.update_self]
    exact .inl rfl
  closed_iff := by
    intro s
    rw [Function.update_apply]
    split
    · next he => simp [he]
    · next hst =>
      have hs := h.closed_iff s
      simp [hl] at hs
      simp [hs, Ne.symm hst]

theorem Late.concat (hl : late ≠ []) (ht : t ∉ late) :
    Late (Function.update roles t (some (.waits .opened))) (late ++ [t]) where
  nodup := by
    refine List.nodup_append.mpr ⟨h.nodup, by simp, fun s hs s' hs' he => ?_⟩
    rw [he, List.mem_singleton.mp hs'] at hs
    exact ht hs
  waits := by
    intro s hs
    rw [Function.update_apply]
    split
    · exact .inr rfl
    · next hst => exact h.waits s (by simpa [hst] using hs)
  closed_iff := by
    intro s
    obtain ⟨a, rest, rfl⟩ := List.exists_cons_of_ne_nil hl
    exact (h.update ht (by simp)).closed_iff s

theorem Late.opens (ht : roles t = some (.waits .closed)) (hr : r ≠ some (.waits .closed)) :
    Late (Function.update roles t r) [] where
  nodup := List.nodup_nil
  waits := by simp
  closed_iff := by
    intro s
    rw [Function.update_apply]
    split
    · simp [hr]
    · next hst =>
      have hfirst := (h.closed_iff t).mp ht
      rw [h.closed_iff s, hfirst]
      simp [Ne.symm hst]

end Late

theorem Batch.empty (batch : Int) : Batch batch (batch + 1) 0 (fun _ : Fin n => none) none [] where
  closed _ := ⟨rfl, Int.le_refl 0, by simp⟩
  opened := by simp
  front_iff := by simp [AtFront]
  late_length := rfl
  late := ⟨List.nodup_nil, by simp, by simp⟩

section Draw

variable (h : Batch batch cur nxt roles front late)
include h

theorem Batch.late_nil (hle : 0 ≤ nxt) : late = [] := by
  have := h.late_length
  exact List.eq_nil_of_length_eq_zero (by omega)

theorem Batch.not_mem_late (hr : roles t ≠ some (.waits .closed))
    (hr' : roles t ≠ some (.waits .opened)) : t ∉ late := fun ht =>
  (h.late.waits t ht).elim hr hr'

theorem Batch.front_of (hr : roles t = some .holds ∨ roles t = some (.waits .called)) :
    front = some t := by
  rw [h.front_iff]
  obtain hr | hr := hr <;> simp [hr, AtFront]

theorem Batch.front_iff_update (ht : ¬ AtFront cur (roles t)) (hr : ¬ AtFront cur r) (s : Fin n) :
    front = some s ↔ AtFront cur (Function.update roles t r s) := by
  rw [Function.update_apply]
  split
  · next he => exact ⟨fun hs => absurd ((h.front_iff s).mp hs) (he ▸ ht), fun ha => absurd ha hr⟩
  · exact h.front_iff s

theorem Batch.draw (hr : roles t = none ∨ roles t = some (.waits .opened)) (hpos : 0 < nxt)
    (hticket : ticket.toInt = nxt - 1) :
    Batch batch cur (nxt - 1) (Function.update roles t (some (.waits (.served ticket)))) front
      late := by
  have hlate := h.late_nil (Int.le_of_lt hpos)
  have hopen : front ≠ none := by
    intro hn
    have := (h.closed hn).2.1
    omega
  obtain ⟨hzero, hle, hlt, hserved⟩ := h.opened hopen
  have hfront : ¬ AtFront cur (roles t) := by
    obtain hr | hr := hr <;> simp [hr, AtFront]
  have hticket' : ¬ AtFront cur (some (.waits (.served ticket))) := by
    simp only [AtFront]
    omega
  exact {
    closed := fun hn => absurd hn hopen
    opened := fun _ => ⟨hzero, hle, by omega,
      hserved.draw (fun ticket' => by obtain hr | hr := hr <;> simp [hr]) hlt hpos hticket⟩
    front_iff := h.front_iff_update hfront hticket'
    late_length := by
      rw [hlate, List.length_nil]
      omega
    late := h.late.update (by simp [hlate]) (by simp) }

theorem Batch.late_of {point : Wait} {late' : List (Fin n)}
    (hr : roles t = none ∨ roles t = some (.waits .opened)) (hle : nxt ≤ 0)
    (hpoint : point = .closed ∨ point = .opened)
    (hlate : Late (Function.update roles t (some (.waits point))) late')
    (hlength : (late'.length : Int) = 1 - nxt) :
    Batch batch cur (nxt - 1) (Function.update roles t (some (.waits point))) front late' := by
  have hfront : ¬ AtFront cur (roles t) := by
    obtain hr | hr := hr <;> simp [hr, AtFront]
  have hserved : ∀ ticket, roles t ≠ some (.waits (.served ticket)) := by
    intro ticket
    obtain hr | hr := hr <;> simp [hr]
  have hserved' : ∀ ticket, some (Role.waits point) ≠ some (.waits (.served ticket)) := by
    intro ticket
    obtain rfl | rfl := hpoint <;> simp
  exact {
    closed := by
      intro hn
      obtain ⟨hcur, -, hnone⟩ := h.closed hn
      refine ⟨hcur, by omega, fun s ticket => ?_⟩
      rw [Function.update_apply]
      split
      · exact hserved' ticket
      · exact hnone s ticket
    opened := by
      intro hopen
      obtain ⟨hzero, hle', -, hs⟩ := h.opened hopen
      exact ⟨hzero, hle', by omega, (hs.lower (by omega) hle).update
        (fun ticket ht => absurd ht (hserved ticket)) hserved'⟩
    front_iff := h.front_iff_update hfront (by obtain rfl | rfl := hpoint <;> simp [AtFront])
    late_length := by omega
    late := hlate }

theorem Batch.drawFirst (hr : roles t = none ∨ roles t = some (.waits .opened)) (hzero : nxt = 0) :
    Batch batch cur (nxt - 1) (Function.update roles t (some (.waits .closed))) front [t] :=
  h.late_of hr (by omega) (.inl rfl) (h.late.first (h.late_nil (by omega))) (by simp; omega)

theorem Batch.drawLate (hr : roles t = none) (hneg : nxt < 0) :
    Batch batch cur (nxt - 1) (Function.update roles t (some (.waits .opened))) front
      (late ++ [t]) := by
  have hlength := h.late_length
  have hlate : late ≠ [] := by
    rintro rfl
    simp at hlength
    omega
  have ht := h.not_mem_late (t := t) (by simp [hr]) (by simp [hr])
  exact h.late_of (.inl hr) (by omega) (.inr rfl) (h.late.concat hlate ht) (by simp; omega)

end Draw

theorem Batch.openBatch (h : Batch batch cur nxt roles none late)
    (ht : roles t = some (.waits .closed)) (hpos : 0 < batch) :
    Batch batch batch batch (Function.update roles t (some (.waits .called))) (some t) [] := by
  obtain ⟨-, -, hnone⟩ := h.closed rfl
  have hserved : ∀ s ticket, Function.update roles t (some (.waits .called)) s ≠
      some (.waits (.served ticket)) := by
    intro s ticket
    rw [Function.update_apply]
    split
    · simp
    · exact hnone s ticket
  exact {
    closed := by simp
    opened := fun _ => ⟨by omega, by omega, by omega, {
      range := fun s ticket hs => absurd hs (hserved s ticket)
      inj := fun s _ ticket hs => absurd hs (hserved s ticket)
      exists_of_lt := by
        intro k hn _ hlt
        omega }⟩
    front_iff := by
      intro s
      rw [Function.update_apply]
      split
      · next he => simp [he, AtFront]
      · next hst =>
        have hs : ¬ AtFront batch (roles s) := by
          intro ha
          obtain hr | hr | ⟨ticket, hr, -⟩ := ha.cases
          · cases h.front_of (.inl hr)
          · cases h.front_of (.inr hr)
          · exact hnone s ticket hr
        simp [hs, Ne.symm hst]
    late_length := by
      rw [List.length_nil]
      omega
    late := h.late.opens ht (by simp) }

section Front

variable (h : Batch batch cur nxt roles (some t) late)
include h

theorem Batch.front_role : AtFront cur (roles t) :=
  (h.front_iff t).mp rfl

theorem Batch.front_not_late : t ∉ late := by
  obtain hr | hr | ⟨ticket, hr, -⟩ := h.front_role.cases <;>
    exact h.not_mem_late (by simp [hr]) (by simp [hr])

/-- The thread in front comes to hold the lock. -/
theorem Batch.grant :
    Batch batch cur nxt (Function.update roles t (some .holds)) (some t) late := by
  obtain ⟨hzero, hle, hlt, hserved⟩ := h.opened (by simp)
  exact {
    closed := by simp
    opened := fun _ => ⟨hzero, hle, hlt, hserved.update
      (fun ticket hr => by
        have ha := h.front_role
        rw [hr] at ha
        exact Int.le_of_eq ha.symm)
      (by simp)⟩
    front_iff := by
      intro s
      rw [Function.update_apply]
      split
      · next he => simp [he, AtFront]
      · exact h.front_iff s
    late_length := h.late_length
    late := h.late.update h.front_not_late (by simp) }

theorem Batch.alone (s : Fin n) : Function.update roles t none s ≠ some .holds ∧
    Function.update roles t none s ≠ some (.waits .called) := by
  rw [Function.update_apply]
  split
  · simp
  · next hst =>
    constructor
    · intro hr
      exact hst (Option.some.inj (h.front_of (.inl hr))).symm
    · intro hr
      exact hst (Option.some.inj (h.front_of (.inr hr))).symm

variable (ht : roles t = some .holds)
include ht

theorem Batch.ticket_ne (s : Fin n) (hs : roles s = some (.waits (.served ticket))) :
    ticket.toInt ≠ cur := by
  intro he
  have hst : some t = some s := (h.front_iff s).mpr (by rw [hs]; exact he)
  cases hst
  cases ht.symm.trans hs

theorem Batch.closeBatch (hlast : cur = 0 ∨ cur = nxt) :
    Batch batch (batch + 1) (if nxt = cur then 0 else nxt) (Function.update roles t none) none
      late := by
  obtain ⟨hzero, hle, hlt, hserved⟩ := h.opened (by simp)
  have hlength := h.late_length
  have hlone := h.alone
  have hnone : ∀ s ticket, Function.update roles t none s ≠ some (.waits (.served ticket)) := by
    intro s ticket
    rw [Function.update_apply]
    split
    · simp
    · intro hs
      have := hserved.range s ticket hs
      have := h.ticket_ne ht s hs
      omega
  exact {
    closed := by
      refine fun _ => ⟨rfl, ?_, hnone⟩
      split <;> omega
    opened := by simp
    front_iff := by
      intro s
      refine ⟨by simp, fun ha => ?_⟩
      obtain hr | hr | ⟨ticket, hr, -⟩ := ha.cases
      · exact absurd hr (hlone s).1
      · exact absurd hr (hlone s).2
      · exact absurd hr (hnone s ticket)
    late_length := by split <;> omega
    late := h.late.update h.front_not_late (by simp) }

theorem Batch.pass (hpos : 0 < cur) (hlast : cur ≠ nxt) :
    ∃ s ticket, roles s = some (.waits (.served ticket)) ∧
      Batch batch (cur - 1) nxt (Function.update roles t none) (some s) late := by
  obtain ⟨hzero, hle, hlt, hserved⟩ := h.opened (by simp)
  obtain ⟨s, ticket, hs, hticket⟩ := hserved.exists_of_lt (cur - 1) (by omega) (by omega) (by omega)
  have hst : s ≠ t := by
    rintro rfl
    cases ht.symm.trans hs
  have hserved' : Served cur nxt (Function.update roles t none) :=
    hserved.update (fun ticket hr => by cases ht.symm.trans hr) (by simp)
  have hne : ∀ r ticket, Function.update roles t none r = some (.waits (.served ticket)) →
      ticket.toInt ≠ cur := by
    intro r ticket hr
    rw [Function.update_apply] at hr
    split at hr
    · cases hr
    · exact h.ticket_ne ht r hr
  refine ⟨s, ticket, hs, ?_⟩
  exact {
    closed := by simp
    opened := fun _ => ⟨by omega, by omega, by omega, hserved'.pass hne⟩
    front_iff := by
      intro r
      constructor
      · intro hr
        cases hr
        rw [Function.update_of_ne hst, hs]
        exact hticket
      · intro ha
        obtain hr | hr | ⟨ticket', hr, hcur⟩ := ha.cases
        · exact absurd hr (h.alone r).1
        · exact absurd hr (h.alone r).2
        · obtain rfl : ticket' = ticket := Int32.toInt_inj.mp (hcur.trans hticket.symm)
          rw [← Function.update_of_ne hst (none : Option Role) roles] at hs
          exact congrArg some (hserved'.inj s r ticket' hs hr)
    late_length := h.late_length
    late := h.late.update h.front_not_late (by simp) }

end Front

end SpinLocks.ClusterTicket
