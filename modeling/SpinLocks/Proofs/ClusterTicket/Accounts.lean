import SpinLocks.Proofs.ClusterTicket.Standing
import SpinLocks.Proofs.Members

namespace SpinLocks.ClusterTicket

open Usage

variable {n : Nat}

def counted (f : Own → Nat) (seat : Seat Own Wait) : Nat :=
  seat.own?.elim 0 f

def count (f : Own → Nat) (u : Threads n) : Nat :=
  u.total (counted f)

def waiting (u : Threads n) : Nat :=
  u.total fun seat => seat.waits.toNat

def Standing.passed (batch : Int) : Standing → Int
  | ⟨.holds, cur⟩ => batch - cur + 1
  | ⟨.waits _, cur⟩ => batch - cur

/-- The batch whose global ticket is called has served so many threads. -/
structure Serves (u : Threads n) (q : Order n) (batch served : Nat) : Prop where
  batch_eq : u.shared.batch.toInt = batch
  tallied : Tallied u q
  nil : q.line = [] → served = 0
  first : ∀ c st, q.line.head? = some c → standing u q c = some st →
    (served : Int) = st.passed batch

/-- What the lock was taken for. -/
structure Account where
  tried : Nat
  full : Nat
  early : Nat
  /-- Threads that were served by batches that were closed early. -/
  spent : Nat
  /-- Threads that were served by the batch whose global ticket is called. -/
  served : Nat

namespace Account

def takings (a : Account) (batch : Nat) : Nat :=
  a.tried + (batch + 1) * a.full + a.spent + a.served

def calls (a : Account) : Nat :=
  a.tried + a.full + a.early + min a.served 1

end Account

/-- The counters of the threads agree with the account. -/
structure Agrees (u : Threads n) (batch : Nat) (a : Account) : Prop where
  acquires_eq : count Own.acquires u = a.takings batch + waiting u
  globalAcquires_eq : count Own.globalAcquires u = a.calls
  earlyCloses_eq : count Own.earlyCloses u = a.early
  early_le : a.early ≤ a.spent
  spent_le : a.spent ≤ batch * a.early

def Balanced (u : Threads n) (q : Order n) (batch : Nat) (a : Account) : Prop :=
  Serves u q batch a.served ∧ Agrees u batch a

variable {u u' : Threads n} {q q' : Order n} {s t : Fin n} {own own' : Own} {shared : Shared}
  {seat : Seat Own Wait} {holds : Bool} {point : Wait} {c : Nat} {batch served : Nat}
  {a a' : Account}
  {answer : Answer Reply}

section Serves

variable (h : Serves u q batch served)
include h

theorem Serves.congr (hbatch : u'.shared.batch = u.shared.batch) (hline : q'.line = q.line)
    (hst : standing u' q' = standing u q) : Serves u' q' batch served where
  batch_eq := hbatch ▸ h.batch_eq
  tallied := h.tallied.congr hbatch hst
  nil := hline ▸ h.nil
  first := by
    rw [hline, hst]
    exact h.first

theorem Serves.openBatch (ho : Ordered u q) (hs : u.seat t = .waiting own .closed)
    (hfront : q.front own.cluster = none)
    (h' : Tallied (u.put t (u.shared.openBatch own.cluster)
      (.waiting (own.draw u.shared.global) .called) false) (q.enqueue own.cluster t)) :
    Serves (u.put t (u.shared.openBatch own.cluster) (.waiting (own.draw u.shared.global) .called)
      false) (q.enqueue own.cluster t) batch served where
  batch_eq := (congrArg Int32.toInt batch_openBatch).trans h.batch_eq
  tallied := h'
  nil := by simp [Order.line_enqueue]
  first := by
    intro c st hhead hc
    rw [ho.standing_openBatch hs, Function.update_apply] at hc
    rw [Order.line_enqueue] at hhead
    cases hl : q.line with
    | nil =>
      rw [hl, List.nil_append, List.head?_cons, Option.some.injEq] at hhead
      rw [if_pos hhead.symm] at hc
      cases hc
      rw [h.nil hl, h.batch_eq]
      exact (Int.sub_self _).symm
    | cons d rest =>
      have hd := (ho.mem_line d).mp (hl ▸ List.mem_cons_self)
      have hne : d ≠ own.cluster := by
        rintro rfl
        exact hd.2 hfront
      rw [hl, List.cons_append, List.head?_cons, Option.some.injEq] at hhead
      subst hhead
      rw [if_neg hne] at hc
      exact h.first d st (by rw [hl]; rfl) hc

theorem Serves.grant (ho : Ordered u q) (hs : u.seat t = .waiting own point)
    (hfront : q.front own.cluster = some t) (hl : q.Leads own.cluster)
    (h' : Tallied (u.put t u.shared (.idle (own.granted point)) true) q) :
    Serves (u.put t u.shared (.idle (own.granted point)) true) q batch (served + 1) ∧
      (point = .called ∧ served = 0 ∨ point ≠ .called ∧ 0 < served) := by
  have hst := standing_waiting hs hfront
  have hfirst := h.first _ _ hl.2 hst
  have htally := h.tallied _ _ hst
  have hbatch := h.batch_eq
  simp only [Standing.passed] at hfirst
  refine ⟨⟨h.batch_eq, h', ?_, ?_⟩, ?_⟩
  · intro hnil
    obtain ⟨rest, hline⟩ := hl.exists_line
    cases hnil.symm.trans hline
  · intro c st hhead hc
    cases hl.2.symm.trans hhead
    rw [ho.standing_grant hs hfront, Function.update_self] at hc
    cases hc
    simp only [Standing.passed]
    omega
  · cases point with
    | called =>
      have hcur : u.shared.cur own.cluster = u.shared.batch.toInt := htally
      exact .inl ⟨rfl, by omega⟩
    | served ticket =>
      have hcur : u.shared.cur own.cluster < u.shared.batch.toInt := htally
      exact .inr ⟨by simp, by omega⟩
    | closed | opened => exact htally.elim

end Serves

theorem Ordered.standing_called (h : Ordered u q) {st : Standing} (hc : c ∈ q.line)
    (hl : ¬ q.Leads c) (hst : standing u q c = some st) : st.role = .waits .called := by
  obtain ⟨s, hfront, hmap⟩ := Option.bind_eq_some_iff.mp hst
  obtain ⟨r, hr, rfl⟩ := Option.map_eq_some_iff.mp hmap
  by_contra hne
  refine hl (h.leading c ((h.mem_line c).mp hc).1 s hfront ?_)
  rw [hr]
  exact fun he => hne (Option.some.inj he)

section Holder

variable (h : Serves u q batch served) (ho : Ordered u q) (hs : u.seat t = .idle own)
  (hh : u.holds t = true) (hv : own.viaTry = false)
include h ho hs hh hv

theorem Serves.holder : (served : Int) = batch - u.shared.cur own.cluster + 1 ∧
    0 ≤ u.shared.cur own.cluster ∧ u.shared.cur own.cluster ≤ batch := by
  obtain ⟨hfront, hl⟩ := ho.holder_leads hs hh hv
  have hst := ho.standing_holder hs hh hv
  obtain ⟨hpos, hle, -⟩ := (ho.batched _ (ho.cluster_lt t own (own?_of_idle hs))).opened
    (by simp [hfront])
  exact ⟨h.first _ _ hl.2 hst, hpos, h.batch_eq ▸ hle⟩

theorem Serves.pass (hpos : 0 < u.shared.cur own.cluster)
    (h' : Ordered (u.put t (u.shared.pass own.cluster) (.idle own) false)
      (q.setFront own.cluster (some s)))
    (htallied : Tallied (u.put t (u.shared.pass own.cluster) (.idle own) false)
      (q.setFront own.cluster (some s))) :
    Serves (u.put t (u.shared.pass own.cluster) (.idle own) false)
      (q.setFront own.cluster (some s)) batch served where
  batch_eq := h.batch_eq
  tallied := htallied
  nil := h.nil
  first := by
    intro c st hhead hc
    obtain ⟨ticket, hst⟩ := ho.standing_pass hs hh hv hpos h'
    have hserved := (h.holder ho hs hh hv).1
    cases (ho.holder_leads hs hh hv).2.2.symm.trans hhead
    rw [hst, Function.update_self] at hc
    cases hc
    simp only [Standing.passed]
    omega

theorem Serves.close {closed : Own} (hc' : closed.cluster = own.cluster)
    (htallied : Tallied (u.put t
      (u.shared.closeBatch own.cluster (u.shared.rest own.cluster)) (.idle closed) false)
      (q.dequeue own.cluster)) :
    Serves (u.put t (u.shared.closeBatch own.cluster (u.shared.rest own.cluster)) (.idle closed)
      false) (q.dequeue own.cluster) batch 0 where
  batch_eq := (congrArg Int32.toInt (batch_closeBatch _)).trans h.batch_eq
  tallied := htallied
  nil _ := rfl
  first := by
    intro c st hhead hc
    obtain ⟨-, hl⟩ := ho.holder_leads hs hh hv
    obtain ⟨rest, hline⟩ := hl.exists_line
    have hnodup := ho.line_nodup
    rw [hline, List.nodup_cons] at hnodup
    have hm : c ∈ rest := by
      rw [Order.line_dequeue, hline] at hhead
      exact List.mem_of_head? hhead
    have hne : c ≠ own.cluster := by
      rintro rfl
      exact hnodup.1 hm
    rw [standing_close hs closed hc', Function.update_of_ne hne] at hc
    have hrole := ho.standing_called (hline ▸ List.mem_cons_of_mem _ hm)
      (fun hl' => hne (hl'.unique hl)) hc
    have htally := h.tallied c st hc
    obtain ⟨role, cur⟩ := st
    obtain rfl : role = .waits .called := hrole
    have hcur : cur = u.shared.batch.toInt := htally
    rw [hcur, h.batch_eq]
    exact (Int.sub_self _).symm

end Holder

@[simp]
theorem counted_vacant (f : Own → Nat) : counted f .vacant = 0 := rfl

@[simp]
theorem counted_idle (f : Own → Nat) (own : Own) : counted f (.idle own) = f own := rfl

@[simp]
theorem counted_waiting (f : Own → Nat) (own : Own) (point : Wait) :
    counted f (.waiting own point) = f own := rfl

theorem Agrees.put (h : Agrees u batch a) (shared : Shared) (seat : Seat Own Wait) (holds : Bool)
    (hacquires : counted Own.acquires seat + (u.seat t).waits.toNat + a.takings batch =
      counted Own.acquires (u.seat t) + seat.waits.toNat + a'.takings batch)
    (hglobal : counted Own.globalAcquires seat + a.calls =
      counted Own.globalAcquires (u.seat t) + a'.calls)
    (hearly : counted Own.earlyCloses seat + a.early =
      counted Own.earlyCloses (u.seat t) + a'.early)
    (hle : a'.early ≤ a'.spent) (hspent : a'.spent ≤ batch * a'.early) :
    Agrees (u.put t shared seat holds) batch a' where
  acquires_eq := by
    have hcount : count Own.acquires (u.put t shared seat holds) + _ = _ := total_put ..
    have hwaiting : waiting (u.put t shared seat holds) + _ = _ := total_put ..
    have heq := h.acquires_eq
    unfold count waiting at *
    omega
  globalAcquires_eq := by
    have hcount : count Own.globalAcquires (u.put t shared seat holds) + _ = _ := total_put ..
    have heq := h.globalAcquires_eq
    unfold count at *
    omega
  earlyCloses_eq := by
    have hcount : count Own.earlyCloses (u.put t shared seat holds) + _ = _ := total_put ..
    have heq := h.earlyCloses_eq
    unfold count at *
    omega
  early_le := hle
  spent_le := hspent

theorem Balanced.advance (h : Balanced u q batch a) (ho : Ordered u q)
    (ha : Advance t (u, q) (u', q')) :
    ∃ served, Balanced u' q' batch { a with served } := by
  obtain ⟨hserves, hagrees⟩ := h
  have htallied := hserves.tallied.advance ho ha
  cases ha with
  | @ask _ _ _ _ own _ _ late ha _ hu hq _ =>
    subst hu hq
    refine ⟨a.served, hserves.congr rfl rfl (ho.standing_lower (ho.draws ha) late), ?_⟩
    obtain ⟨-, ⟨hs, rfl⟩ | ⟨hs, rfl⟩⟩ := ha
    · refine hagrees.put _ _ _ ?_ ?_ ?_ hagrees.early_le hagrees.spent_le <;> simp [hs, Seat.waits]
    · refine hagrees.put _ _ _ ?_ ?_ ?_ hagrees.early_le hagrees.spent_le <;> simp [hs, Seat.waits]
  | @openBatch _ _ _ _ own hs hfront hu hq _ =>
    subst hu hq
    refine ⟨a.served, hserves.openBatch ho hs hfront htallied, ?_⟩
    refine hagrees.put _ _ _ ?_ ?_ ?_ hagrees.early_le hagrees.spent_le <;>
      simp [hs, Seat.waits, Own.draw]
  | @grant _ _ _ own point hs hfront hl hu _ =>
    subst hu
    obtain ⟨hserves', hpoint⟩ := hserves.grant ho hs hfront hl htallied
    refine ⟨a.served + 1, hserves', ?_⟩
    have hacquires : (own.granted point).acquires = own.acquires := by cases point <;> rfl
    have hearly : (own.granted point).earlyCloses = own.earlyCloses := by cases point <;> rfl
    refine hagrees.put _ _ _ ?_ ?_ ?_ hagrees.early_le hagrees.spent_le <;>
      simp only [hs, counted_idle, counted_waiting, Seat.waits, hacquires, hearly,
        Account.takings, Account.calls, Bool.toNat_true, Bool.toNat_false]
    · omega
    · obtain ⟨rfl, hzero⟩ | ⟨hne, hpos⟩ := hpoint
      · show own.globalAcquires + 1 + _ = _
        omega
      · have hglobal : (own.granted point).globalAcquires = own.globalAcquires := by
          cases point <;> first | rfl | exact absurd rfl hne
        omega

/-- A batch is closed when it is used up, or early. -/
theorem Balanced.close (h : Balanced u q batch a) (ho : Ordered u q) (hs : u.seat t = .idle own)
    (hh : u.holds t = true) (hv : own.viaTry = false)
    (htallied : Tallied (u.put t
      (u.shared.closeBatch own.cluster (u.shared.rest own.cluster))
      (.idle (own.closed (u.shared.cur own.cluster ≠ 0))) false) (q.dequeue own.cluster)) :
    ∃ a', Balanced (u.put t (u.shared.closeBatch own.cluster (u.shared.rest own.cluster))
      (.idle (own.closed (u.shared.cur own.cluster ≠ 0))) false) (q.dequeue own.cluster) batch a' ∧
      a'.tried = a.tried := by
  obtain ⟨hserves, hagrees⟩ := h
  obtain ⟨hserved, hle, hge⟩ := hserves.holder ho hs hh hv
  have hc' : (own.closed (u.shared.cur own.cluster ≠ 0)).cluster = own.cluster := rfl
  have hserves' := hserves.close ho hs hh hv hc' htallied
  have hspent := hagrees.spent_le
  have hearly := hagrees.early_le
  by_cases hzero : u.shared.cur own.cluster = 0
  · refine ⟨{ a with full := a.full + 1, served := 0 }, ⟨hserves', ?_⟩, rfl⟩
    refine hagrees.put _ _ _ ?_ ?_ ?_ hearly hspent <;>
      simp only [hs, hzero, counted_idle, Own.closed, Seat.waits, Account.takings, Account.calls,
        Nat.mul_succ]
    · omega
    · omega
    · simp
  · have hmul : batch * (a.early + 1) = batch * a.early + batch := Nat.mul_succ ..
    refine ⟨{ a with early := a.early + 1, spent := a.spent + a.served, served := 0 },
      ⟨hserves', ?_⟩, rfl⟩
    refine hagrees.put _ _ _ ?_ ?_ ?_ (show a.early + 1 ≤ a.spent + a.served by omega)
      (show a.spent + a.served ≤ batch * (a.early + 1) by omega) <;>
      simp only [hs, counted_idle, Own.closed, Seat.waits, Account.takings, Account.calls]
    · omega
    · omega
    · simp [hzero]
      omega

theorem Balanced.change (h : Balanced u q batch a) (ho : Ordered u q)
    (hc : Change t (u, q) answer (u', q')) (hleft : answer ≠ .left) :
    ∃ a', Balanced u' q' batch a' ∧
      a'.tried = a.tried + (if answer = .done (.took true) then 1 else 0) := by
  obtain ⟨hserves, hagrees⟩ := id h
  have htallied := hserves.tallied.change ho hc
  cases hc with
  | advance ha _ htook =>
    have hinv := ha.induction (P := fun u q => ∃ served, Balanced u q batch { a with served })
      (fun _ _ _ _ ho ⟨_, h⟩ ha => h.advance ho ha) ho ⟨a.served, h⟩
    obtain ⟨served, hserved⟩ := hinv
    exact ⟨_, hserved, by rw [if_neg htook]; rfl⟩
  | join hs hown hu _ =>
    subst hu
    obtain ⟨hacquires, hglobal, hearly⟩ := hown
    refine ⟨a, ⟨hserves.congr rfl rfl (standing_join hs), ?_⟩, rfl⟩
    refine hagrees.put _ _ _ ?_ ?_ ?_ hagrees.early_le hagrees.spent_le <;>
      simp [hs, Seat.waits, hacquires, hglobal, hearly]
  | leave => exact absurd rfl hleft
  | @attempt _ _ _ _ own hs hf hfree hu hq _ =>
    subst hu hq
    refine ⟨{ a with tried := a.tried + 1 },
      ⟨hserves.congr (batch_setGlobal _) rfl (standing_attempt hs hf _ _ _), ?_⟩, rfl⟩
    refine hagrees.put _ _ _ ?_ ?_ ?_ hagrees.early_le hagrees.spent_le <;>
      simp only [hs, counted_idle, Own.attempted, Seat.waits, Account.takings, Account.calls] <;>
      omega
  | letGo hs hv hu hq _ =>
    subst hu hq
    refine ⟨a, ⟨hserves.congr (batch_setGlobal _) rfl (standing_letGo hs hv _ _), ?_⟩, rfl⟩
    refine hagrees.put _ _ _ ?_ ?_ ?_ hagrees.early_le hagrees.spent_le <;> simp [hs, Seat.waits]
  | close hs hh hv hu hq _ =>
    subst hu hq
    obtain ⟨a', h', htried⟩ := h.close ho hs hh hv htallied
    exact ⟨a', h', htried⟩
  | pass hs hh hv hpos hu hq h' =>
    subst hu hq
    refine ⟨a, ⟨hserves.pass ho hs hh hv hpos h' htallied, ?_⟩, rfl⟩
    refine hagrees.put _ _ _ ?_ ?_ ?_ hagrees.early_le hagrees.spent_le <;> simp [hs, Seat.waits]

/-- The account goes on as long as no thread takes its counters with it. -/
theorem Balanced.run (h : Balanced u q batch a) (ho : Ordered u q) (hn : n < 0x80000000)
    {schedule : Schedule n} (hp : u.Proper clusterTicket schedule)
    (hleft : .left ∉ (u.run clusterTicket schedule).2) :
    ∃ q' a', Ordered (u.run clusterTicket schedule).1 q' ∧
      Balanced (u.run clusterTicket schedule).1 q' batch a' ∧
      a'.tried = a.tried + (u.run clusterTicket schedule).2.count (.done (.took true)) := by
  induction schedule generalizing u q a with
  | nil => exact ⟨q, a, ho, h, rfl⟩
  | cons step rest ih =>
    obtain ⟨t, action⟩ := step
    obtain ⟨hfirst, hrest⟩ := not_or.mp (mt List.mem_cons.mpr hleft)
    obtain ⟨-, q₁, hc⟩ := ho.changes hn hp.1
    obtain ⟨a₁, h₁, htried⟩ := h.change ho hc (Ne.symm hfirst)
    obtain ⟨q', a', ho', h', htried'⟩ := ih h₁ (ho.change hc) hp.2 hrest
    refine ⟨q', a', ho', h', ?_⟩
    rw [htried', htried, Nat.add_assoc, Usage.run, List.count_cons, Nat.add_comm (ite _ _ _)]
    simp only [beq_iff_eq]

variable {config : Config}

theorem count_opening (f : Own → Nat) (config : Config) (n : Nat) :
    count f (opening clusterTicket config n) = 0 :=
  total_eq_zero fun t => by rw [seat_opening, counted_vacant]

theorem waiting_eq_zero (h : ∀ t, ¬ u.Engaged t) : waiting u = 0 := by
  refine total_eq_zero fun t => ?_
  have hw : u.waits t = false := Bool.eq_false_iff.mpr fun hw => h t (.inr hw)
  rw [← Usage.waits, hw]
  rfl

theorem balanced_opening (hv : config.Valid) (n : Nat) :
    Balanced (opening clusterTicket config n) (.empty n) config.batchSize ⟨0, 0, 0, 0, 0⟩ := by
  have hwaiting : waiting (opening clusterTicket config n) = 0 :=
    waiting_eq_zero (not_engaged_opening clusterTicket config n)
  refine ⟨⟨toInt_batch_create hv, tallied_opening config n, fun _ => rfl, ?_⟩,
    ⟨?_, ?_, ?_, ?_, ?_⟩⟩
  · intro c st hhead
    cases hhead
  · rw [count_opening, hwaiting]
    rfl
  · rw [count_opening]
    rfl
  · rw [count_opening]
  · exact Nat.le_refl 0
  · exact Nat.zero_le _

theorem Ordered.line_eq_nil (ho : Ordered u q) (hidle : ∀ t, ¬ u.Engaged t) : q.line = [] := by
  refine List.eq_nil_iff_forall_not_mem.mpr fun c hc => ?_
  obtain ⟨hlt, hne⟩ := (ho.mem_line c).mp hc
  obtain ⟨s, hs⟩ := Option.ne_none_iff_exists'.mp hne
  obtain hr | hr | ⟨ticket, hr, -⟩ := (((ho.batched c hlt).front_iff s).mp hs).cases
  · obtain ⟨own, -, hh, -⟩ := role_eq_holds.mp hr
    exact hidle s (.inl hh)
  · obtain ⟨own, hs, -⟩ := role_eq_waits.mp hr
    exact hidle s (.inr (waits_iff.mpr ⟨own, .called, hs⟩))
  · obtain ⟨own, hs, -⟩ := role_eq_waits.mp hr
    exact hidle s (.inr (waits_iff.mpr ⟨own, .served ticket, hs⟩))

/-- The acquisitions, the tickets of the global lock and the batches that were closed early, where
`tried` acquisitions were single attempts. -/
theorem batch_accounts_run {schedule : Schedule n} (hn : n < 0x80000000) (hv : config.Valid)
    (hp : (opening clusterTicket config n).Proper clusterTicket schedule)
    (hleft : .left ∉ ((opening clusterTicket config n).run clusterTicket schedule).2)
    (hidle : ∀ t, ¬ ((opening clusterTicket config n).run clusterTicket schedule).1.Engaged t) :
    let last := (opening clusterTicket config n).run clusterTicket schedule
    let acquires := count Own.acquires last.1
    let globalAcquires := count Own.globalAcquires last.1
    let earlyCloses := count Own.earlyCloses last.1
    let tried := last.2.count (.done (.took true))
    let batch := config.batchSize
    earlyCloses + tried ≤ globalAcquires ∧
      (batch + 1) * (globalAcquires - earlyCloses - tried) + earlyCloses + tried ≤ acquires ∧
      acquires ≤
        (batch + 1) * (globalAcquires - earlyCloses - tried) + batch * earlyCloses + tried ∧
      (tried = 0 → acquires ≤ (batch + 1) * globalAcquires ∧
        globalAcquires ≤ acquires / (batch + 1) + earlyCloses) := by
  intro last acquires globalAcquires earlyCloses tried batch
  obtain ⟨q, a, ho, h, htried⟩ :=
    (balanced_opening hv n).run (ordered_opening hv n) hn hp hleft
  have hserved := h.1.nil (ho.line_eq_nil hidle)
  have htried : a.tried = tried := htried.trans (Nat.zero_add _)
  have hacquires :
      acquires = a.tried + (batch + 1) * a.full + a.spent + a.served + waiting last.1 :=
    h.2.acquires_eq
  have hglobal : globalAcquires = a.tried + a.full + a.early + min a.served 1 :=
    h.2.globalAcquires_eq
  have hearly : earlyCloses = a.early := h.2.earlyCloses_eq
  have hle := h.2.early_le
  have hspent : a.spent ≤ batch * a.early := h.2.spent_le
  rw [hserved, waiting_eq_zero hidle] at hacquires
  rw [hserved] at hglobal
  have hfull : globalAcquires - earlyCloses - tried = a.full := by omega
  rw [hfull, hearly]
  refine ⟨by omega, by omega, by omega, fun hzero => ⟨?_, ?_⟩⟩
  · have hsum : globalAcquires = a.full + a.early := by omega
    have hsucc : (batch + 1) * a.early = batch * a.early + a.early := Nat.succ_mul ..
    rw [hsum, Nat.mul_add]
    omega
  · have hdiv : a.full ≤ acquires / (batch + 1) := by
      rw [Nat.le_div_iff_mul_le (Nat.add_one_pos batch), Nat.mul_comm]
      omega
    omega

/-- Each cluster closes a batch early, and the first thread takes the lock in a single attempt
later. -/
theorem batch_accounts_attempt :
    let schedule : Schedule 2 :=
      [(0, .join ⟨.pair, 0⟩), (1, .join ⟨.pair, 1⟩), (0, .start .acquire), (1, .start .acquire),
        (0, .start .release), (1, .resume), (1, .start .release), (0, .start .tryAcquire),
        (0, .start .release)]
    let last := (opening clusterTicket .pair 2).run clusterTicket schedule
    2 < 0x80000000 ∧ Config.pair.Valid ∧
      (opening clusterTicket .pair 2).Proper clusterTicket schedule ∧ .left ∉ last.2 ∧
      (∀ t, ¬ last.1.Engaged t) ∧
      count Own.earlyCloses last.1 + last.2.count (.done (.took true)) ≤
        count Own.globalAcquires last.1 := by
  intro schedule last
  have hp : (opening clusterTicket .pair 2).Proper clusterTicket schedule := by decide
  have hleft : .left ∉ last.2 := by decide
  have hidle : ∀ t, ¬ last.1.Engaged t := by decide
  exact ⟨by decide, Config.valid_pair, hp, hleft, hidle,
    (batch_accounts_run (by decide) Config.valid_pair hp hleft hidle).1⟩

end SpinLocks.ClusterTicket
