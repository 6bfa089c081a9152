import SpinLocks.Proofs.Hclh.Runs

namespace SpinLocks.Hclh

open Shared Usage

variable {n : Nat}

/-- The queue of the cluster of each thread in the line ends at the node of this thread, or of one
behind it. -/
def Tailed (cluster : Fin n → Option UInt8) (node : Fin n → Link) (tail : UInt8 → Link)
    (line : List (Fin n)) : Prop :=
  ∀ t rest c, t :: rest <:+ line → cluster t = some c → ∃ s ∈ t :: rest, node s = tail c

namespace Tailed

variable {cluster cluster' : Fin n → Option UInt8} {node node' : Fin n → Link}
  {tail tail' : UInt8 → Link} {line rest : List (Fin n)} {t : Fin n} {c : UInt8}

theorem congr (h : Tailed cluster node tail line)
    (hs : ∀ s ∈ line, cluster' s = cluster s ∧ node' s = node s) (ht : ∀ c, tail' c = tail c) :
    Tailed cluster' node' tail' line := by
  intro t rest c hsuffix hc
  have hmem : ∀ s ∈ t :: rest, s ∈ line := fun s hm => hsuffix.mem hm
  rw [(hs t (hmem t List.mem_cons_self)).1] at hc
  obtain ⟨s, hm, he⟩ := h t rest c hsuffix hc
  exact ⟨s, hm, by rw [(hs s (hmem s hm)).2, he, ht]⟩

theorem of_cons (h : Tailed cluster node tail (t :: line)) : Tailed cluster node tail line :=
  fun s rest c hsuffix => h s rest c (hsuffix.trans (List.suffix_cons t line))

theorem concat (h : Tailed cluster node tail line) (hc : cluster t = some c)
    (ht : ∀ d, tail' d = if d = c then node t else tail d) :
    Tailed cluster node tail' (line ++ [t]) := by
  intro s rest d hsuffix hd
  obtain he | ⟨l, he, hl⟩ := List.suffix_concat_iff.mp hsuffix
  · cases he
  by_cases hdc : d = c
  · exact ⟨t, by simp [he], by rw [ht, if_pos hdc]⟩
  cases l with
  | nil =>
    cases he
    exact absurd (Option.some.inj (hd.symm.trans hc)) hdc
  | cons a l =>
    obtain ⟨rfl, rfl⟩ := List.cons.inj he
    obtain ⟨r, hm, hr⟩ := h s l d hl hd
    exact ⟨r, List.mem_append_left [t] hm, by rw [hr, ht, if_neg hdc]⟩

end Tailed

def clusterOf (u : Threads n) (t : Fin n) : Option UInt8 :=
  (u.own? t).map Own.cluster

theorem clusterOf_put (u : Threads n) (t : Fin n) (shared : Shared) (seat : Seat Own Wait)
    (holds : Bool) (s : Fin n) :
    clusterOf (u.put t shared seat holds) s =
      if s = t then seat.own?.map Own.cluster else clusterOf u s := by
  simp only [clusterOf, Usage.own?_put, apply_ite (Option.map Own.cluster)]

/-- Nobody waits apart, and nobody will. -/
structure Spliced (u : Threads n) (q : Order n) : Prop extends Queued u q where
  none_apart : ∀ c, q.apart c = []
  tail_foreign : ∀ c k, u.shared.tail c = some k → ¬ u.shared.Local c k
  line_tailed : Tailed (clusterOf u) (node u) u.shared.tail q.line

/-- Whether the thread joins with the node at which the queue of its cluster ends. -/
def Recycles (u : Threads n) (t : Fin n) (action : Action Entry Command) : Prop :=
  ∃ entry own, action = .join entry ∧ u.seat t = .vacant ∧ (join entry u.shared).2 = .ok own ∧
    u.shared.tail own.cluster = own.node

variable {u : Threads n} {q : Order n} {t : Fin n} {own : Own} {point : Wait} {k : Nat}
  {line : List (Fin n)} {command : Command}

theorem tailed_put (h : Tailed (clusterOf u) (node u) u.shared.tail line) (ht : t ∉ line)
    (shared : Shared) (hs : ∀ c, shared.tail c = u.shared.tail c) (seat : Seat Own Wait)
    (holds : Bool) :
    Tailed (clusterOf (u.put t shared seat holds)) (node (u.put t shared seat holds)) shared.tail
      line :=
  h.congr (fun s hm => by
    have hst : s ≠ t := fun he => ht (he ▸ hm)
    simp [clusterOf_put, node_put, hst]) hs

theorem Queued.exists_of_recycles (h : Queued u q) {action : Action Entry Command}
    (hr : Recycles u t action) :
    ∃ k c, k < u.shared.nodes.size ∧ u.shared.nodes.isClaimed k = false ∧
      u.shared.tail c = some k ∧
      u.step hclh t action =
        (u.put t (u.shared.claim c k) (.idle ⟨some k, none, c⟩) false, .joined) := by
  obtain ⟨entry, own, rfl, hs, hjoin, htail⟩ := hr
  obtain ⟨hnone, -⟩ | ⟨k, c, hk, hfree, -, hj, he, -⟩ := h.join_cases entry hs
  · simp only [Hclh.join, hnone, lackOfCapacity] at hjoin
    split at hjoin <;> cases hjoin
  · cases hj.symm.trans hjoin
    exact ⟨k, c, hk, hfree, htail, he⟩

theorem Spliced.mem_line (h : Spliced u q) (he : u.Engaged t) : t ∈ q.line := by
  obtain hm | ⟨c, hm⟩ := (h.engaged_iff t).mp he
  · exact hm
  · simp [h.none_apart c] at hm

theorem Spliced.resume (h : Spliced u q) (hs : u.seat t = .waiting own point) :
    u.step hclh t .resume =
        (if q.line.head? = some t then
          (u.put t u.shared (.idle { own with pred := some q.gate }) true, .done .done)
        else (u, .waiting)) ∧
      Spliced (u.step hclh t .resume).1 q := by
  have ho := own?_of_waiting hs
  have hn := node_of_own? ho
  have hcluster : clusterOf u t = some own.cluster := by simp [clusterOf, ho]
  rw [h.resume_line hs (h.mem_line (.inr (waits_iff.mpr ⟨own, point, hs⟩)))]
  refine ⟨rfl, ?_⟩
  split
  · next hf =>
    refine { h.grant hs hf with
      none_apart := h.none_apart
      tail_foreign := h.tail_foreign
      line_tailed := h.line_tailed.congr (fun s _ => ?_) fun _ => rfl }
    rw [clusterOf_put, node_put]
    by_cases hst : s = t <;> simp [hst, Seat.own?, hn, hcluster]
  · exact h

theorem Spliced.line_acquire (h : Spliced u q) (c : UInt8) (t : Fin n) (k : Nat) :
    ((q.enqueue c t).splice c k).line = q.line ++ [t] := by
  simp [Order.apart_enqueue, h.none_apart]

theorem Spliced.put_acquire (h : Spliced u q) (hs : u.seat t = .idle own)
    (hf : u.holds t = false) (hk : own.node = some k) {seat : Seat Own Wait} {holds : Bool}
    (hc : seat.own?.map Own.cluster = some own.cluster)
    (hn : seat.own?.bind Own.node = own.node)
    (h' : Queued (u.put t ((u.shared.enqueue own.cluster own.node).spliceTo k) seat holds)
      ((q.enqueue own.cluster t).splice own.cluster k)) :
    Spliced (u.put t ((u.shared.enqueue own.cluster own.node).spliceTo k) seat holds)
      ((q.enqueue own.cluster t).splice own.cluster k) := by
  have hlt := h.cluster_lt t own (own?_of_idle hs)
  have hout := (h.not_mem (t := t) (by simp [Engaged, hf, waits, hs, Seat.waits])).1
  refine { h' with
    none_apart := fun c => by simp [Order.apart_splice, Order.apart_enqueue, h.none_apart]
    tail_foreign := ?_
    line_tailed := ?_ }
  · intro c j hj hl
    obtain ⟨hjk, hl⟩ := local_spliceTo.mp hl
    have hj : (u.shared.enqueue own.cluster own.node).tail c = some j := hj
    rw [tail_enqueue hlt] at hj
    split at hj
    · exact hjk (Option.some.inj (hj.symm.trans hk))
    · exact h.tail_foreign c j hj hl
  · rw [h.line_acquire]
    have htailed := tailed_put h.line_tailed hout u.shared (fun _ => rfl) seat holds
    refine htailed.concat (c := own.cluster) ?_ fun d => ?_
    · rw [clusterOf_put, if_pos rfl, hc]
    · rw [node_put, if_pos rfl, hn]
      exact tail_enqueue hlt own.node d

theorem Spliced.acquire (h : Spliced u q) (hs : u.seat t = .idle own) (hf : u.holds t = false)
    (hc : command.asks = true) (hk : own.node = some k) :
    u.step hclh t (.start command) =
        (if q.line = [] then
          (u.put t ((u.shared.enqueue own.cluster own.node).spliceTo k)
            (.idle { own with pred := some q.gate }) true, .done .done)
        else
          (u.put t ((u.shared.enqueue own.cluster own.node).spliceTo k)
            (.waiting own (.globalPred u.shared.global)) false, .waiting)) ∧
      Spliced (u.step hclh t (.start command)).1
        ((q.enqueue own.cluster t).splice own.cluster k) := by
  obtain ⟨h', he⟩ := h.acquire_master hs hf hc hk (h.tail_foreign own.cluster)
  refine ⟨he, ?_⟩
  rw [he] at h' ⊢
  by_cases hl : q.line = []
  · rw [if_pos hl] at h' ⊢
    exact h.put_acquire hs hf hk rfl rfl h'
  · rw [if_neg hl] at h' ⊢
    exact h.put_acquire hs hf hk rfl rfl h'

theorem Spliced.release (h : Spliced u q) (hh : u.holds t = true)
    (hc : command.givesBack = true) :
    ∃ own k rest, u.seat t = .idle own ∧ own.node = some k ∧ q.line = t :: rest ∧
      u.step hclh t (.start command) =
        (u.put t (u.shared.pass own.cluster k q.gate) (.idle { own with node := some q.gate }) false,
          .done .done) ∧
      Spliced (u.step hclh t (.start command)).1 (q.pass k) := by
  obtain ⟨own, k, rest, hs, hn, hl, he, h'⟩ := h.toQueued.release hh hc
  refine ⟨own, k, rest, hs, hn, hl, he, ?_⟩
  have ho := own?_of_idle hs
  have hnodup := h.line_nodup
  have htailed := h.line_tailed
  rw [hl] at hnodup htailed
  have hline : (q.pass k).line = rest := congrArg List.tail hl
  rw [he] at h' ⊢
  refine { h' with
    none_apart := h.none_apart
    tail_foreign := ?_
    line_tailed := ?_ }
  · intro c j hj hlocal
    by_cases hg : j = q.gate
    · subst hg
      obtain rfl := (local_pass_pred h.gate_open.lt).mp hlocal
      obtain ⟨s, -, hs'⟩ := htailed t rest own.cluster List.suffix_rfl (by simp [clusterOf, ho])
      exact h.gate_unowned s (hs'.trans hj)
    · exact h.tail_foreign c j hj ((local_pass_of_ne hg).mp hlocal)
  · rw [hline]
    exact tailed_put htailed.of_cons (List.nodup_cons.mp hnodup).1 _ (fun _ => rfl) _ false

theorem Spliced.join_cases (h : Spliced u q) (entry : Entry) (hs : u.seat t = .vacant)
    (hr : ¬ Recycles u t (.join entry)) :
    (u.shared.nodes.claim? = none ∧
        u.step hclh t (.join entry) =
          (u, .failed (.error (.capacity "hclh" u.shared.capacity)))) ∨
      ∃ k cluster, u.shared.nodes.isClaimed k = false ∧
        u.shared.nodes.claim? = some (k, u.shared.nodes.setClaimed k true) ∧
        u.step hclh t (.join entry) =
          (u.put t (u.shared.claim cluster k) (.idle ⟨some k, none, cluster⟩) false, .joined) ∧
        Spliced (u.step hclh t (.join entry)).1 q := by
  obtain hfull | ⟨k, c, hk, hfree, hn, hjoin, he, h'⟩ := h.toQueued.join_cases entry hs
  · exact .inl hfull
  refine .inr ⟨k, c, hfree, hn, he, ?_⟩
  have hout := (h.not_mem (h.not_engaged_of_vacant hs)).1
  rw [he] at h' ⊢
  refine { h' with
    none_apart := h.none_apart
    tail_foreign := ?_
    line_tailed := tailed_put h.line_tailed hout _ (fun _ => rfl) _ false }
  intro d j hj hl
  have hl := (local_claim hk).mp hl
  split at hl
  · next hjk =>
    subst hl hjk
    exact hr ⟨entry, _, rfl, hs, hjoin, hj⟩
  · exact h.tail_foreign d j hj hl

theorem Spliced.leave (h : Spliced u q) (hs : u.seat t = .idle own) (hf : u.holds t = false) :
    ∃ k, own.node = some k ∧
      u.step hclh t .leave = (u.put t (u.shared.unclaim k) .vacant false, .left) ∧
      Spliced (u.step hclh t .leave).1 q := by
  obtain ⟨k, hn, he, h'⟩ := h.toQueued.leave hs hf
  refine ⟨k, hn, he, ?_⟩
  have hout := (h.not_mem (t := t) (by simp [Engaged, hf, waits, hs, Seat.waits])).1
  rw [he] at h' ⊢
  exact { h' with
    none_apart := h.none_apart
    tail_foreign := fun c j hj hl => h.tail_foreign c j hj (local_unclaim.mp hl)
    line_tailed := tailed_put h.line_tailed hout _ (fun _ => rfl) _ false }

theorem Spliced.step (h : Spliced u q) {action : Action Entry Command}
    (hp : u.permits t action = true) (hr : ¬ Recycles u t action) :
    ∃ q', Spliced (u.step hclh t action).1 q' ∧
      (q'.line = q.line ∨ q'.line = q.line ++ [t] ∨ u.holds t = true ∧ q.line = t :: q'.line) := by
  obtain ⟨cause, -, he⟩ | ⟨entry, rfl, hs⟩ | ⟨own, rfl, hs⟩ | ⟨own, command, rfl, hs⟩ |
    ⟨own, point, rfl, hs⟩ := step_cases hclh u t action
  · rw [he]
    exact ⟨q, h, .inl rfl⟩
  · obtain ⟨-, he⟩ | ⟨k, c, -, -, -, h'⟩ := h.join_cases entry hs hr
    · rw [he]
      exact ⟨q, h, .inl rfl⟩
    · exact ⟨q, h', .inl rfl⟩
  · obtain ⟨k, -, -, h'⟩ := h.leave hs (by simpa [permits] using hp)
    exact ⟨q, h', .inl rfl⟩
  · have hholds : command.givesBack = u.holds t := by simpa [permits] using hp
    cases hh : u.holds t with
    | true =>
      obtain ⟨_, k, rest, -, -, hl, -, h'⟩ := h.release hh (hholds.trans hh)
      exact ⟨_, h', .inr (.inr ⟨rfl, by rw [hl, Order.pass, hl]; rfl⟩)⟩
    | false =>
      by_cases hc : command.asks = true
      · obtain ⟨k, hk, -⟩ := h.node_claimed t own (own?_of_idle hs)
        have hn : own.node = some k := (node_of_own? (own?_of_idle hs)).symm.trans hk
        exact ⟨_, (h.acquire hs hh hc hn).2, .inr (.inl (h.line_acquire own.cluster t k))⟩
      · rw [attempt_eq hs (hholds.trans hh) (Bool.not_eq_true _ ▸ hc)]
        exact ⟨q, h, .inl rfl⟩
  · exact ⟨q, (h.resume hs).2, .inl rfl⟩

variable {config : Config}

theorem spliced_opening (hv : config.Valid) (n : Nat) :
    Spliced (opening hclh config n) ⟨sentinel, [], fun _ => [], fun _ => none⟩ :=
  { queued_opening hv n with
    none_apart := fun _ => rfl
    tail_foreign := fun c k hk => by cases (tail_create config c).symm.trans hk
    line_tailed := fun t rest c hsuffix => by cases List.eq_nil_of_suffix_nil hsuffix }

theorem spliced_run (hv : config.Valid) {schedule : Schedule n}
    (hp : (opening hclh config n).Proper hclh schedule)
    (hr : (opening hclh config n).Along hclh (fun u t action => ¬ Recycles u t action) schedule) :
    ∃ q, Spliced ((opening hclh config n).run hclh schedule).1 q :=
  (run_induction (fun u => ∃ q, Spliced u q) (fun _ => True)
    (fun _ _ _ ⟨_, h⟩ ⟨hp, hr⟩ => ⟨(h.step hp hr).imp fun _ h' => h'.1, trivial⟩)
    ⟨_, spliced_opening hv n⟩ (hp.and hr)).1

end SpinLocks.Hclh
