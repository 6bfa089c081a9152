import SpinLocks.Lock.ClusterTicket
import SpinLocks.Proofs.Usage
import SpinLocks.Proofs.Ticket.Word

namespace SpinLocks.ClusterTicket

abbrev Threads (n : Nat) := Usage Shared Own Wait n

theorem toInt_sub_one {a : Int32} (h : -0x80000000 < a.toInt) : (a - 1).toInt = a.toInt - 1 := by
  have hlt := a.toInt_lt
  rw [Int32.toInt_sub, Int32.toInt_one]
  apply Int.bmod_eq_of_le <;> omega

theorem toInt_add_one {a : Int32} (h : a.toInt < 0x7fffffff) : (a + 1).toInt = a.toInt + 1 := by
  have hle := a.le_toInt
  rw [Int32.toInt_add, Int32.toInt_one]
  apply Int.bmod_eq_of_le <;> omega

namespace Shared

def counters (shared : Shared) (c : Nat) : Counters :=
  shared.clusters.getD c ⟨0, 0⟩

def nxt (shared : Shared) (c : Nat) : Int :=
  (shared.counters c).nxt.toInt

def cur (shared : Shared) (c : Nat) : Int :=
  (shared.counters c).cur.toInt

def setGlobal (shared : Shared) (word : Ticket.Word) : Shared :=
  { shared with global := word }

def openBatch (shared : Shared) (c : Nat) : Shared :=
  (shared.setCounters c ⟨shared.batch, shared.batch⟩).setGlobal shared.global.draw

def closeBatch (shared : Shared) (c : Nat) (nxt : Int32) : Shared :=
  (shared.setCounters c ⟨nxt, shared.idle⟩).setGlobal shared.global.call

end Shared

def Own.draw (own : Own) (word : Ticket.Word) : Own :=
  { own with
    global := {
      ticket := word.tail
      queuedTotal := own.global.queuedTotal + (word.tail - word.head).toNat
      acquires := own.global.acquires + 1 } }

def Own.count (own : Own) : Own :=
  { own with globalAcquires := own.globalAcquires + 1 }

def Own.closed (own : Own) (early : Bool) : Own :=
  { own with earlyCloses := if early then own.earlyCloses + 1 else own.earlyCloses }

variable {shared : Shared} {own : Own} {c d : Nat} {counters : Counters}

theorem getElem?_clusters (h : c < shared.clusters.length) :
    shared.clusters[c]? = some (shared.counters c) := by
  simp [Shared.counters, h]

theorem onCounters_eq (h : own.cluster < shared.clusters.length)
    (turn : Counters → LockTurn Shared Own Wait) :
    onCounters shared own turn = turn (shared.counters own.cluster) := by
  rw [onCounters, getElem?_clusters h]

theorem counters_of_ne (hd : d ≠ c) (counters : Counters) :
    (shared.setCounters c counters).counters d = shared.counters d := by
  simp [Shared.setCounters, Shared.counters, Ne.symm hd, List.getD]

theorem counters_setCounters (h : c < shared.clusters.length) (counters : Counters) (d : Nat) :
    (shared.setCounters c counters).counters d =
      if d = c then counters else shared.counters d := by
  by_cases hd : d = c
  · simp [Shared.setCounters, Shared.counters, hd, h]
  · rw [counters_of_ne hd, if_neg hd]

theorem length_setCounters (c : Nat) (counters : Counters) :
    (shared.setCounters c counters).clusters.length = shared.clusters.length :=
  List.length_set

theorem counters_setGlobal (word : Ticket.Word) (c : Nat) :
    (shared.setGlobal word).counters c = shared.counters c := by
  rw [Shared.counters, Shared.setGlobal, Shared.counters]

theorem length_setGlobal (word : Ticket.Word) :
    (shared.setGlobal word).clusters.length = shared.clusters.length := by
  rw [Shared.setGlobal]

theorem global_setGlobal (word : Ticket.Word) : (shared.setGlobal word).global = word := rfl

theorem batch_setGlobal (word : Ticket.Word) :
    (shared.setGlobal word).batch = shared.batch := by
  rw [Shared.setGlobal]

variable {ticket : Int32}

theorem awaitServed_eq (h : own.cluster < shared.clusters.length) :
    awaitServed ticket shared own =
      if shared.cur own.cluster = ticket.toInt then ⟨shared, own, .done .done⟩
      else ⟨shared, own, .waiting (.served ticket)⟩ := by
  rw [awaitServed, onCounters_eq h]
  simp only [Shared.cur, Int32.toInt_inj]

theorem onGlobal_await (word : Ticket.Word) (mine : Ticket.Own) :
    onGlobal shared own (Ticket.await word mine) =
      if word.head = mine.ticket then
        ⟨{ shared with global := word }, ({ own with global := mine } : Own).count, .done .done⟩
      else ⟨{ shared with global := word }, { own with global := mine }, .waiting .called⟩ := by
  unfold Ticket.await
  split <;> rfl

theorem awaitCalled_eq :
    awaitCalled shared own =
      if shared.global.head = own.global.ticket then ⟨shared, own.count, .done .done⟩
      else ⟨shared, own, .waiting .called⟩ :=
  onGlobal_await shared.global own.global

theorem awaitClosed_of_idle (h : own.cluster < shared.clusters.length)
    (hi : (shared.counters own.cluster).cur = shared.idle) :
    awaitClosed shared own =
      awaitCalled (shared.openBatch own.cluster) (own.draw shared.global) := by
  have hacquire : Ticket.acquire shared.global own.global =
      Ticket.await shared.global.draw (own.draw shared.global).global := by
    simp [Ticket.acquire, Own.draw]
  rw [awaitClosed, onCounters_eq h, awaitCalled_eq]
  simp only [hi, if_true]
  exact (congrArg (onGlobal _ own) hacquire).trans (onGlobal_await ..)

theorem awaitClosed_of_not_idle (h : own.cluster < shared.clusters.length)
    (hi : (shared.counters own.cluster).cur ≠ shared.idle) :
    awaitClosed shared own = ⟨shared, own, .waiting .closed⟩ := by
  rw [awaitClosed, onCounters_eq h]
  simp only [if_neg hi]

def Shared.lower (shared : Shared) (c : Nat) : Shared :=
  shared.setCounters c { shared.counters c with nxt := (shared.counters c).nxt - 1 }

theorem draw_of_pos (h : own.cluster < shared.clusters.length)
    (hn : 0 < shared.nxt own.cluster) :
    draw shared own =
      awaitServed ((shared.counters own.cluster).nxt - 1) (shared.lower own.cluster) own := by
  have hle : 0 ≤ (shared.counters own.cluster).nxt - 1 := by
    rw [Int32.le_iff_toInt_le, toInt_sub_one (Int.lt_trans (by decide) hn)]
    exact Int.le_sub_one_of_lt hn
  rw [draw, onCounters_eq h]
  simp only [if_pos hle]
  rfl

theorem draw_of_zero (h : own.cluster < shared.clusters.length)
    (hn : shared.nxt own.cluster = 0) :
    draw shared own = awaitClosed (shared.lower own.cluster) own := by
  have hzero : (shared.counters own.cluster).nxt = 0 := Int32.toInt_inj.mp hn
  rw [draw, onCounters_eq h, Shared.lower]
  simp [hzero]

theorem draw_of_neg (h : own.cluster < shared.clusters.length)
    (hmin : -0x80000000 < shared.nxt own.cluster) (hn : shared.nxt own.cluster < 0) :
    draw shared own = ⟨shared.lower own.cluster, own, .waiting .opened⟩ := by
  have hn' : (shared.counters own.cluster).nxt.toInt < 0 := hn
  have hlt : ¬ 0 ≤ (shared.counters own.cluster).nxt - 1 := by
    rw [Int32.le_iff_toInt_le, toInt_sub_one hmin, Int32.toInt_zero]
    omega
  have hne : (shared.counters own.cluster).nxt - 1 ≠ -1 := by
    intro he
    have he := congrArg Int32.toInt he
    rw [toInt_sub_one hmin, show (-1 : Int32).toInt = -1 from rfl] at he
    omega
  rw [draw, onCounters_eq h]
  simp only [if_neg hlt, if_neg hne]
  rfl

theorem awaitOpened_eq (h : own.cluster < shared.clusters.length) :
    awaitOpened shared own =
      if shared.nxt own.cluster < 0 then ⟨shared, own, .waiting .opened⟩ else draw shared own := by
  rw [awaitOpened, onCounters_eq h]
  simp only [Shared.nxt, Int32.lt_iff_toInt_lt]
  rfl

theorem acquire_eq (h : own.cluster < shared.clusters.length) :
    acquire shared own = draw shared { own with acquires := own.acquires + 1 } :=
  onCounters_eq h _

def Shared.pass (shared : Shared) (c : Nat) : Shared :=
  shared.setCounters c { shared.counters c with cur := (shared.counters c).cur - 1 }

def Shared.rest (shared : Shared) (c : Nat) : Int32 :=
  if (shared.counters c).nxt = (shared.counters c).cur then 0 else (shared.counters c).nxt

theorem releaseBatch_of_last (h : own.cluster < shared.clusters.length)
    (hl : shared.cur own.cluster = 0 ∨ shared.cur own.cluster = shared.nxt own.cluster) :
    releaseBatch shared own =
      ⟨shared.closeBatch own.cluster (shared.rest own.cluster),
        own.closed (shared.cur own.cluster ≠ 0), .done .done⟩ := by
  have hiff : (shared.counters own.cluster).cur = 0 ↔ shared.cur own.cluster = 0 :=
    Int32.toInt_inj.symm
  have hlast : (shared.counters own.cluster).cur = 0 ∨
      (shared.counters own.cluster).cur = (shared.counters own.cluster).nxt :=
    hl.imp hiff.mpr fun he => Int32.toInt_inj.mp he
  have hown : own.closed (shared.cur own.cluster ≠ 0) =
      { own with earlyCloses :=
          if (shared.counters own.cluster).cur = 0 then own.earlyCloses
          else own.earlyCloses + 1 } := by
    simp [Own.closed, hiff]
  rw [releaseBatch, onCounters_eq h, hown]
  simp only [if_pos hlast]
  rfl

theorem releaseBatch_of_not_last (h : own.cluster < shared.clusters.length)
    (hpos : 0 < shared.cur own.cluster)
    (hl : shared.cur own.cluster ≠ shared.nxt own.cluster) :
    releaseBatch shared own = ⟨shared.pass own.cluster, own, .done .done⟩ := by
  have hpos : 0 < (shared.counters own.cluster).cur.toInt := hpos
  have hzero : (shared.counters own.cluster).cur ≠ 0 := by
    intro he
    rw [he] at hpos
    exact absurd hpos (by decide)
  have hmin : (shared.counters own.cluster).cur ≠ Int32.minValue := by
    intro he
    rw [he] at hpos
    exact absurd hpos (by decide)
  have hne : (shared.counters own.cluster).cur ≠ (shared.counters own.cluster).nxt :=
    fun he => hl (congrArg Int32.toInt he)
  rw [releaseBatch, onCounters_eq h]
  simp only [hzero, hne, Ne.symm hne, hmin, or_self, if_false]
  rfl

theorem release_of_viaTry (hv : own.viaTry = true) :
    release shared own =
      ⟨shared.setGlobal shared.global.call, { own with viaTry := false }, .done .done⟩ := by
  simp [release, hv, Shared.setGlobal]

theorem release_of_not_viaTry (hv : own.viaTry = false) :
    release shared own = releaseBatch shared own := by
  simp [release, hv]

theorem tryAcquire_eq :
    tryAcquire shared own =
      if shared.global.head = shared.global.tail then
        ⟨shared.setGlobal shared.global.draw,
          { own with
            global := { own.global with ticket := shared.global.tail }
            viaTry := true
            acquires := own.acquires + 1
            globalAcquires := own.globalAcquires + 1 }, .done (.took true)⟩
      else ⟨shared, own, .done (.took false)⟩ := by
  by_cases h : shared.global.head = shared.global.tail <;>
    simp [tryAcquire, Ticket.Word.drawIfFree?_eq, Shared.setGlobal, h]

section Frame

variable (h : c < shared.clusters.length)
include h

theorem cur_lower : (shared.lower c).cur c = shared.cur c := by
  rw [Shared.cur, Shared.lower, counters_setCounters h, if_pos rfl]
  rfl

theorem nxt_lower (hmin : -0x80000000 < shared.nxt c) :
    (shared.lower c).nxt c = shared.nxt c - 1 := by
  rw [Shared.nxt, Shared.lower, counters_setCounters h, if_pos rfl]
  exact toInt_sub_one hmin

theorem counters_openBatch :
    (shared.openBatch c).counters c = ⟨shared.batch, shared.batch⟩ := by
  rw [Shared.openBatch, counters_setGlobal, counters_setCounters h, if_pos rfl]

theorem counters_closeBatch (nxt : Int32) :
    (shared.closeBatch c nxt).counters c = ⟨nxt, shared.idle⟩ := by
  rw [Shared.closeBatch, counters_setGlobal, counters_setCounters h, if_pos rfl]

theorem cur_openBatch : (shared.openBatch c).cur c = shared.batch.toInt := by
  rw [Shared.cur, counters_openBatch h]

theorem nxt_openBatch : (shared.openBatch c).nxt c = shared.batch.toInt := by
  rw [Shared.nxt, counters_openBatch h]

theorem cur_closeBatch (nxt : Int32) :
    (shared.closeBatch c nxt).cur c = shared.idle.toInt := by
  rw [Shared.cur, counters_closeBatch h]

theorem nxt_closeBatch (nxt : Int32) : (shared.closeBatch c nxt).nxt c = nxt.toInt := by
  rw [Shared.nxt, counters_closeBatch h]

theorem cur_pass (hpos : 0 < shared.cur c) : (shared.pass c).cur c = shared.cur c - 1 := by
  rw [Shared.cur, Shared.pass, counters_setCounters h, if_pos rfl]
  exact toInt_sub_one (Int.lt_trans (by decide) hpos)

theorem nxt_pass : (shared.pass c).nxt c = shared.nxt c := by
  rw [Shared.nxt, Shared.pass, counters_setCounters h, if_pos rfl]
  rfl

end Frame

theorem batch_openBatch : (shared.openBatch c).batch = shared.batch := by
  rw [Shared.openBatch, batch_setGlobal]
  rfl

theorem batch_closeBatch (nxt : Int32) : (shared.closeBatch c nxt).batch = shared.batch := by
  rw [Shared.closeBatch, batch_setGlobal]
  rfl

theorem global_openBatch (shared : Shared) (c : Nat) :
    (shared.openBatch c).global = shared.global.draw :=
  global_setGlobal _

theorem global_closeBatch (shared : Shared) (c : Nat) (nxt : Int32) :
    (shared.closeBatch c nxt).global = shared.global.call :=
  global_setGlobal _

theorem length_openBatch (shared : Shared) (c : Nat) :
    (shared.openBatch c).clusters.length = shared.clusters.length := by
  rw [Shared.openBatch, length_setGlobal, length_setCounters]

theorem length_closeBatch (shared : Shared) (c : Nat) (nxt : Int32) :
    (shared.closeBatch c nxt).clusters.length = shared.clusters.length := by
  rw [Shared.closeBatch, length_setGlobal, length_setCounters]

theorem counters_openBatch_of_ne (hd : d ≠ c) :
    (shared.openBatch c).counters d = shared.counters d := by
  rw [Shared.openBatch, counters_setGlobal, counters_of_ne hd]

theorem counters_closeBatch_of_ne (hd : d ≠ c) (nxt : Int32) :
    (shared.closeBatch c nxt).counters d = shared.counters d := by
  rw [Shared.closeBatch, counters_setGlobal, counters_of_ne hd]

theorem counters_lower_of_ne (hd : d ≠ c) : (shared.lower c).counters d = shared.counters d :=
  counters_of_ne hd _

theorem counters_pass_of_ne (hd : d ≠ c) : (shared.pass c).counters d = shared.counters d :=
  counters_of_ne hd _

theorem batch_pass : (shared.pass c).batch = shared.batch := rfl

theorem toInt_idle (h : shared.batch.toInt < 0x7fffffff) :
    shared.idle.toInt = shared.batch.toInt + 1 :=
  toInt_add_one h

theorem toInt_rest (shared : Shared) (c : Nat) :
    (shared.rest c).toInt = if shared.nxt c = shared.cur c then 0 else shared.nxt c := by
  have hiff : (shared.counters c).nxt = (shared.counters c).cur ↔ shared.nxt c = shared.cur c :=
    Int32.toInt_inj.symm
  simp only [Shared.rest, hiff, apply_ite Int32.toInt, Int32.toInt_zero]
  rfl

end SpinLocks.ClusterTicket
