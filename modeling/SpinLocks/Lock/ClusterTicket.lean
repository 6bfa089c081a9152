import SpinLocks.Lock.Ticket

namespace SpinLocks

namespace ClusterTicket

structure Counters where
  /-- One more than the next ticket of the batch; below zero, threads wait for the next batch. -/
  nxt : Int32
  /-- The ticket that is served, or `idle` while no batch is open. -/
  cur : Int32
  deriving DecidableEq

structure Shared where
  global : Ticket.Word
  clusters : List Counters
  batch : Int32
  deriving DecidableEq

structure Own where
  cluster : Nat
  global : Ticket.Own
  acquires : Nat
  globalAcquires : Nat
  earlyCloses : Nat
  viaTry : Bool
  deriving DecidableEq

/-- Until the own local ticket is served, until the batch is closed, until the global ticket is
called, or until the next batch is open. -/
inductive Wait where
  | served (ticket : Int32)
  | closed
  | called
  | opened
  deriving DecidableEq

/-- The number of a batch's largest ticket must have a successor. -/
def create (config : Config) : Shared :=
  let batch := if config.batchSize < 0x80000000 then Int32.ofNat config.batchSize else 2147483646
  { global := Ticket.Word.free
    clusters := List.replicate config.topology.numClusters ⟨0, batch + 1⟩
    batch }

namespace Shared

def idle (shared : Shared) : Int32 :=
  shared.batch + 1

def setCounters (shared : Shared) (cluster : Nat) (counters : Counters) : Shared :=
  { shared with clusters := shared.clusters.set cluster counters }

def isFree (shared : Shared) : Bool :=
  shared.global.isFree

end Shared

def join (entry : Entry) (shared : Shared) : Shared × Except LockError Own :=
  let cluster := entry.config.topology.clusterFor entry.core % shared.clusters.length
  (shared, .ok ⟨cluster, Ticket.Own.initial, 0, 0, 0, false⟩)

def onCounters (shared : Shared) (own : Own)
    (turn : Counters → LockTurn Shared Own Wait) : LockTurn Shared Own Wait :=
  match shared.clusters[own.cluster]? with
  | some counters => turn counters
  | none => .fault shared own (.outOfBounds shared.clusters.length own.cluster)

def onGlobal (shared : Shared) (own : Own)
    (turn : LockTurn Ticket.Word Ticket.Own Ticket.Wait) : LockTurn Shared Own Wait :=
  let shared := { shared with global := turn.shared }
  let own := { own with global := turn.own }
  match turn.ending with
  | .done _ => ⟨shared, { own with globalAcquires := own.globalAcquires + 1 }, .done .done⟩
  | .waiting .called => ⟨shared, own, .waiting .called⟩
  | .failed why => ⟨shared, own, .failed why⟩

/-- Opens the next batch as soon as none is open, and queues up for the global lock. -/
def awaitClosed (shared : Shared) (own : Own) : LockTurn Shared Own Wait :=
  onCounters shared own fun counters =>
    if counters.cur = shared.idle then
      let opened := shared.setCounters own.cluster ⟨shared.batch, shared.batch⟩
      onGlobal opened own (Ticket.acquire opened.global own.global)
    else ⟨shared, own, .waiting .closed⟩

def awaitServed (ticket : Int32) (shared : Shared) (own : Own) : LockTurn Shared Own Wait :=
  onCounters shared own fun counters =>
    if counters.cur = ticket then ⟨shared, own, .done .done⟩
    else ⟨shared, own, .waiting (.served ticket)⟩

/-- Draws a local ticket. The first thread that finds none left opens the next batch, and the others
wait until that is done. -/
def draw (shared : Shared) (own : Own) : LockTurn Shared Own Wait :=
  onCounters shared own fun counters =>
    let ticket := counters.nxt - 1
    let shared := shared.setCounters own.cluster { counters with nxt := ticket }
    if 0 ≤ ticket then awaitServed ticket shared own
    else if ticket = -1 then awaitClosed shared own
    else ⟨shared, own, .waiting .opened⟩

def awaitOpened (shared : Shared) (own : Own) : LockTurn Shared Own Wait :=
  onCounters shared own fun counters =>
    if counters.nxt < 0 then ⟨shared, own, .waiting .opened⟩ else draw shared own

def acquire (shared : Shared) (own : Own) : LockTurn Shared Own Wait :=
  onCounters shared own fun _ => draw shared { own with acquires := own.acquires + 1 }

/-- Serves the next local ticket, or closes the batch where there is none: because it is used up, or
because nobody drew a ticket after the one that is served. -/
def releaseBatch (shared : Shared) (own : Own) : LockTurn Shared Own Wait :=
  onCounters shared own fun counters =>
    let cur := counters.cur
    let last := counters.nxt
    let nxt := if last = cur then 0 else last
    if cur = 0 ∨ cur = last then
      let closed := shared.setCounters own.cluster ⟨nxt, shared.idle⟩
      let earlyCloses := if cur = 0 then own.earlyCloses else own.earlyCloses + 1
      ⟨{ closed with global := shared.global.call }, { own with earlyCloses }, .done .done⟩
    else if cur = Int32.minValue then
      .fault (shared.setCounters own.cluster { counters with nxt }) own .subOverflow
    else ⟨shared.setCounters own.cluster ⟨nxt, cur - 1⟩, own, .done .done⟩

def release (shared : Shared) (own : Own) : LockTurn Shared Own Wait :=
  if own.viaTry then
    ⟨{ shared with global := shared.global.call }, { own with viaTry := false }, .done .done⟩
  else releaseBatch shared own

def tryAcquire (shared : Shared) (own : Own) : LockTurn Shared Own Wait :=
  match shared.global.drawIfFree? with
  | some drawn =>
    ⟨{ shared with global := drawn },
      { own with
        global := { own.global with ticket := shared.global.tail }
        viaTry := true
        acquires := own.acquires + 1
        globalAcquires := own.globalAcquires + 1 },
      .done (.took true)⟩
  | none => ⟨shared, own, .done (.took false)⟩

def start (command : Command) (shared : Shared) (own : Own) : LockTurn Shared Own Wait :=
  command.exclusive shared own acquire release tryAcquire

def awaitCalled (shared : Shared) (own : Own) : LockTurn Shared Own Wait :=
  onGlobal shared own (Ticket.await shared.global own.global)

def resume : Wait → Shared → Own → LockTurn Shared Own Wait
  | .served ticket => awaitServed ticket
  | .closed => awaitClosed
  | .called => awaitCalled
  | .opened => awaitOpened

namespace Own

def text (own : Own) : String :=
  Text.record "HtLocal" [
    ("cluster", toString own.cluster),
    ("global", own.global.text),
    ("acquires", toString own.acquires),
    ("global_acquires", toString own.globalAcquires),
    ("early_closes", toString own.earlyCloses),
    ("via_try", toString own.viaTry)]

def stats (own : Own) : Report := [
  ("cluster", .nat own.cluster),
  ("acquires", .nat own.acquires),
  ("global_acquires", .nat own.globalAcquires),
  ("early_closes", .nat own.earlyCloses)]

end Own

end ClusterTicket

/-- The hierarchical ticket lock. Each cluster hands out its own tickets, in batches. The thread
that finds a batch used up waits until it is closed, opens the next, and takes the global ticket
lock for the whole cluster; the holders of the batch's tickets then follow one another, in
descending order of their tickets, without the global lock. A batch is closed by the release of its
last ticket, or of a ticket after which no other was drawn. A single attempt goes to the global lock
alone. -/
def clusterTicket : Lock ClusterTicket.Shared ClusterTicket.Own ClusterTicket.Wait where
  name := "htlock"
  size := 2 * Memory.line
  create := ClusterTicket.create
  join := ClusterTicket.join
  leave shared _ := (shared, none)
  start := ClusterTicket.start
  resume := ClusterTicket.resume
  isFree := ClusterTicket.Shared.isFree
  ownText := ClusterTicket.Own.text
  stats := ClusterTicket.Own.stats
  info shared := [("name", .text "htlock"), ("batch_size", .int shared.batch.toInt)]

end SpinLocks
