import SpinLocks.Kind
import SpinLocks.Cell
import SpinLocks.Relax
import SpinLocks.Text.Padding
import SpinLocks.Session.Scenario
import SpinLocks.Session.Ledger
import SpinLocks.Session.Calls
import SpinLocks.Session.Walk
import SpinLocks.Session.Contention
import SpinLocks.Proofs.Usage
import SpinLocks.Proofs.Chain
import SpinLocks.Proofs.Hclh.Turns
import SpinLocks.Proofs.Hclh.Order
import SpinLocks.Proofs.Hclh.Nodes
import SpinLocks.Proofs.Hclh.Lines
import SpinLocks.Proofs.Hclh.Waiting
import SpinLocks.Proofs.Valid
import SpinLocks.Proofs.Hclh.Steps
import SpinLocks.Proofs.Hclh.Runs
import SpinLocks.Proofs.Hclh.Exclusion
import SpinLocks.Proofs.Hclh.Spliced
import SpinLocks.Proofs.Hclh.Progress
import SpinLocks.Proofs.Claims
import SpinLocks.Proofs.Clh.Turns
import SpinLocks.Proofs.Hclh.Mirror
import SpinLocks.Proofs.Hclh.Refinement
import SpinLocks.Proofs.Ticket.Word
import SpinLocks.Proofs.ClusterTicket.Turns
import SpinLocks.Proofs.ClusterTicket.Batch
import SpinLocks.Proofs.ClusterTicket.Order
import SpinLocks.Proofs.ClusterTicket.Lines
import SpinLocks.Proofs.ClusterTicket.Steps
import SpinLocks.Proofs.ClusterTicket.Runs
import SpinLocks.Proofs.ClusterTicket.HandsOver
import SpinLocks.Proofs.History
import SpinLocks.Proofs.Line
import SpinLocks.Proofs.Mcs.Queue
import SpinLocks.Proofs.Mcs.Moves
import SpinLocks.Proofs.Mcs.Steps
import SpinLocks.Proofs.Mcs.Handover
import SpinLocks.Proofs.ArrayQueue.Ring
import SpinLocks.Proofs.ArrayQueue.Steps
import SpinLocks.Proofs.ArrayQueue.FreeTest
import SpinLocks.Proofs.ClusterTicket.Standing
import SpinLocks.Proofs.ClusterTicket.Accounts
import SpinLocks.Proofs.ClusterTicket.Room
import SpinLocks.Proofs.ClusterTicket.Overtaking
import SpinLocks.Proofs.Allotment
import SpinLocks.Proofs.Clh.Queue
import SpinLocks.Proofs.Clh.Steps
import SpinLocks.Proofs.Clh.Migration
import SpinLocks.Proofs.ArrayQueue.Order
import SpinLocks.Proofs.Ticket.Queue
import SpinLocks.Proofs.Ticket.Order
import SpinLocks.Proofs.ReadWrite.Exclusion
import SpinLocks.Proofs.Participants
import SpinLocks.Proofs.Capacity
import SpinLocks.Proofs.Misuse
import SpinLocks.Proofs.Adapter.Outstanding
import SpinLocks.Proofs.Adapter.Exclusion
import SpinLocks.Proofs.Adapter.Agreement
import SpinLocks.Proofs.Guarded.Excludes
import SpinLocks.Proofs.ReadWrite.Modes
import SpinLocks.Proofs.TestAndSet
import SpinLocks.Proofs.Guarded.Kinds
import SpinLocks.Proofs.Guarded.Cell
import SpinLocks.Proofs.Guarded.Deeds
import SpinLocks.Proofs.Guarded.Steps
import SpinLocks.Proofs.Guarded.Tenures
import SpinLocks.Proofs.AllOrNothing
import SpinLocks.Proofs.Mcs.Unseen
import SpinLocks.Proofs.Mcs.Alike
import SpinLocks.Proofs.Guarded.Exits
import SpinLocks.Proofs.Attempts.Custody
import SpinLocks.Proofs.Attempts.Sound
import SpinLocks.Proofs.Attempts.Exclusive
import SpinLocks.Proofs.Attempts.Readers
import SpinLocks.Proofs.Attempts.Kinds
import SpinLocks.Proofs.Ticket.Statistics
import SpinLocks.Proofs.Topology.Tables
import SpinLocks.Proofs.Dimensions
import SpinLocks.Proofs.Construction
import SpinLocks.Proofs.Topology.Clusters
import SpinLocks.Proofs.Topology.Layouts
import SpinLocks.Proofs.ClusterTicket.Counters
import SpinLocks.Proofs.View
import SpinLocks.Proofs.Ticket.Counters
import SpinLocks.Proofs.ArrayQueue.Wrap
