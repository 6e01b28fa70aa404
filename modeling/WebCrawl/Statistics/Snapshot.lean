import WebCrawl.Statistics

/-!
# Snapshots of the statistics

A reader who does not stop the crawl loads one counter after the other, and the crawl may count in
between. The histogram is read first, and not at once either: its entries lie in shards, each of
which is locked only while its own entries are read.
-/

namespace WebCrawl

namespace Histogram

/-- The entries of one shard; `place` says in which shard a code lies. -/
def shard (h : Histogram) (place : UInt16 → Nat) (k : Nat) : List (UInt16 × UInt64) :=
  h.entries.filter fun e => place e.1 = k

def byCode (a b : UInt16 × UInt64) : Bool := decide (a.1 ≤ b.1)

end Histogram

namespace Statistics

/-- The histogram from as many shards, put in the order of the codes; `load k` is the statistics
while the shard number `k` is read. -/
def loadStatuses (shards : Nat) (place : UInt16 → Nat) (load : Nat → Statistics) : Histogram :=
  let entries := (List.range shards).flatMap fun k => (load k).statuses.shard place k
  ⟨entries.mergeSort Histogram.byCode⟩

/-- The counters as they were loaded, in this order; `load k` is the statistics at the load number
`k`, and the loads of the shards come first. -/
def snapshot (shards : Nat) (place : UInt16 → Nat) (load : Nat → Statistics) : Statistics where
  statuses := loadStatuses shards place load
  requestsEnqueued := (load shards).requestsEnqueued
  requestsRejected := (load (shards + 1)).requestsRejected
  requestsUnsupported := (load (shards + 2)).requestsUnsupported
  fetchesStarted := (load (shards + 3)).fetchesStarted
  fetchesSucceeded := (load (shards + 4)).fetchesSucceeded
  fetchesFailed := (load (shards + 5)).fetchesFailed
  responsesUnprocessed := (load (shards + 6)).responsesUnprocessed
  itemsProcessed := (load (shards + 7)).itemsProcessed
  shortCircuits := (load (shards + 8)).shortCircuits

end Statistics

end WebCrawl
