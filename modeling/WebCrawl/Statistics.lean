/-!
# Statistics

Counters of what happened in a crawl. They count modulo `2 ^ 64`. The histogram of status codes is
kept in the order of the codes.
-/

namespace WebCrawl

/-- How often each status was seen, by increasing code. -/
structure Histogram where
  entries : List (UInt16 × UInt64)
  deriving Repr, DecidableEq, Inhabited

namespace Histogram

def empty : Histogram := ⟨[]⟩

def bump (code : UInt16) (n : UInt64) : List (UInt16 × UInt64) → List (UInt16 × UInt64)
  | [] => [(code, n)]
  | (c, k) :: rest =>
    if code < c then (code, n) :: (c, k) :: rest
    else if code = c then (c, k + n) :: rest
    else (c, k) :: bump code n rest

def record (h : Histogram) (code : UInt16) : Histogram := ⟨bump code 1 h.entries⟩

def count (h : Histogram) (code : UInt16) : UInt64 :=
  ((h.entries.find? fun e => e.1 == code).map Prod.snd).getD 0

def total (h : Histogram) : UInt64 := h.entries.foldl (fun n e => n + e.2) 0

def assign (h : Histogram) (code : UInt16) (n : UInt64) : Histogram :=
  let rec place : List (UInt16 × UInt64) → List (UInt16 × UInt64)
    | [] => [(code, n)]
    | (c, k) :: rest =>
      if code < c then (code, n) :: (c, k) :: rest
      else if code = c then (c, n) :: rest
      else (c, k) :: place rest
  ⟨place h.entries⟩

end Histogram

structure Statistics where
  requestsEnqueued : UInt64
  requestsRejected : UInt64
  requestsUnsupported : UInt64
  fetchesStarted : UInt64
  fetchesSucceeded : UInt64
  fetchesFailed : UInt64
  responsesUnprocessed : UInt64
  statuses : Histogram
  itemsProcessed : UInt64
  shortCircuits : UInt64
  deriving Repr, DecidableEq, Inhabited

namespace Statistics

def zero : Statistics := ⟨0, 0, 0, 0, 0, 0, 0, .empty, 0, 0⟩

def recordPush (s : Statistics) (accepted : Bool) : Statistics :=
  if accepted then { s with requestsEnqueued := s.requestsEnqueued + 1 }
  else { s with requestsRejected := s.requestsRejected + 1 }

def recordUnsupported (s : Statistics) : Statistics :=
  { s with requestsUnsupported := s.requestsUnsupported + 1 }

def recordFetchStarted (s : Statistics) : Statistics :=
  { s with fetchesStarted := s.fetchesStarted + 1 }

def recordFetchSucceeded (s : Statistics) : Statistics :=
  { s with fetchesSucceeded := s.fetchesSucceeded + 1 }

def recordFetchFailed (s : Statistics) : Statistics :=
  { s with fetchesFailed := s.fetchesFailed + 1 }

def recordUnprocessed (s : Statistics) : Statistics :=
  { s with responsesUnprocessed := s.responsesUnprocessed + 1 }

def recordStatus (s : Statistics) (code : UInt16) : Statistics :=
  { s with statuses := s.statuses.record code }

def recordProcessed (s : Statistics) : Statistics :=
  { s with itemsProcessed := s.itemsProcessed + 1 }

def recordShortCircuit (s : Statistics) : Statistics :=
  { s with shortCircuits := s.shortCircuits + 1 }

end Statistics

end WebCrawl
