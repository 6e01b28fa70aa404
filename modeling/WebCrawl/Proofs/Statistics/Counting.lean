import Mathlib.Data.Multiset.MapFold
import WebCrawl.Statistics

/-!
# Counting in any order

The ways of counting commute, the entries of the histogram included. What has been counted is
therefore a multiset, and the statistics are a function of it.
-/

namespace WebCrawl

/-- One thing that the statistics count. -/
inductive Count where
  | admitted
  | rejected
  | unsupported
  | started
  | succeeded
  | failed
  | unprocessed
  | status (code : UInt16)
  | processed
  | shortCircuit

namespace Histogram

theorem bump_comm (a b : UInt16) (n : UInt64) (entries : List (UInt16 × UInt64)) :
    bump a n (bump b n entries) = bump b n (bump a n entries) := by
  by_cases same : a = b
  · rw [same]
  induction entries with
  | nil => grind [bump]
  | cons e rest ih => grind [bump]

theorem record_comm (h : Histogram) (a b : UInt16) :
    (h.record a).record b = (h.record b).record a :=
  congrArg Histogram.mk (bump_comm b a 1 h.entries)

end Histogram

namespace Count

def record : Count → Statistics → Statistics
  | admitted, s => s.recordPush true
  | rejected, s => s.recordPush false
  | unsupported, s => s.recordUnsupported
  | started, s => s.recordFetchStarted
  | succeeded, s => s.recordFetchSucceeded
  | failed, s => s.recordFetchFailed
  | unprocessed, s => s.recordUnprocessed
  | status code, s => s.recordStatus code
  | processed, s => s.recordProcessed
  | shortCircuit, s => s.recordShortCircuit

theorem record_comm (a b : Count) (s : Statistics) :
    a.record (b.record s) = b.record (a.record s) := by
  cases a with
  | status x =>
    cases b with
    | status y =>
      have histogram := s.statuses.record_comm y x
      simp only [record, Statistics.recordStatus, histogram]
    | _ => rfl
  | _ => cases b <;> rfl

instance : LeftCommutative Count.record := ⟨record_comm⟩

end Count

namespace Statistics

def ofCounts (counts : Multiset Count) : Statistics := counts.foldr Count.record zero

theorem ofCounts_cons (c : Count) (counts : Multiset Count) :
    ofCounts (c ::ₘ counts) = c.record (ofCounts counts) :=
  Multiset.foldr_cons Count.record zero c counts

end Statistics

end WebCrawl
