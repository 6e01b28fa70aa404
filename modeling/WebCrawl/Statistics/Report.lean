import WebCrawl.Decimal.Layout
import WebCrawl.Json.Printer
import WebCrawl.Statistics

/-!
# Reports of the statistics

The statistics as JSON, as Markdown and as a block of text. Speeds are per second of the elapsed
time and zero as long as no time has passed.
-/

namespace WebCrawl.Statistics

def countJson (n : UInt64) : Json := .int n.toNat

/-- The members stand in the order of the counters, codes in increasing order. -/
def json (s : Statistics) : Json :=
  .object [
    ("requests_enqueued", countJson s.requestsEnqueued),
    ("requests_rejected", countJson s.requestsRejected),
    ("requests_unsupported", countJson s.requestsUnsupported),
    ("fetches_started", countJson s.fetchesStarted),
    ("fetches_succeeded", countJson s.fetchesSucceeded),
    ("fetches_failed", countJson s.fetchesFailed),
    ("responses_unprocessed", countJson s.responsesUnprocessed),
    ("response_status_counts",
      .object (s.statuses.entries.map fun e => (toString e.1.toNat, countJson e.2))),
    ("items_processed", countJson s.itemsProcessed),
    ("pipeline_short_circuits", countJson s.shortCircuits)]

/-- A count per second with two places. -/
def speed (n : UInt64) (elapsedSeconds : UInt64) : String :=
  if elapsedSeconds = 0 then Decimal.fixed 2 0.0
  else Decimal.fixed 2 (n.toFloat / elapsedSeconds.toFloat)

def durationText (elapsedSeconds : UInt64) : String :=
  if elapsedSeconds = 0 then "0ns" else toString elapsedSeconds.toNat ++ "s"

def statusList (s : Statistics) (separator : String) (entry : String → String → String) :
    Option String :=
  if s.statuses.entries.isEmpty then none
  else some (separator.intercalate (s.statuses.entries.map fun e =>
    entry (toString e.1.toNat) (toString e.2.toNat)))

def markdown (s : Statistics) (elapsedSeconds : UInt64) : String :=
  let codes := (s.statusList "\n" fun code count => s!"- **{code}**: {count}").getD "N/A"
  let fetchSpeed := speed s.fetchesSucceeded elapsedSeconds
  let itemSpeed := speed s.itemsProcessed elapsedSeconds
  "\n".intercalate [
    "# Crawl Statistics Report",
    "",
    "- **Duration**: " ++ durationText elapsedSeconds,
    s!"- **Average Speed**: {fetchSpeed} fetch/s, {itemSpeed} item/s",
    "",
    "## Requests",
    "| Metric      | Count |",
    "|-------------|-------|",
    s!"| Enqueued    | {s.requestsEnqueued.toNat}     |",
    s!"| Duplicates  | {s.requestsRejected.toNat}     |",
    s!"| Unsupported | {s.requestsUnsupported.toNat}     |",
    "",
    "## Fetches",
    "| Metric      | Count |",
    "|-------------|-------|",
    s!"| Started     | {s.fetchesStarted.toNat}     |",
    s!"| Succeeded   | {s.fetchesSucceeded.toNat}     |",
    s!"| Requeued    | {s.fetchesFailed.toNat}     |",
    "",
    "## Items",
    "| Metric        | Count |",
    "|---------------|-------|",
    s!"| Processed     | {s.itemsProcessed.toNat}     |",
    s!"| Unprocessed   | {s.responsesUnprocessed.toNat}     |",
    s!"| Short-circuit | {s.shortCircuits.toNat}     |",
    "",
    "## Status Codes",
    codes,
    ""]

def text (s : Statistics) (elapsedSeconds : UInt64) : String :=
  let codes := (s.statusList ", " fun code count => s!"{code}: {count}").getD "none"
  let fetchSpeed := speed s.fetchesSucceeded elapsedSeconds
  let itemSpeed := speed s.itemsProcessed elapsedSeconds
  let enqueued := s.requestsEnqueued.toNat
  let rejected := s.requestsRejected.toNat
  let unsupported := s.requestsUnsupported.toNat
  let started := s.fetchesStarted.toNat
  let succeeded := s.fetchesSucceeded.toNat
  let failed := s.fetchesFailed.toNat
  let processed := s.itemsProcessed.toNat
  let unprocessed := s.responsesUnprocessed.toNat
  let short := s.shortCircuits.toNat
  "\n".intercalate [
    "",
    "Crawl Statistics",
    "----------------",
    "  duration : " ++ durationText elapsedSeconds,
    s!"  speed    : fetch/s: {fetchSpeed}, item/s: {itemSpeed}",
    s!"  requests : enqueued: {enqueued}, duplicate: {rejected}, unsupported: {unsupported}",
    s!"  fetches  : started: {started}, ok: {succeeded}, requeued: {failed}",
    s!"  items    : processed: {processed}, unprocessed: {unprocessed}, short-circuit: {short}",
    "  status   : " ++ codes,
    "",
    ""]

end WebCrawl.Statistics
