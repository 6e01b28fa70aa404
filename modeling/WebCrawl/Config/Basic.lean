import WebCrawl.Duration
import WebCrawl.Error
import WebCrawl.Json.Printer

/-!
# Configurations

The sizes of the pools, the interval between two checks for the end of a crawl, and the duplicate
filter. A configuration can be written as JSON, and it is valid if a crawler can be built from it.
-/

namespace WebCrawl

inductive FilterKind where
  /-- Every push is accepted. -/
  | none
  | distinct
  | bloom (expectedInsertions : UInt64) (falsePositiveRate : Float)
  deriving Repr, BEq, Inhabited

namespace FilterKind

def defaultExpected : UInt64 := 500

def defaultRate : Float := 0.01

def default : FilterKind := .distinct

def defaultBloom : FilterKind := .bloom defaultExpected defaultRate

def tag : FilterKind → String
  | .none => "none"
  | .distinct => "distinct"
  | .bloom .. => "bloom"

/-- Members in the order in which they are written. -/
def json (k : FilterKind) : Json :=
  .object (("kind", .string k.tag) ::
    match k with
    | .bloom expected rate =>
      [("expected_insertions", .int expected.toNat), ("false_positive_rate", .float rate)]
    | _ => [])

def dump : FilterKind → String
  | .none => "None"
  | .distinct => "Distinct"
  | .bloom expected rate =>
    let rate := Decimal.dump.render rate
    s!"Bloom \x7b expected_insertions: {expected.toNat}, false_positive_rate: {rate} \x7d"

def validate : FilterKind → Except ConfigIssue Unit
  | .bloom expected rate =>
    if expected = 0 then .error .zeroInsertions
    else if !(rate > 0.0 && rate < 1.0) then .error (.rateOutside rate)
    else .ok ()
  | _ => .ok ()

end FilterKind

structure Config where
  fetchWorkers : UInt64
  processWorkers : UInt64
  waitMillis : UInt64
  filter : FilterKind
  deriving Repr, BEq, Inhabited

namespace Config

def default : Config := ⟨5, 1, 500, .default⟩

def json (c : Config) : Json :=
  .object [
    ("fetch_workers", .int c.fetchWorkers.toNat),
    ("process_workers", .int c.processWorkers.toNat),
    ("wait_millis", .int c.waitMillis.toNat),
    ("filter", c.filter.json)]

def jsonText (c : Config) : String := c.json.render

def waitInterval (c : Config) : Duration := .ofMillis c.waitMillis

/-- The first issue counts: pools, then the interval, then the filter. -/
def validate (c : Config) : Except ConfigIssue Unit :=
  if c.fetchWorkers = 0 then .error .noFetchWorkers
  else if c.processWorkers = 0 then .error .noProcessWorkers
  else if c.waitMillis = 0 then .error .zeroWaitMillis
  else c.filter.validate

end Config

end WebCrawl
