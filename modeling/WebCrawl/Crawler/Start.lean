import WebCrawl.Crawl.Schedule
import WebCrawl.Crawl.Sequential
import WebCrawl.Crawler.Basic

/-!
# Starting a crawler

A start takes the crew, runs the crawl with the engine of the crawler, and releases the crew when
the crawl is over.
-/

namespace WebCrawl

/-- How a start ended. -/
inductive StartResult where
  | finished
  | refused (e : CrawlError)
  /-- A component panicked while the caller's own thread was in it. -/
  | panicked (message : String)
  /-- The crawl is still going on. -/
  | unfinished
  deriving Repr

namespace Crawler

variable {S σ : Type} [Frontier S]

def runSequential (crew : Crew σ) (fuel : Nat) : Working S σ Bool := do
  Working.say (.startingSequential crew.downloaders.length crew.processors.length
    crew.pipelines.length)
  let drained ← Sequential.crawl crew fuel
  if drained then Working.conclude crew
  pure drained

/-- Lets the pools work, and says whether the control is done with them. -/
def work (schedule : Schedule S σ) (crew : Crew σ) (d : Downloader σ) (sizes : PoolSizes) :
    Working S σ Bool := fun run =>
  let pool := schedule crew d (Pool.ofRun run sizes)
  (.ok (decide (pool.control = .done)), pool.run)

/-- Runs the pools; afterwards the crew is released on the thread of the caller. -/
def runPooled (schedule : Schedule S σ) (crew : Crew σ) (d : Downloader σ) (sizes : PoolSizes) :
    Working S σ Bool := do
  Working.say (.startingPool sizes.fetchers.toNat sizes.processors.toNat crew.processors.length
    crew.pipelines.length)
  let done ← work schedule crew d sizes
  if done then Working.conclude crew
  pure done

/-- The whole crawl with the crew that was handed out. A sequential one serves as many requests as
the fuel is enough for, one with pools goes by the schedule. -/
def crawl (engine : Engine) (crew : Crew σ) (schedule : Schedule S σ) (fuel : Nat) :
    Working S σ Bool :=
  match engine, crew.downloaders with
  | .sequential, _ => runSequential crew fuel
  | .pooled sizes, d :: _ => runPooled schedule crew d sizes
  | .pooled _, [] => do
    Working.conclude crew
    pure true

def startBy (c : Crawler S σ) (world : σ) (schedule : Schedule S σ) (fuel : Nat) :
    StartResult × Crawler S σ × σ :=
  match c.change .start with
  | (.error e, c) => (.refused e, c, world)
  | (.ok granted, c) =>
    let crew := granted.crew
    let (result, run) := crawl c.core.engine crew schedule fuel ⟨c.core, world⟩
    let c := { c with core := run.core }
    match result with
    | .ok true => (.finished, c, run.world)
    | .ok false => (.unfinished, c, run.world)
    | .error p => (.panicked p.message, c, run.world)

def start (c : Crawler S σ) (world : σ) (fuel : Nat) : StartResult × Crawler S σ × σ :=
  c.startBy world (.fair fuel) fuel

/-- Several callers start the crawler at once: whoever comes first runs the crawl, all others are
refused. -/
def startAll (c : Crawler S σ) (world : σ) (fuel : Nat) :
    Nat → List StartResult × Crawler S σ × σ
  | 0 => ([], c, world)
  | callers + 1 =>
    let (result, c, world) := c.start world fuel
    let (results, c, world) := startAll c world fuel callers
    (result :: results, c, world)

end Crawler

end WebCrawl
