import WebCrawl.Crawler.Basic
import WebCrawl.Frontier.Layered

/-!
# Assembling a crawler

An assembly collects a configuration, components and seeds, and builds a crawler from them. The
frontier it is given is wrapped with the duplicate filter of the configuration. A crawler without
any pipeline gets one that the caller names.
-/

namespace WebCrawl

variable [BloomScheme]

/-- The layer a filter kind stands for, if any. -/
def FilterKind.layer? : FilterKind → Except ConfigIssue (Option FilterLayer)
  | .none => .ok .none
  | .distinct => .ok (some .exact)
  | .bloom expected rate => (BloomFilter.new expected.toNat rate).map fun f => some (.bloom f)

def FilterKind.wrap {S : Type} (k : FilterKind) (frontier : Layered S) :
    Except ConfigIssue (Layered S) :=
  k.layer?.map fun layer => layer.elim frontier frontier.wrap

structure Assembly (S σ : Type) where
  config : Config
  frontier : Layered S
  crew : Crew σ
  seeds : List Request

namespace Assembly

variable {S σ : Type}

/-- Nothing but the default configuration and a frontier. -/
def new (frontier : Layered S) : Assembly S σ := ⟨.default, frontier, .empty, []⟩

def withConfig (a : Assembly S σ) (config : Config) : Assembly S σ := { a with config }

def withFetchers (a : Assembly S σ) (n : UInt64) : Assembly S σ :=
  { a with config := { a.config with fetchWorkers := n } }

def withProcessors (a : Assembly S σ) (n : UInt64) : Assembly S σ :=
  { a with config := { a.config with processWorkers := n } }

/-- The interval is cut to whole milliseconds. -/
def withWait (a : Assembly S σ) (d : Duration) : Assembly S σ :=
  { a with config := { a.config with waitMillis := d.toMillis } }

def withFilter (a : Assembly S σ) (filter : FilterKind) : Assembly S σ :=
  { a with config := { a.config with filter } }

def withFrontier (a : Assembly S σ) (frontier : Layered S) : Assembly S σ := { a with frontier }

def withDownloader (a : Assembly S σ) (d : Downloader σ) : Assembly S σ :=
  { a with crew := a.crew.withDownloader d }

def withProcessor (a : Assembly S σ) (p : Processor σ) : Assembly S σ :=
  { a with crew := a.crew.withProcessor p }

def withPipeline (a : Assembly S σ) (p : Pipeline σ) : Assembly S σ :=
  { a with crew := a.crew.withPipeline p }

def withSeed (a : Assembly S σ) (r : Request) : Assembly S σ := { a with seeds := a.seeds ++ [r] }

/-- The frontier with its filter, and a note about it. -/
def wrapped (a : Assembly S σ) : Except CrawlError (Layered S × Note) :=
  match a.config.filter.wrap a.frontier with
  | .ok frontier => .ok (frontier, .wrapping a.config.filter.dump)
  | .error issue => .error (.configuration issue)

variable [Frontier S]

/-- Gives a crawler its processors, pipelines and seeds. -/
def equip (a : Assembly S σ) (fallback : Pipeline σ) (c : Crawler (Layered S) σ) :
    Except CrawlError (Crawler (Layered S) σ) := do
  let c ← c.changeAll (a.crew.processors.map .processor)
  let c := if a.crew.pipelines.isEmpty then { c with core := c.core.say .defaultPipeline } else c
  let pipelines := if a.crew.pipelines.isEmpty then [fallback] else a.crew.pipelines
  let c ← c.changeAll (pipelines.map .pipeline)
  c.changeAll (a.seeds.map .seed)

/-- Builds a crawler with pools of workers; it takes exactly one downloader. -/
def buildPooled (a : Assembly S σ) (fallback : Pipeline σ) :
    Except CrawlError (Crawler (Layered S) σ) :=
  match a.config.validate with
  | .error issue => .error (.configuration issue)
  | .ok () =>
    match a.crew.downloaders with
    | [d] => a.wrapped.bind fun (frontier, note) =>
      (Crawler.pooled frontier d
        ⟨a.config.fetchWorkers, a.config.processWorkers, a.config.waitInterval⟩).bind fun c =>
        a.equip fallback { c with core := c.core.say note }
    | ds => .error (.configuration (.downloaderCount ds.length))

/-- Builds a sequential crawler; it takes one downloader or more. -/
def buildSequential (a : Assembly S σ) (fallback : Pipeline σ) :
    Except CrawlError (Crawler (Layered S) σ) :=
  match a.config.validate with
  | .error issue => .error (.configuration issue)
  | .ok () =>
    if a.crew.downloaders.isEmpty then .error (.configuration .downloaderMissing)
    else a.wrapped.bind fun (frontier, note) =>
      let c : Crawler (Layered S) σ := Crawler.sequential frontier
      let c := { c with core := c.core.say note }
      (c.changeAll (a.crew.downloaders.map .downloader)).bind fun c => a.equip fallback c

end Assembly

end WebCrawl
