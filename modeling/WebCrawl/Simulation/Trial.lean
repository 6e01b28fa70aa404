import WebCrawl.Assembly
import WebCrawl.Simulation.Hashing
import WebCrawl.Simulation.Script

/-!
# Trials

A trial builds a crawler, does a script to it and gives it up. Its report holds what every step came
to and what is left in the world. Workers of a pool have no order among them, so for a crawler with
pools the events and notes are sorted, and so are the blocks in every text.
-/

namespace WebCrawl.Simulation

inductive AssemblyCall where
  | config (config : Except CrawlError Config)
  | fetchers (count : UInt64)
  | processors (count : UInt64)
  | wait (d : Duration)
  | filter (kind : FilterKind)
  | frontier (frontier : Except CrawlError (Layered Store))
  | downloader (site : Site)
  | processor (extractor : Extractor)
  | pipeline (spec : PipelineSpec)
  | seed (request : Except CrawlError Request)

inductive Build where
  | sequential (frontier : Except CrawlError (Layered Store))
  | withDownloader (frontier : Except CrawlError (Layered Store)) (site : Site)
  | pooled (frontier : Except CrawlError (Layered Store)) (site : Site) (sizes : PoolSizes)
  | assembled (hasPools : Bool) (calls : List AssemblyCall)

namespace AssemblyCall

/-- Builds what the call gives, then hands it to the assembly. -/
def perform (a : Assembly Store World) (w : World) :
    AssemblyCall → Except CrawlError (Assembly Store World × World)
  | .config given => given.map fun c => (a.withConfig c, w)
  | .fetchers count => .ok (a.withFetchers count, w)
  | .processors count => .ok (a.withProcessors count, w)
  | .wait d => .ok (a.withWait d, w)
  | .filter kind => .ok (a.withFilter kind, w)
  | .frontier given => given.map fun f => (a.withFrontier f, w)
  | .downloader site =>
    let (number, w) := w.newDownloader
    .ok (a.withDownloader (site.downloader number), w)
  | .processor extractor => .ok (a.withProcessor extractor.processor, w)
  | .pipeline spec => (spec.pipeline w).map fun (p, w) => (a.withPipeline p, w)
  | .seed request => request.map fun r => (a.withSeed r, w)

def performAll (a : Assembly Store World) (w : World) :
    List AssemblyCall → Except CrawlError (Assembly Store World × World)
  | [] => .ok (a, w)
  | call :: rest => (call.perform a w).bind fun (a, w) => performAll a w rest

end AssemblyCall

namespace Build

def plainFrontier : Layered Store := .bare (.ofQueue (.empty .fifo))

def perform : Build → Except CrawlError Session
  | .sequential frontier => frontier.map fun f => ⟨.sequential f, .empty⟩
  | .withDownloader frontier site =>
    frontier.map fun f =>
      let (number, world) := World.empty.newDownloader
      ⟨.withDownloader f (site.downloader number), world⟩
  | .pooled frontier site sizes =>
    frontier.bind fun f =>
      let (number, world) := World.empty.newDownloader
      (Crawler.pooled f (site.downloader number) sizes).map fun c => ⟨c, world⟩
  | .assembled hasPools calls =>
    (AssemblyCall.performAll (.new plainFrontier) .empty calls).bind fun (a, world) =>
      let fallback := writingPipeline "console" .console
      let built := if hasPools then a.buildPooled fallback else a.buildSequential fallback
      built.map fun c => ⟨c, world⟩

end Build

structure StepReport where
  result : StepResult
  phase : Phase
  events : List String

structure Report where
  steps : List StepReport
  stats : Statistics
  writers : List (String × String)
  console : String
  files : List (String × String)
  log : List Note

def sorted (xs : List String) : List String := xs.mergeSort fun a b => decide (a ≤ b)

/-- The blocks of a text in order. What follows the last closing rule counts as a block. -/
def sortBlocks (text : String) : String :=
  let closing := Block.footerRule ++ "\n"
  let parts := text.splitOn closing
  let blocks := parts.dropLast.map (· ++ closing) ++ parts.getLast?.toList
  String.join (sorted blocks)

/-- What is shown of a list or a text, given whether there is an order to show. -/
def showList (hasPools : Bool) (xs : List String) : List String :=
  if hasPools then sorted xs else xs

def showText (hasPools : Bool) (bytes : List UInt8) : String :=
  let text := String.ofList (Utf8.decodeLossy bytes)
  if hasPools then sortBlocks text else text

namespace Session

def hasPools (s : Session) : Bool := s.crawler.poolSizes?.isSome

def performAll (s : Session) (fuel : Nat) : List Step → List StepReport × Session
  | [] => ([], s)
  | step :: rest =>
    let (result, s) := s.perform fuel step
    let (events, world) := s.world.takeEvents
    let s := { s with world }
    let (reports, s') := performAll s fuel rest
    (⟨result, s.crawler.phase, showList s.hasPools events⟩ :: reports, s')

/-- Gives the crawler up, and asks it once more to stop. -/
def report (s : Session) (steps : List StepReport) : Report :=
  let world := s.world.settle
  let text := showText s.hasPools
  { steps
    stats := s.crawler.stats
    writers := world.writers.map fun w => (w.name, text w.sink.content)
    console := text world.console
    files := world.disk.files.entries.map fun f => (f.1, text f.2)
    log := s.crawler.core.journal.notes ++ s.crawler.stopNotesAfterEnd }

end Session

def trial (build : Build) (steps : List Step) (fuel : Nat) : Except CrawlError Report :=
  build.perform.map fun s =>
    let (reports, s) := s.performAll fuel steps
    s.report reports

def logLines (hasPools : Bool) (level : Level) (notes : List Note) : List String :=
  showList hasPools (Note.linesUpTo level notes)

end WebCrawl.Simulation
