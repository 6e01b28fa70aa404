import WebCrawl.Crawler.Start
import WebCrawl.Frontier.Layered
import WebCrawl.Json.Basic
import WebCrawl.Simulation.Site
import WebCrawl.Simulation.Writing
import WebCrawl.Statistics.Report

/-!
# Scripts

A script is a list of steps that are done to a crawler, with simulated components. A recorder is a
pipeline that tells what it gets, and may do a step itself while the crawler runs. What a step needs
is built before the crawler is asked, so a step that the crawler refuses may still leave a file or a
writer behind.
-/

namespace WebCrawl.Simulation

abbrev SimulatedCrawler := Crawler (Layered Store) World

mutual

inductive PipelineSpec where
  | writer (name : String) (sink : MemorySink)
  | file (path : String)
  | console
  | recorder (name : String) (stopOn panicOn : List String) (actions : List (String × Step))
      (closeError : List String) (bare : Bool)

/-- Requests and frontiers come as they were built, or with the error of building them. -/
inductive Step where
  | addDownloader (site : Site)
  | addProcessor (extractor : Extractor)
  | addPipeline (pipeline : PipelineSpec)
  | setFrontier (frontier : Except CrawlError (Layered Store))
  | addStartRequest (request : Except CrawlError Request)
  | phase
  | hasStarted
  | stats
  | sizes
  | stop
  | start
  | race (callers : Nat)

end

instance : Inhabited PipelineSpec := ⟨.console⟩

instance : Inhabited Step := ⟨.phase⟩

inductive StepResult where
  | ok
  | nothing
  | flag (value : Bool)
  | phase (p : Phase)
  | stats (s : Statistics)
  | sizes (s : PoolSizes)
  | race (finished illegal : Nat)
  | failed (e : CrawlError)
  | panicked (message : String)
  | unfinished

namespace StepResult

def ofExcept {α : Type} (onOk : α → StepResult) : Except CrawlError α → StepResult
  | .ok a => onOk a
  | .error e => .failed e

def ofStart : StartResult → StepResult
  | .finished => .ok
  | .refused e => .failed e
  | .panicked message => .panicked message
  | .unfinished => .unfinished

end StepResult

/-- A kind of error under the name that reports give it. -/
def errorKind : CrawlError → String
  | .illegalState _ => "IllegalState"
  | .configuration _ => "Configuration"
  | .workerSpawn _ => "WorkerSpawn"
  | .io _ => "Io"
  | .json _ => "Json"
  | .url _ => "Url"

def errorJson (kind message : String) : Json :=
  .ofMembers [("error", .string kind), ("message", .string message)]

def durationJson (d : Duration) : Json :=
  .ofMembers [("secs", .ofNat d.secs.toNat), ("nanos", .ofNat d.nanos.toNat)]

def sizesJson (s : PoolSizes) : Json :=
  .ofMembers [
    ("fetch_workers", .ofNat s.fetchers.toNat),
    ("process_workers", .ofNat s.processors.toNat),
    ("wait", durationJson s.wait)]

/-- The result of a step as it is reported, members in the order of their names. -/
def StepResult.json : StepResult → Json
  | .ok => .string "ok"
  | .nothing => .null
  | .flag value => .bool value
  | .phase p => .string p.name
  | .stats s => s.json.canonical
  | .sizes s => sizesJson s
  | .race finished illegal =>
    .ofMembers [("ok", .ofNat finished), ("illegal", .ofNat illegal)]
  | .failed e => errorJson (errorKind e) e.message
  | .panicked message => errorJson "Panic" message
  | .unfinished => errorJson "Unfinished" "the crawl goes on"

def StepResult.ofSizes : Option PoolSizes → StepResult
  | none => .nothing
  | some s => .sizes s

def PipelineSpec.prepare :
    PipelineSpec → World → Except CrawlError (Option (String × Place) × World)
  | .writer name sink, w =>
    let (index, w) := w.newWriter name sink
    .ok (some (name, .writer index), w)
  | .file path, w =>
    match w.openFile path with
    | .ok (index, w) => .ok (some ("file:" ++ path, .file index), w)
    | .error cause => .error (.io cause)
  | .console, w => .ok (some ("console", .console), w)
  | .recorder .., w => .ok (none, w)

/-- The action a step is refused as while the crawler runs. -/
def Step.refusal? : Step → Option String
  | .addDownloader _ => some "add a downloader"
  | .addProcessor _ => some "add a processor"
  | .addPipeline _ => some "add a pipeline"
  | .setFrontier _ => some "replace the scheduler"
  | .addStartRequest _ => some "add a start request"
  | .start => some "start the crawler"
  | _ => none

/-- Builds what a step needs, for the traces this leaves in the world. -/
def Step.build : Step → World → Except CrawlError World
  | .addDownloader _, w => .ok w.newDownloader.2
  | .addPipeline pipeline, w => (pipeline.prepare w).map Prod.snd
  | .setFrontier frontier, w => frontier.map fun _ => w
  | .addStartRequest request, w => request.map fun _ => w
  | _, w => .ok w

/-- A step that a component does to the crawler it works for. -/
def Step.fromWithin (step : Step) : Act World StepResult := fun view w =>
  match step.build w with
  | .error e => ⟨.returned (.failed e), w, [], 0⟩
  | .ok w =>
    let result : StepResult :=
      match step, step.refusal? with
      | .phase, _ => .phase view.phase
      | .hasStarted, _ => .flag view.phase.hasStarted
      | .stats, _ => .stats view.stats
      | .sizes, _ =>
        match view.engine with
        | .sequential => .nothing
        | .pooled poolSizes => .sizes poolSizes
      | .race callers, _ => .race 0 callers
      | _, some action =>
        .ofExcept (fun _ => .ok)
          ((view.phase.ensureInitializing action).mapError CrawlError.illegalState)
      | _, none => .nothing
    let stops :=
      match step, view.engine with
      | .stop, .pooled _ => 1
      | _, _ => 0
    ⟨.returned result, w, [], stops⟩

/-- A pipeline that tells what it gets. -/
def recordingPipeline (name : String) (stopOn panicOn : List String)
    (actions : List (String × Step)) (closeError : List String) (bare : Bool) :
    Pipeline World where
  name
  process carrier := fun view w =>
    let page := ((carrier.get? "page").bind Json.string?).getD "?"
    let goesOn := !stopOn.contains page
    let fields := carrier.fieldsJson.render
    let w := w.emit s!"{name} gets {carrier.request.line} {fields} -> {goesOn}"
    let call : Call World Unit :=
      match actions.find? fun a => a.1 == page with
      | none => ⟨.returned (), w, [], 0⟩
      | some (_, step) =>
        let call := step.fromWithin view w
        match call.outcome with
        | .returned result =>
          ⟨.returned (), call.world.emit s!"{name} acts {result.json.render}", call.notes,
            call.stops⟩
        | .panicked message => ⟨.panicked message, call.world, call.notes, call.stops⟩
    if panicOn.contains page then { call with outcome := .panicked s!"pipeline on {page}" }
    else
      match call.outcome with
      | .returned () => { call with outcome := .returned goesOn }
      | .panicked message => { call with outcome := .panicked message }
  close := closing name closeError bare

def PipelineSpec.pipeline (p : PipelineSpec) (w : World) :
    Except CrawlError (Pipeline World × World) :=
  match p, p.prepare w with
  | _, .error e => .error e
  | _, .ok (some (name, place), w) => .ok (writingPipeline name place, w)
  | .recorder name stopOn panicOn actions closeError bare, .ok (none, w) =>
    .ok (recordingPipeline name stopOn panicOn actions closeError bare, w)
  | _, .ok (none, w) => .ok (writingPipeline "console" .console, w)

structure Session where
  crawler : SimulatedCrawler
  world : World

namespace Session

def grantedResult : Granted World → StepResult
  | .admitted accepted => .flag accepted
  | _ => .ok

def change (s : Session) (ch : Change (Layered Store) World) : StepResult × Session :=
  let (result, crawler) := s.crawler.change ch
  (.ofExcept grantedResult result, { s with crawler })

def raceResult (results : List StartResult) : StepResult :=
  let finished := results.filter fun r => match r with | .finished => true | _ => false
  let late := results.filter fun r => match r with | .refused e => e.isIllegalState | _ => false
  .race finished.length late.length

/-- Does a step. A start gives the components up, and with them the files they hold open. -/
def perform (s : Session) (fuel : Nat) : Step → StepResult × Session
  | .addDownloader site =>
    let (number, world) := s.world.newDownloader
    { s with world }.change (.downloader (site.downloader number))
  | .addProcessor extractor => s.change (.processor extractor.processor)
  | .addPipeline spec =>
    match spec.pipeline s.world with
    | .error e => (.failed e, s)
    | .ok (pipeline, world) => { s with world }.change (.pipeline pipeline)
  | .setFrontier frontier =>
    match frontier with
    | .error e => (.failed e, s)
    | .ok f => s.change (.frontier f)
  | .addStartRequest request =>
    match request with
    | .error e => (.failed e, s)
    | .ok r => s.change (.seed r)
  | .phase => (.phase s.crawler.phase, s)
  | .hasStarted => (.flag s.crawler.phase.hasStarted, s)
  | .stats => (.stats s.crawler.stats, s)
  | .sizes => (.ofSizes s.crawler.poolSizes?, s)
  | .stop => (.nothing, { s with crawler := s.crawler.stop })
  | .start =>
    let (result, crawler, world) := s.crawler.start s.world fuel
    (.ofStart result, ⟨crawler, world.settle⟩)
  | .race callers =>
    let (results, crawler, world) := s.crawler.startAll s.world fuel callers
    (raceResult results, ⟨crawler, world.settle⟩)

end Session

end WebCrawl.Simulation
