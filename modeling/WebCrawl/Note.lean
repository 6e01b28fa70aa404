import WebCrawl.Error

/-!
# Notes

What a crawler says about its work while it works. Each note has a level and a text; a reader asks
for all notes up to a level. A note keeps what it is about, its wording is in one place.
-/

namespace WebCrawl

inductive Level where
  | error
  | warn
  | info
  | debug
  | trace
  deriving Repr, DecidableEq

namespace Level

def rank : Level → Nat
  | .error => 0
  | .warn => 1
  | .info => 2
  | .debug => 3
  | .trace => 4

def label : Level → String
  | .error => "ERROR"
  | .warn => "WARN"
  | .info => "INFO"
  | .debug => "DEBUG"
  | .trace => "TRACE"

end Level

/-- The kind of a worker; its name is the kind and its number. -/
inductive Role where
  | fetch
  | process
  deriving Repr, DecidableEq

namespace Role

def name : Role → String
  | .fetch => "fetch"
  | .process => "process"

def title : Role → String
  | .fetch => "Fetch"
  | .process => "Process"

def worker (r : Role) (n : Nat) : String := s!"{r.name}-{n}"

end Role

inductive ResourceKind where
  | downloader
  | pipeline
  deriving Repr, DecidableEq

inductive Note where
  -- the frontier
  | queueing (target : String)
  | duplicateRejected (identity : String)
  | discoveredPushed (accepted : Nat)
  | requeueRefused
  -- the work on one request
  | executing (line : String)
  | noDownloader (line : String)
  | fetchFailed (line : String) (cause : DownloadError)
  | noProcessor (target : String)
  | entersPipeline (line pipeline : String) (index total : Nat)
  | chainStopped (pipeline line : String)
  | writeFailed (pipeline target : String) (cause : IoError)
  -- start and end
  | startingSequential (downloaders processors pipelines : Nat)
  | startingPool (fetchers processors processorKinds pipelines : Nat)
  | endedOutOfPhase (e : PhaseError)
  | releasing
  | released (kind : ResourceKind) (name : String)
  | releaseFailed (kind : ResourceKind) (name : String) (e : CloseError)
  | finished
  -- the pool
  | parked (role : Role)
  | awoke (role : Role)
  | exiting (role : Role)
  | handingOff (target : String)
  | processing (target : String)
  | discovered (target : String) (found accepted : Nat)
  | workerPanicked (role : Role) (index : Nat)
  | sampled (parked total queued handedOff : Nat)
  | stopRequested
  | quiescent
  | cancelling (workers : Nat)
  | joined (role : Role) (index : Nat)
  | joinedPanic (role : Role) (index : Nat)
  | crawlerGone
  -- assembly
  | wrapping (filter : String)
  | defaultPipeline
  deriving Repr

namespace Note

def level : Note → Level
  | .queueing _ | .discoveredPushed _ | .entersPipeline .. | .exiting _ | .handingOff _
  | .discovered .. | .sampled .. | .cancelling _ | .joined .. => .trace
  | .duplicateRejected _ | .executing _ | .chainStopped .. | .released .. | .parked _ | .awoke _
  | .processing _ | .crawlerGone | .wrapping _ | .defaultPipeline => .debug
  | .startingSequential .. | .startingPool .. | .releasing | .finished | .stopRequested
  | .quiescent => .info
  | .requeueRefused | .noDownloader _ | .fetchFailed .. | .noProcessor _ => .warn
  | .writeFailed .. | .endedOutOfPhase _ | .releaseFailed .. | .workerPanicked ..
  | .joinedPanic .. => .error

def text : Note → String
  | .queueing target => s!"Queueing request: {target}"
  | .duplicateRejected identity => s!"Duplicate request rejected: {identity}"
  | .discoveredPushed accepted =>
    s!"Pushed {accepted} discovered requests, notifying fetch workers"
  | .requeueRefused => "Scheduler refused a requeued request; it is lost"
  | .executing line => s!"Executing request: {line}"
  | .noDownloader line => s!"No downloader supports request {line}; dropping it"
  | .fetchFailed line cause => s!"Fetch of {line} failed, requeueing: {cause.message}"
  | .noProcessor target => s!"No processor supports response from {target}; dropping it"
  | .entersPipeline line pipeline index total =>
    s!"Processing {line} through pipeline '{pipeline}' ({index} of {total})"
  | .chainStopped pipeline line => s!"Pipeline '{pipeline}' stopped the chain for {line}"
  | .writeFailed pipeline target cause =>
    s!"Pipeline '{pipeline}' failed to write result for {target}: {cause.message}"
  | .startingSequential downloaders processors pipelines =>
    s!"Crawler starting with {downloaders} downloaders, {processors} processors, " ++
      s!"{pipelines} pipelines"
  | .startingPool fetchers processors kinds pipelines =>
    s!"Crawler starting with {fetchers} fetch workers, {processors} process workers, " ++
      s!"{kinds} processors, {pipelines} pipelines"
  | .endedOutOfPhase e => s!"Unexpected lifecycle state at the end of the crawl: {e.message}"
  | .releasing => "Releasing downloaders and pipelines..."
  | .released .downloader name => s!"Downloader '{name}' closed"
  | .released .pipeline name => s!"Pipeline '{name}' closed"
  | .releaseFailed .downloader name e => s!"Failed to close downloader '{name}': {e.message}"
  | .releaseFailed .pipeline name e => s!"Failed to close pipeline '{name}': {e.message}"
  | .finished => "Crawl finished."
  | .parked role => s!"{role.title} worker parked"
  | .awoke role => s!"{role.title} worker woke up"
  | .exiting role => s!"{role.title} worker exiting"
  | .handingOff target => s!"Handing off response for {target}"
  | .processing target => s!"Processing response from {target}"
  | .discovered target found accepted =>
    s!"{target} discovered {found} requests, {accepted} accepted"
  | .workerPanicked role index =>
    s!"A {role.name} worker ({role.worker index}) panicked; its in-flight work is lost"
  | .sampled resting total queued waiting =>
    s!"Quiescence sample: {resting}/{total} parked, {queued} queued, {waiting} handed off"
  | .stopRequested => "Stop requested, cancelling workers"
  | .quiescent => "All workers idle and no work pending, crawl complete"
  | .cancelling workers => s!"Cancelling {workers} workers"
  | .joined role index => s!"Worker '{role.worker index}' joined"
  | .joinedPanic role index => s!"Worker '{role.worker index}' terminated by a panic"
  | .crawlerGone => "Stop channel closed; crawler already gone"
  | .wrapping filter => s!"Wrapping scheduler with {filter} filter"
  | .defaultPipeline => "No pipelines registered, adding ConsolePipeline"

def line (n : Note) : String := n.level.label ++ " " ++ n.text

def linesUpTo (level : Level) (notes : List Note) : List String :=
  (notes.filter fun n => n.level.rank ≤ level.rank).map line

end Note

end WebCrawl
