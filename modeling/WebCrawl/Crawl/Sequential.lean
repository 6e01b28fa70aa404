import WebCrawl.Crawl.Working

/-!
# Crawling one request at a time

A request is polled, fetched by the first downloader that supports it, its response processed by
the first processor that supports it, the carrier passed along the pipelines, and the discovered
requests are pushed. The crawl is over when a poll finds nothing.
-/

namespace WebCrawl.Sequential

variable {S σ : Type}

open Working

/-- Asks components in order until one says yes. -/
def firstSupporting {α : Type} (ask : α → Act σ Bool) (deed : Nat → Bool → Deed) :
    Nat → List α → Working S σ (Option (Nat × α))
  | _, [] => pure none
  | index, a :: rest => do
    let verdict ← perform (ask a)
    enter (deed index verdict)
    if verdict then pure (some (index, a))
    else firstSupporting ask deed (index + 1) rest

/-- Passes a carrier along the pipelines up to the first that holds it back. -/
def runPipelines (carrier : Carrier) (total : Nat) :
    Nat → List (Pipeline σ) → Working S σ Unit
  | _, [] => pure ()
  | index, p :: rest => do
    say (.entersPipeline carrier.request.line p.name (index + 1) total)
    let verdict ← perform (p.process carrier)
    enter (.piped index carrier verdict)
    if verdict then runPipelines carrier total (index + 1) rest
    else
      say (.chainStopped p.name carrier.request.line)
      tally (·.recordShortCircuit)

variable [Frontier S]

def handleResponse (crew : Crew σ) (response : Response) : Working S σ Unit := do
  let chosen ← firstSupporting (fun p => p.supports response)
    (fun index verdict => .askedProcessor index response verdict) 0 crew.processors
  match chosen with
  | none =>
    say (.noProcessor response.target)
    enter (.dropped response)
    tally (·.recordUnprocessed)
  | some (index, p) =>
    let carrier ← perform (p.process response)
    enter (.processed index response carrier)
    runPipelines carrier crew.pipelines.length 0 crew.pipelines
    enter (.completed carrier)
    tally (·.recordProcessed)
    update fun c => (c.pushDiscovered carrier.discovered).2

def fetch (crew : Crew σ) (index : Nat) (d : Downloader σ) (r : Request) :
    Working S σ Unit := do
  say (.executing r.line)
  tally (·.recordFetchStarted)
  let result ← perform (d.download r)
  enter (.downloaded index r result)
  match result with
  | .error cause =>
    say (.fetchFailed r.line cause)
    tally (·.recordFetchFailed)
    update (·.requeue r)
  | .ok response =>
    tally (·.recordFetchSucceeded)
    tally (·.recordStatus response.status)
    handleResponse crew response

/-- Everything that is done about one polled request. -/
def serve (crew : Crew σ) (r : Request) : Working S σ Unit := do
  let chosen ← firstSupporting (fun d => d.supports r)
    (fun index verdict => .askedDownloader index r verdict) 0 crew.downloaders
  match chosen with
  | none =>
    say (.noDownloader r.line)
    tally (·.recordUnsupported)
  | some (index, d) => fetch crew index d r

def pollNext : Working S σ (Option Request) := fun run =>
  let (r, core) := run.core.poll
  (.ok r, { run with core })

/-- Serves one request; says whether there was one. -/
def step (crew : Crew σ) : Working S σ Bool := do
  match ← pollNext with
  | none => pure false
  | some r =>
    serve crew r
    pure true

/-- Serves up to `fuel` requests; says whether the frontier ran dry. -/
def crawl (crew : Crew σ) : Nat → Working S σ Bool
  | 0 => pure false
  | fuel + 1 => do
    if ← step crew then crawl crew fuel else pure true

end WebCrawl.Sequential
