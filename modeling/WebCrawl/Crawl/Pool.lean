import WebCrawl.Crawl.Working

/-!
# Crawling with two pools of workers

Fetchers poll the frontier and download; processors take the responses from a handoff queue, run
the components and push what was discovered. The frontier has one lock and the handoff queue
another, and no worker holds both. A worker that finds nothing parks: it is counted, gives its lock
up and sleeps until it is woken.

The pool is a machine. A worker is in one phase; a move takes it through one section under a lock
or one call of a component, or counts something. An interleaving is a list of moves, `advance`
makes one. A worker holds a lock between two moves only in its `looking` phase, so the locks are
read off the phases. The control samples the pool, raises the cancellation, wakes everybody and
joins the workers in order.
-/

namespace WebCrawl

inductive Fetcher where
  /-- About to look for work. -/
  | seeking
  /-- Holds the lock of the frontier and has seen that nothing is cancelled. -/
  | looking
  | asleep
  /-- Woken, but without the lock. -/
  | woken
  | starting (r : Request)
  | downloading (r : Request)
  /-- Has a response that is not counted yet. -/
  | fetched (response : Response)
  /-- Has a response whose status is not counted yet. -/
  | counted (response : Response)
  | handing (response : Response)
  | announcing
  | failed (r : Request) (cause : DownloadError)
  | requeueing (r : Request)
  /-- The downloader panicked; the worker still has to count itself as parked. -/
  | unwinding
  | exited
  | dead

inductive Worker where
  | seeking
  /-- Holds the lock of the handoff queue and has seen that nothing is cancelled. -/
  | looking
  | asleep
  | woken
  /-- About to ask the processor with the given index. -/
  | selecting (response : Response) (index : Nat)
  | dropping (response : Response)
  | processing (response : Response) (index : Nat)
  | publishing (carrier : Carrier)
  /-- About to give the carrier to the pipeline with the given index. -/
  | piping (carrier : Carrier) (index : Nat)
  /-- A pipeline held the carrier back, which is not counted yet. -/
  | held (carrier : Carrier)
  | finishing (carrier : Carrier)
  | unwinding
  | exited
  | dead

/-- What the thread that started the crawl is doing. -/
inductive Control where
  | waiting
  | cancelling
  | wakingFetchers
  | wakingProcessors
  | joining (role : Role) (index : Nat)
  | done
  deriving Repr, DecidableEq

structure Pool (S σ : Type) where
  run : Run S σ
  handoff : List Response
  parked : Nat
  cancelled : Bool
  fetchers : List Fetcher
  workers : List Worker
  control : Control

/-- What may happen next in a pool. -/
inductive Move where
  /-- A fetcher goes on. If it wakes one fetcher, then the one named second. -/
  | fetch (index wakes : Nat)
  | process (index : Nat)
  /-- A parked worker wakes up for no reason. -/
  | stir (role : Role) (index : Nat)
  | takeStop
  /-- The control checks whether the crawl is over. -/
  | sample
  /-- The control goes on with the end of the crawl. -/
  | proceed
  deriving Repr, DecidableEq

namespace Fetcher

def isLooking : Fetcher → Bool
  | looking => true
  | _ => false

def isAsleep : Fetcher → Bool
  | asleep => true
  | _ => false

def wake : Fetcher → Fetcher
  | asleep => woken
  | f => f

/-- Whether the thread has ended, and if so whether by a panic. -/
def ended? : Fetcher → Option Bool
  | exited => some false
  | dead => some true
  | _ => none

end Fetcher

namespace Worker

def isLooking : Worker → Bool
  | looking => true
  | _ => false

def wake : Worker → Worker
  | asleep => woken
  | w => w

def ended? : Worker → Option Bool
  | exited => some false
  | dead => some true
  | _ => none

end Worker

namespace Pool

variable {S σ α : Type}

def ofRun (run : Run S σ) (sizes : PoolSizes) : Pool S σ where
  run
  handoff := []
  parked := 0
  cancelled := false
  fetchers := List.replicate sizes.fetchers.toNat .seeking
  workers := List.replicate sizes.processors.toNat .seeking
  control := .waiting

def size (p : Pool S σ) : Nat := p.fetchers.length + p.workers.length

/-- Nobody holds the lock of the frontier. -/
def frontierFree (p : Pool S σ) : Bool := !p.fetchers.any Fetcher.isLooking

def handoffFree (p : Pool S σ) : Bool := !p.workers.any Worker.isLooking

def update (p : Pool S σ) (f : Core S → Core S) : Pool S σ := { p with run := p.run.update f }

def say (p : Pool S σ) (n : Note) : Pool S σ := p.update (·.say n)

def enter (p : Pool S σ) (d : Deed) : Pool S σ := p.update (·.enter d)

def tally (p : Pool S σ) (count : Statistics → Statistics) : Pool S σ := p.update (·.tally count)

def perform (p : Pool S σ) (act : Act σ α) : Outcome α × Pool S σ :=
  let (outcome, run) := p.run.perform act
  (outcome, { p with run })

def setFetcher (p : Pool S σ) (index : Nat) (f : Fetcher) : Pool S σ :=
  { p with fetchers := p.fetchers.set index f }

def setWorker (p : Pool S σ) (index : Nat) (w : Worker) : Pool S σ :=
  { p with workers := p.workers.set index w }

def wakeFetchers (p : Pool S σ) : Pool S σ := { p with fetchers := p.fetchers.map Fetcher.wake }

def wakeWorkers (p : Pool S σ) : Pool S σ := { p with workers := p.workers.map Worker.wake }

@[simp] theorem parked_update (p : Pool S σ) (f : Core S → Core S) :
    (p.update f).parked = p.parked := rfl

@[simp] theorem parked_say (p : Pool S σ) (n : Note) : (p.say n).parked = p.parked := rfl

@[simp] theorem parked_enter (p : Pool S σ) (d : Deed) : (p.enter d).parked = p.parked := rfl

@[simp] theorem parked_setFetcher (p : Pool S σ) (index : Nat) (f : Fetcher) :
    (p.setFetcher index f).parked = p.parked := rfl

@[simp] theorem parked_setWorker (p : Pool S σ) (index : Nat) (w : Worker) :
    (p.setWorker index w).parked = p.parked := rfl

@[simp] theorem parked_wakeFetchers (p : Pool S σ) : p.wakeFetchers.parked = p.parked := rfl

@[simp] theorem parked_wakeWorkers (p : Pool S σ) : p.wakeWorkers.parked = p.parked := rfl

theorem size_setFetcher (p : Pool S σ) (index : Nat) (f : Fetcher) :
    (p.setFetcher index f).size = p.size := by
  simp [size, setFetcher]

theorem size_setWorker (p : Pool S σ) (index : Nat) (w : Worker) :
    (p.setWorker index w).size = p.size := by
  simp [size, setWorker]

theorem size_wakeFetchers (p : Pool S σ) : p.wakeFetchers.size = p.size := by
  simp [size, wakeFetchers]

theorem size_wakeWorkers (p : Pool S σ) : p.wakeWorkers.size = p.size := by
  simp [size, wakeWorkers]

/-- Wakes one parked fetcher, if there is any; `none` if the named one is not the one to wake. -/
def wakeFetcher? (p : Pool S σ) (index : Nat) : Option (Pool S σ) :=
  if p.fetchers.any Fetcher.isAsleep then
    match p.fetchers[index]? with
    | some .asleep => some (p.setFetcher index .woken)
    | _ => none
  else some p

/-- A fetcher that has the lock checks for the cancellation. -/
def lookFetcher (p : Pool S σ) (index : Nat) : Pool S σ :=
  if p.cancelled then (p.setFetcher index .exited).say (.exiting .fetch)
  else p.setFetcher index .looking

def lookWorker (p : Pool S σ) (index : Nat) : Pool S σ :=
  if p.cancelled then (p.setWorker index .exited).say (.exiting .process)
  else p.setWorker index .looking

/-- A worker parks: it is counted before it gives its lock up. -/
def park (p : Pool S σ) (role : Role) : Pool S σ :=
  { p with parked := p.parked + 1 }.say (.parked role)

def unpark (p : Pool S σ) (role : Role) : Pool S σ :=
  { p with parked := p.parked - 1 }.say (.awoke role)

/-- A worker whose component panicked counts itself as parked for good. -/
def bury (p : Pool S σ) (role : Role) (index : Nat) : Pool S σ :=
  { p with parked := p.parked + 1 }.say (.workerPanicked role index)

/-- Every worker is parked and nothing is pending. -/
def quiescent [Frontier S] (p : Pool S σ) : Bool :=
  p.parked == p.size && Frontier.isEmpty p.run.core.frontier && p.handoff.isEmpty

variable [Frontier S]

def moveFetcher (downloader : Downloader σ) (p : Pool S σ) (index wakes : Nat) :
    Fetcher → Option (Pool S σ)
  | .seeking => if p.frontierFree then some (p.lookFetcher index) else none
  | .looking =>
    match p.run.core.poll with
    | (some r, core) => some ({ p with run := { p.run with core } }.setFetcher index (.starting r))
    | (none, core) =>
      some (({ p with run := { p.run with core } }.setFetcher index .asleep).park .fetch)
  | .asleep => none
  | .woken => if p.frontierFree then some ((p.unpark .fetch).lookFetcher index) else none
  | .starting r =>
    some (((p.say (.executing r.line)).tally (·.recordFetchStarted)).setFetcher index
      (.downloading r))
  | .downloading r =>
    match p.perform (downloader.download r) with
    | (.returned result, p) =>
      let p := p.enter (.downloaded 0 r result)
      match result with
      | .ok response => some (p.setFetcher index (.fetched response))
      | .error cause => some (p.setFetcher index (.failed r cause))
    | (.panicked _, p) => some ((p.enter (.lost r)).setFetcher index .unwinding)
  | .fetched response =>
    some ((p.tally (·.recordFetchSucceeded)).setFetcher index (.counted response))
  | .counted response =>
    some (((p.tally (·.recordStatus response.status)).say (.handingOff response.target)).setFetcher
      index (.handing response))
  | .handing response =>
    if p.handoffFree then
      some (({ p with handoff := p.handoff ++ [response] }.enter (.handedOff response)).setFetcher
        index .announcing)
    else none
  | .announcing => some (p.wakeWorkers.setFetcher index .seeking)
  | .failed r cause =>
    some (((p.say (.fetchFailed r.line cause)).tally (·.recordFetchFailed)).setFetcher index
      (.requeueing r))
  | .requeueing r =>
    if p.frontierFree then
      ((p.update (·.requeue r)).setFetcher index .seeking).wakeFetcher? wakes
    else none
  | .unwinding =>
    if p.frontierFree then some ((p.setFetcher index .dead).bury .fetch index) else none
  | .exited => none
  | .dead => none

def moveWorker (crew : Crew σ) (p : Pool S σ) (index : Nat) : Worker → Option (Pool S σ)
  | .seeking => if p.handoffFree then some (p.lookWorker index) else none
  | .looking =>
    match p.handoff with
    | response :: rest =>
      let p := { p with handoff := rest }.enter (.taken response)
      some ((p.say (.processing response.target)).setWorker index (.selecting response 0))
    | [] => some ((p.setWorker index .asleep).park .process)
  | .asleep => none
  | .woken => if p.handoffFree then some ((p.unpark .process).lookWorker index) else none
  | .selecting response k =>
    match crew.processors[k]? with
    | none => some ((p.say (.noProcessor response.target)).setWorker index (.dropping response))
    | some processor =>
      match p.perform (processor.supports response) with
      | (.returned verdict, p) =>
        let p := p.enter (.askedProcessor k response verdict)
        some (p.setWorker index
          (if verdict then .processing response k else .selecting response (k + 1)))
      | (.panicked _, p) => some ((p.enter (.lost response.request)).setWorker index .unwinding)
  | .dropping response =>
    some (((p.enter (.dropped response)).tally (·.recordUnprocessed)).setWorker index .seeking)
  | .processing response k =>
    match crew.processors[k]? with
    | none => none
    | some processor =>
      match p.perform (processor.process response) with
      | (.returned carrier, p) =>
        some ((p.enter (.processed k response carrier)).setWorker index (.publishing carrier))
      | (.panicked _, p) => some ((p.enter (.lost response.request)).setWorker index .unwinding)
  | .publishing carrier =>
    -- Where nothing was discovered, the lock is not asked for.
    if carrier.discovered.isEmpty || p.frontierFree then
      let (discovered, carrier) := carrier.takeRequests
      let (accepted, core) := p.run.core.pushDiscovered discovered
      let p := { p with run := { p.run with core } }
      let p := if accepted = 0 then p else p.wakeFetchers
      let p := p.say (.discovered carrier.request.target discovered.length accepted)
      some (p.setWorker index (.piping carrier 0))
    else none
  | .piping carrier k =>
    match crew.pipelines[k]? with
    | none => some (p.setWorker index (.finishing carrier))
    | some pipeline =>
      let total := crew.pipelines.length
      let p := p.say (.entersPipeline carrier.request.line pipeline.name (k + 1) total)
      match p.perform (pipeline.process carrier) with
      | (.returned verdict, p) =>
        let p := p.enter (.piped k carrier verdict)
        if verdict then some (p.setWorker index (.piping carrier (k + 1)))
        else
          some ((p.say (.chainStopped pipeline.name carrier.request.line)).setWorker index
            (.held carrier))
      | (.panicked _, p) => some ((p.enter (.lost carrier.request)).setWorker index .unwinding)
  | .held carrier =>
    some ((p.tally (·.recordShortCircuit)).setWorker index (.finishing carrier))
  | .finishing carrier =>
    some (((p.enter (.completed carrier)).tally (·.recordProcessed)).setWorker index .seeking)
  | .unwinding =>
    if p.handoffFree then some ((p.setWorker index .dead).bury .process index) else none
  | .exited => none
  | .dead => none

def joinNote (role : Role) (index : Nat) (byPanic : Bool) : Note :=
  if byPanic then .joinedPanic role index else .joined role index

def moveControl (p : Pool S σ) : Control → Option (Pool S σ)
  | .waiting => none
  | .cancelling =>
    some ({ p with cancelled := true, control := .wakingFetchers }.say (.cancelling p.size))
  | .wakingFetchers =>
    if p.frontierFree then some { p.wakeFetchers with control := .wakingProcessors } else none
  | .wakingProcessors =>
    if p.handoffFree then some { p.wakeWorkers with control := .joining .fetch 0 } else none
  | .joining .fetch index =>
    match p.fetchers[index]? with
    | none => some { p with control := .joining .process 0 }
    | some f => f.ended?.map fun byPanic =>
      { p with control := .joining .fetch (index + 1) }.say (joinNote .fetch index byPanic)
  | .joining .process index =>
    match p.workers[index]? with
    | none => some { p with control := .done }
    | some w => w.ended?.map fun byPanic =>
      { p with control := .joining .process (index + 1) }.say (joinNote .process index byPanic)
  | .done => none

/-- The control looks at the pool with both locks held. -/
def takeSample (p : Pool S σ) : Pool S σ :=
  let p := p.say (.sampled p.parked p.size (Frontier.size p.run.core.frontier) p.handoff.length)
  if p.quiescent then { p with control := .cancelling }.say .quiescent else p

/-- Makes a move, if it is possible. All fetchers share one downloader. -/
def advance (crew : Crew σ) (downloader : Downloader σ) (p : Pool S σ) :
    Move → Option (Pool S σ)
  | .fetch index wakes =>
    match p.fetchers[index]? with
    | some f => p.moveFetcher downloader index wakes f
    | none => none
  | .process index =>
    match p.workers[index]? with
    | some w => p.moveWorker crew index w
    | none => none
  | .stir .fetch index =>
    match p.fetchers[index]? with
    | some .asleep => some (p.setFetcher index .woken)
    | _ => none
  | .stir .process index =>
    match p.workers[index]? with
    | some .asleep => some (p.setWorker index .woken)
    | _ => none
  | .takeStop =>
    if p.control = .waiting ∧ 0 < p.run.core.stops then
      some ({ p with control := .cancelling }.update
        fun c => { c with stops := c.stops - 1 }.say .stopRequested)
    else none
  | .sample =>
    if p.control = .waiting ∧ p.frontierFree ∧ p.handoffFree then some p.takeSample else none
  | .proceed => p.moveControl p.control

def advanceAll (crew : Crew σ) (downloader : Downloader σ) (p : Pool S σ) :
    List Move → Option (Pool S σ)
  | [] => some p
  | m :: rest => (p.advance crew downloader m).bind fun p => p.advanceAll crew downloader rest

end Pool

end WebCrawl
