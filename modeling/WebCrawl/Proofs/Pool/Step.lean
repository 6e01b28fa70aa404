import WebCrawl.Crawl.Pool

/-!
# What one move of a pool does

The moves of `Pool.advance`, one constructor for each branch, with the conditions of the branch and
the pool it leaves behind. `step_of_advance` says that there are no others, `invariant_of_step` that
what every step keeps holds along every interleaving. Invariants are proved from these two and never
open `advance` again.
-/

namespace WebCrawl

namespace Pool

variable {S σ : Type} [Frontier S]

/-- The steps of the fetcher with the index `i`, from each of its phases. -/
inductive FetcherStep (d : Downloader σ) (p : Pool S σ) (i wakes : Nat) :
    Fetcher → Pool S σ → Prop where
  | leaves (free : p.frontierFree = true) (raised : p.cancelled = true) :
      FetcherStep d p i wakes .seeking
        { p with
          run := p.run.update (·.say (.exiting .fetch))
          fetchers := p.fetchers.set i .exited }
  | looks (free : p.frontierFree = true) (on : p.cancelled = false) :
      FetcherStep d p i wakes .seeking { p with fetchers := p.fetchers.set i .looking }
  | takes (r : Request) (s : S) (found : Frontier.poll p.run.core.frontier = (some r, s)) :
      FetcherStep d p i wakes .looking
        { p with
          run := p.run.update fun c => { c with frontier := s }.enter (.polled r)
          fetchers := p.fetchers.set i (.starting r) }
  | parks (s : S) (dry : Frontier.poll p.run.core.frontier = (none, s)) :
      FetcherStep d p i wakes .looking
        { p with
          run := p.run.update fun c => { c with frontier := s }.say (.parked .fetch)
          parked := p.parked + 1
          fetchers := p.fetchers.set i .asleep }
  | resumesAndLeaves (free : p.frontierFree = true) (raised : p.cancelled = true) :
      FetcherStep d p i wakes .woken
        { p with
          run := p.run.update fun c => (c.say (.awoke .fetch)).say (.exiting .fetch)
          parked := p.parked - 1
          fetchers := p.fetchers.set i .exited }
  | resumes (free : p.frontierFree = true) (on : p.cancelled = false) :
      FetcherStep d p i wakes .woken
        { p with
          run := p.run.update (·.say (.awoke .fetch))
          parked := p.parked - 1
          fetchers := p.fetchers.set i .looking }
  | starts (r : Request) :
      FetcherStep d p i wakes (.starting r)
        { p with
          run := p.run.update fun c => (c.say (.executing r.line)).tally (·.recordFetchStarted)
          fetchers := p.fetchers.set i (.downloading r) }
  | answers (r : Request) (response : Response)
      (ok : (p.run.perform (d.download r)).1 = .returned (.ok response)) :
      FetcherStep d p i wakes (.downloading r)
        { p with
          run := (p.run.perform (d.download r)).2.update (·.enter (.downloaded 0 r (.ok response)))
          fetchers := p.fetchers.set i (.fetched response) }
  | fails (r : Request) (cause : DownloadError)
      (error : (p.run.perform (d.download r)).1 = .returned (.error cause)) :
      FetcherStep d p i wakes (.downloading r)
        { p with
          run := (p.run.perform (d.download r)).2.update
            (·.enter (.downloaded 0 r (.error cause)))
          fetchers := p.fetchers.set i (.failed r cause) }
  | panics (r : Request) (message : String)
      (panicked : (p.run.perform (d.download r)).1 = .panicked message) :
      FetcherStep d p i wakes (.downloading r)
        { p with
          run := (p.run.perform (d.download r)).2.update (·.enter (.lost r))
          fetchers := p.fetchers.set i .unwinding }
  | countsSuccess (response : Response) :
      FetcherStep d p i wakes (.fetched response)
        { p with
          run := p.run.update (·.tally (·.recordFetchSucceeded))
          fetchers := p.fetchers.set i (.counted response) }
  | countsStatus (response : Response) :
      FetcherStep d p i wakes (.counted response)
        { p with
          run := p.run.update fun c =>
            (c.tally (·.recordStatus response.status)).say (.handingOff response.target)
          fetchers := p.fetchers.set i (.handing response) }
  | handsOff (response : Response) (free : p.handoffFree = true) :
      FetcherStep d p i wakes (.handing response)
        { p with
          run := p.run.update (·.enter (.handedOff response))
          handoff := p.handoff ++ [response]
          fetchers := p.fetchers.set i .announcing }
  | announces :
      FetcherStep d p i wakes .announcing
        { p with
          workers := p.workers.map Worker.wake
          fetchers := p.fetchers.set i .seeking }
  | countsFailure (r : Request) (cause : DownloadError) :
      FetcherStep d p i wakes (.failed r cause)
        { p with
          run := p.run.update fun c =>
            (c.say (.fetchFailed r.line cause)).tally (·.recordFetchFailed)
          fetchers := p.fetchers.set i (.requeueing r) }
  | requeues (r : Request) (free : p.frontierFree = true)
      (nobody : (p.fetchers.set i .seeking).any Fetcher.isAsleep = false) :
      FetcherStep d p i wakes (.requeueing r)
        { p with
          run := p.run.update (·.requeue r)
          fetchers := p.fetchers.set i .seeking }
  | requeuesAndWakes (r : Request) (free : p.frontierFree = true)
      (sleeper : (p.fetchers.set i .seeking)[wakes]? = some .asleep) :
      FetcherStep d p i wakes (.requeueing r)
        { p with
          run := p.run.update (·.requeue r)
          fetchers := (p.fetchers.set i .seeking).set wakes .woken }
  | dies (free : p.frontierFree = true) :
      FetcherStep d p i wakes .unwinding
        { p with
          run := p.run.update (·.say (.workerPanicked .fetch i))
          parked := p.parked + 1
          fetchers := p.fetchers.set i .dead }

def entering (p : Pool S σ) (crew : Crew σ) (carrier : Carrier) (k : Nat)
    (pipeline : Pipeline σ) : Run S σ :=
  p.run.update (·.say
    (.entersPipeline carrier.request.line pipeline.name (k + 1) crew.pipelines.length))

omit [Frontier S] in
@[simp] theorem core_entering (p : Pool S σ) (crew : Crew σ) (carrier : Carrier) (k : Nat)
    (pipeline : Pipeline σ) : (p.entering crew carrier k pipeline).core = p.run.core.say
      (.entersPipeline carrier.request.line pipeline.name (k + 1) crew.pipelines.length) := rfl

/-- The steps of the process worker with the index `i`, from each of its phases. -/
inductive WorkerStep (crew : Crew σ) (p : Pool S σ) (i : Nat) : Worker → Pool S σ → Prop where
  | leaves (free : p.handoffFree = true) (raised : p.cancelled = true) :
      WorkerStep crew p i .seeking
        { p with
          run := p.run.update (·.say (.exiting .process))
          workers := p.workers.set i .exited }
  | looks (free : p.handoffFree = true) (on : p.cancelled = false) :
      WorkerStep crew p i .seeking { p with workers := p.workers.set i .looking }
  | takes (response : Response) (rest : List Response) (found : p.handoff = response :: rest) :
      WorkerStep crew p i .looking
        { p with
          run := p.run.update fun c =>
            (c.enter (.taken response)).say (.processing response.target)
          handoff := rest
          workers := p.workers.set i (.selecting response 0) }
  | parks (dry : p.handoff = []) :
      WorkerStep crew p i .looking
        { p with
          run := p.run.update (·.say (.parked .process))
          parked := p.parked + 1
          workers := p.workers.set i .asleep }
  | resumesAndLeaves (free : p.handoffFree = true) (raised : p.cancelled = true) :
      WorkerStep crew p i .woken
        { p with
          run := p.run.update fun c => (c.say (.awoke .process)).say (.exiting .process)
          parked := p.parked - 1
          workers := p.workers.set i .exited }
  | resumes (free : p.handoffFree = true) (on : p.cancelled = false) :
      WorkerStep crew p i .woken
        { p with
          run := p.run.update (·.say (.awoke .process))
          parked := p.parked - 1
          workers := p.workers.set i .looking }
  | findsNone (response : Response) (k : Nat) (none : crew.processors[k]? = none) :
      WorkerStep crew p i (.selecting response k)
        { p with
          run := p.run.update (·.say (.noProcessor response.target))
          workers := p.workers.set i (.dropping response) }
  | selects (response : Response) (k : Nat) (processor : Processor σ)
      (asked : crew.processors[k]? = some processor)
      (yes : (p.run.perform (processor.supports response)).1 = .returned true) :
      WorkerStep crew p i (.selecting response k)
        { p with
          run := (p.run.perform (processor.supports response)).2.update
            (·.enter (.askedProcessor k response true))
          workers := p.workers.set i (.processing response k) }
  | passesOver (response : Response) (k : Nat) (processor : Processor σ)
      (asked : crew.processors[k]? = some processor)
      (no : (p.run.perform (processor.supports response)).1 = .returned false) :
      WorkerStep crew p i (.selecting response k)
        { p with
          run := (p.run.perform (processor.supports response)).2.update
            (·.enter (.askedProcessor k response false))
          workers := p.workers.set i (.selecting response (k + 1)) }
  | panicsSelecting (response : Response) (k : Nat) (processor : Processor σ) (message : String)
      (asked : crew.processors[k]? = some processor)
      (panicked : (p.run.perform (processor.supports response)).1 = .panicked message) :
      WorkerStep crew p i (.selecting response k)
        { p with
          run := (p.run.perform (processor.supports response)).2.update
            (·.enter (.lost response.request))
          workers := p.workers.set i .unwinding }
  | drops (response : Response) :
      WorkerStep crew p i (.dropping response)
        { p with
          run := p.run.update fun c => (c.enter (.dropped response)).tally (·.recordUnprocessed)
          workers := p.workers.set i .seeking }
  | processes (response : Response) (k : Nat) (processor : Processor σ) (carrier : Carrier)
      (asked : crew.processors[k]? = some processor)
      (done : (p.run.perform (processor.process response)).1 = .returned carrier) :
      WorkerStep crew p i (.processing response k)
        { p with
          run := (p.run.perform (processor.process response)).2.update
            (·.enter (.processed k response carrier))
          workers := p.workers.set i (.publishing carrier) }
  | panicsProcessing (response : Response) (k : Nat) (processor : Processor σ) (message : String)
      (asked : crew.processors[k]? = some processor)
      (panicked : (p.run.perform (processor.process response)).1 = .panicked message) :
      WorkerStep crew p i (.processing response k)
        { p with
          run := (p.run.perform (processor.process response)).2.update
            (·.enter (.lost response.request))
          workers := p.workers.set i .unwinding }
  | publishes (carrier : Carrier)
      (free : carrier.discovered.isEmpty = true ∨ p.frontierFree = true) :
      WorkerStep crew p i (.publishing carrier)
        { p with
          run := p.run.update fun c => (c.pushDiscovered carrier.discovered).2.say
            (.discovered carrier.request.target carrier.discovered.length
              (c.pushDiscovered carrier.discovered).1)
          fetchers := if (p.run.core.pushDiscovered carrier.discovered).1 = 0 then p.fetchers
            else p.fetchers.map Fetcher.wake
          workers := p.workers.set i (.piping carrier.takeRequests.2 0) }
  | reachesEnd (carrier : Carrier) (k : Nat) (none : crew.pipelines[k]? = none) :
      WorkerStep crew p i (.piping carrier k)
        { p with workers := p.workers.set i (.finishing carrier) }
  | passesOn (carrier : Carrier) (k : Nat) (pipeline : Pipeline σ)
      (next : crew.pipelines[k]? = some pipeline)
      (yes : ((p.entering crew carrier k pipeline).perform (pipeline.process carrier)).1 =
        .returned true) :
      WorkerStep crew p i (.piping carrier k)
        { p with
          run := ((p.entering crew carrier k pipeline).perform (pipeline.process carrier)).2.update
            (·.enter (.piped k carrier true))
          workers := p.workers.set i (.piping carrier (k + 1)) }
  | holdsBack (carrier : Carrier) (k : Nat) (pipeline : Pipeline σ)
      (next : crew.pipelines[k]? = some pipeline)
      (no : ((p.entering crew carrier k pipeline).perform (pipeline.process carrier)).1 =
        .returned false) :
      WorkerStep crew p i (.piping carrier k)
        { p with
          run := ((p.entering crew carrier k pipeline).perform (pipeline.process carrier)).2.update
            fun c => (c.enter (.piped k carrier false)).say
              (.chainStopped pipeline.name carrier.request.line)
          workers := p.workers.set i (.held carrier) }
  | panicsPiping (carrier : Carrier) (k : Nat) (pipeline : Pipeline σ) (message : String)
      (next : crew.pipelines[k]? = some pipeline)
      (panicked : ((p.entering crew carrier k pipeline).perform (pipeline.process carrier)).1 =
        .panicked message) :
      WorkerStep crew p i (.piping carrier k)
        { p with
          run := ((p.entering crew carrier k pipeline).perform (pipeline.process carrier)).2.update
            (·.enter (.lost carrier.request))
          workers := p.workers.set i .unwinding }
  | countsStop (carrier : Carrier) :
      WorkerStep crew p i (.held carrier)
        { p with
          run := p.run.update (·.tally (·.recordShortCircuit))
          workers := p.workers.set i (.finishing carrier) }
  | finishes (carrier : Carrier) :
      WorkerStep crew p i (.finishing carrier)
        { p with
          run := p.run.update fun c =>
            (c.enter (.completed carrier)).tally (·.recordProcessed)
          workers := p.workers.set i .seeking }
  | dies (free : p.handoffFree = true) :
      WorkerStep crew p i .unwinding
        { p with
          run := p.run.update (·.say (.workerPanicked .process i))
          parked := p.parked + 1
          workers := p.workers.set i .dead }

omit [Frontier S] in
/-- The steps of the control once the end has begun. -/
inductive ControlStep (p : Pool S σ) : Control → Pool S σ → Prop where
  | cancels :
      ControlStep p .cancelling
        { p with
          run := p.run.update (·.say (.cancelling p.size))
          cancelled := true
          control := .wakingFetchers }
  | wakesFetchers (free : p.frontierFree = true) :
      ControlStep p .wakingFetchers
        { p with fetchers := p.fetchers.map Fetcher.wake, control := .wakingProcessors }
  | wakesProcessors (free : p.handoffFree = true) :
      ControlStep p .wakingProcessors
        { p with workers := p.workers.map Worker.wake, control := .joining .fetch 0 }
  | joinsFetcher (k : Nat) (f : Fetcher) (byPanic : Bool) (next : p.fetchers[k]? = some f)
      (ended : f.ended? = some byPanic) :
      ControlStep p (.joining .fetch k)
        { p with
          run := p.run.update (·.say (joinNote .fetch k byPanic))
          control := .joining .fetch (k + 1) }
  | joinedFetchers (k : Nat) (none : p.fetchers[k]? = none) :
      ControlStep p (.joining .fetch k) { p with control := .joining .process 0 }
  | joinsWorker (k : Nat) (w : Worker) (byPanic : Bool) (next : p.workers[k]? = some w)
      (ended : w.ended? = some byPanic) :
      ControlStep p (.joining .process k)
        { p with
          run := p.run.update (·.say (joinNote .process k byPanic))
          control := .joining .process (k + 1) }
  | joinedWorkers (k : Nat) (none : p.workers[k]? = none) :
      ControlStep p (.joining .process k) { p with control := .done }

def sampleNote (p : Pool S σ) : Note :=
  .sampled p.parked p.size (Frontier.size p.run.core.frontier) p.handoff.length

/-- The steps of a pool, by the moves they are made by. -/
inductive Step (crew : Crew σ) (d : Downloader σ) (p : Pool S σ) : Move → Pool S σ → Prop where
  | fetch (i wakes : Nat) (f : Fetcher) (p' : Pool S σ) (here : p.fetchers[i]? = some f)
      (step : FetcherStep d p i wakes f p') : Step crew d p (.fetch i wakes) p'
  | process (i : Nat) (w : Worker) (p' : Pool S σ) (here : p.workers[i]? = some w)
      (step : WorkerStep crew p i w p') : Step crew d p (.process i) p'
  | stirsFetcher (i : Nat) (here : p.fetchers[i]? = some .asleep) :
      Step crew d p (.stir .fetch i) { p with fetchers := p.fetchers.set i .woken }
  | stirsWorker (i : Nat) (here : p.workers[i]? = some .asleep) :
      Step crew d p (.stir .process i) { p with workers := p.workers.set i .woken }
  | stops (waiting : p.control = .waiting) (asked : 0 < p.run.core.stops) :
      Step crew d p .takeStop
        { p with
          run := p.run.update fun c => { c with stops := c.stops - 1 }.say .stopRequested
          control := .cancelling }
  | goesOn (waiting : p.control = .waiting) (freeFrontier : p.frontierFree = true)
      (freeHandoff : p.handoffFree = true) (busy : p.quiescent = false) :
      Step crew d p .sample { p with run := p.run.update (·.say p.sampleNote) }
  | ends (waiting : p.control = .waiting) (freeFrontier : p.frontierFree = true)
      (freeHandoff : p.handoffFree = true) (quiet : p.quiescent = true) :
      Step crew d p .sample
        { p with
          run := p.run.update fun c => (c.say p.sampleNote).say .quiescent
          control := .cancelling }
  | proceed (p' : Pool S σ) (step : ControlStep p p.control p') : Step crew d p .proceed p'

variable {crew : Crew σ} {d : Downloader σ} {p p' : Pool S σ}

theorem fetcherStep_of_moveFetcher {i wakes : Nat} {f : Fetcher}
    (h : p.moveFetcher d i wakes f = some p') : FetcherStep d p i wakes f p' := by
  cases f with
  | seeking =>
    obtain ⟨free, h⟩ := Option.ite_none_right_eq_some.mp h
    cases h
    unfold lookFetcher
    split
    · exact .leaves free ‹_›
    · exact .looks free (Bool.eq_false_iff.mpr ‹_›)
  | looking =>
    simp only [moveFetcher, Core.poll] at h
    cases hp : Frontier.poll p.run.core.frontier with
    | mk found s =>
      cases found with
      | none =>
        rw [hp] at h
        cases h
        exact .parks s hp
      | some r =>
        rw [hp] at h
        cases h
        exact .takes r s hp
  | asleep => cases h
  | woken =>
    obtain ⟨free, h⟩ := Option.ite_none_right_eq_some.mp h
    cases h
    unfold lookFetcher
    split
    · exact .resumesAndLeaves free ‹_›
    · exact .resumes free (Bool.eq_false_iff.mpr ‹_›)
  | starting r =>
    cases h
    exact .starts r
  | downloading r =>
    simp only [moveFetcher, perform] at h
    cases ho : (p.run.perform (d.download r)).1 with
    | returned result =>
      cases result with
      | ok response =>
        rw [ho] at h
        cases h
        exact .answers r response ho
      | error cause =>
        rw [ho] at h
        cases h
        exact .fails r cause ho
    | panicked message =>
      rw [ho] at h
      cases h
      exact .panics r message ho
  | fetched response =>
    cases h
    exact .countsSuccess response
  | counted response =>
    cases h
    exact .countsStatus response
  | handing response =>
    obtain ⟨free, h⟩ := Option.ite_none_right_eq_some.mp h
    cases h
    exact .handsOff response free
  | announcing =>
    cases h
    exact .announces
  | failed r cause =>
    cases h
    exact .countsFailure r cause
  | requeueing r =>
    obtain ⟨free, h⟩ := Option.ite_none_right_eq_some.mp h
    simp only [wakeFetcher?] at h
    split at h
    · split at h
      · rename_i sleeper
        cases h
        exact .requeuesAndWakes r free sleeper
      · cases h
    · rename_i nobody
      cases h
      exact .requeues r free (Bool.eq_false_iff.mpr nobody)
  | unwinding =>
    obtain ⟨free, h⟩ := Option.ite_none_right_eq_some.mp h
    cases h
    exact .dies free
  | exited => cases h
  | dead => cases h

theorem workerStep_of_moveWorker {i : Nat} {w : Worker}
    (h : p.moveWorker crew i w = some p') : WorkerStep crew p i w p' := by
  cases w with
  | seeking =>
    obtain ⟨free, h⟩ := Option.ite_none_right_eq_some.mp h
    cases h
    unfold lookWorker
    split
    · exact .leaves free ‹_›
    · exact .looks free (Bool.eq_false_iff.mpr ‹_›)
  | looking =>
    simp only [moveWorker] at h
    split at h
    · rename_i response rest found
      cases h
      exact .takes response rest found
    · rename_i dry
      cases h
      exact .parks dry
  | asleep => cases h
  | woken =>
    obtain ⟨free, h⟩ := Option.ite_none_right_eq_some.mp h
    cases h
    unfold lookWorker
    split
    · exact .resumesAndLeaves free ‹_›
    · exact .resumes free (Bool.eq_false_iff.mpr ‹_›)
  | selecting response k =>
    simp only [moveWorker, perform] at h
    cases hk : crew.processors[k]? with
    | none =>
      rw [hk] at h
      cases h
      exact .findsNone response k hk
    | some processor =>
      rw [hk] at h
      cases ho : (p.run.perform (processor.supports response)).1 with
      | returned verdict =>
        cases verdict <;> simp only [ho] at h <;> cases h
        · exact .passesOver response k processor hk ho
        · exact .selects response k processor hk ho
      | panicked message =>
        simp only [ho] at h
        cases h
        exact .panicsSelecting response k processor message hk ho
  | dropping response =>
    cases h
    exact .drops response
  | processing response k =>
    simp only [moveWorker, perform] at h
    cases hk : crew.processors[k]? with
    | none =>
      rw [hk] at h
      cases h
    | some processor =>
      rw [hk] at h
      cases ho : (p.run.perform (processor.process response)).1 with
      | returned carrier =>
        simp only [ho] at h
        cases h
        exact .processes response k processor carrier hk ho
      | panicked message =>
        simp only [ho] at h
        cases h
        exact .panicsProcessing response k processor message hk ho
  | publishing carrier =>
    simp only [moveWorker, Option.ite_none_right_eq_some] at h
    obtain ⟨free, h⟩ := h
    cases h
    have step : WorkerStep crew p i (.publishing carrier) _ :=
      .publishes carrier (Bool.or_eq_true_iff.mp free)
    by_cases none : (p.run.core.pushDiscovered carrier.takeRequests.1).1 = 0
    · rw [if_pos none]
      rw [if_pos (show (p.run.core.pushDiscovered carrier.discovered).1 = 0 from none)] at step
      exact step
    · rw [if_neg none]
      rw [if_neg (show ¬ (p.run.core.pushDiscovered carrier.discovered).1 = 0 from none)] at step
      exact step
  | piping carrier k =>
    simp only [moveWorker] at h
    cases hk : crew.pipelines[k]? with
    | none =>
      rw [hk] at h
      cases h
      exact .reachesEnd carrier k hk
    | some pipeline =>
      rw [hk] at h
      simp only [perform] at h
      cases ho : ((p.entering crew carrier k pipeline).perform (pipeline.process carrier)).1 with
      | returned verdict =>
        cases verdict
        · simp only [say, update, entering] at h ho
          simp only [ho] at h
          cases h
          exact .holdsBack carrier k pipeline hk ho
        · simp only [say, update, entering] at h ho
          simp only [ho] at h
          cases h
          exact .passesOn carrier k pipeline hk ho
      | panicked message =>
        simp only [say, update, entering] at h ho
        simp only [ho] at h
        cases h
        exact .panicsPiping carrier k pipeline message hk ho
  | held carrier =>
    cases h
    exact .countsStop carrier
  | finishing carrier =>
    cases h
    exact .finishes carrier
  | unwinding =>
    obtain ⟨free, h⟩ := Option.ite_none_right_eq_some.mp h
    cases h
    exact .dies free
  | exited => cases h
  | dead => cases h

omit [Frontier S] in
theorem controlStep_of_moveControl {c : Control} (h : p.moveControl c = some p') :
    ControlStep p c p' := by
  cases c with
  | waiting => cases h
  | cancelling =>
    cases h
    exact .cancels
  | wakingFetchers =>
    obtain ⟨free, h⟩ := Option.ite_none_right_eq_some.mp h
    cases h
    exact .wakesFetchers free
  | wakingProcessors =>
    obtain ⟨free, h⟩ := Option.ite_none_right_eq_some.mp h
    cases h
    exact .wakesProcessors free
  | joining role k =>
    cases role with
    | fetch =>
      simp only [moveControl] at h
      split at h
      · rename_i none
        cases h
        exact .joinedFetchers k none
      · rename_i f next
        obtain ⟨byPanic, ended, rfl⟩ := Option.map_eq_some_iff.mp h
        exact .joinsFetcher k f byPanic next ended
    | process =>
      simp only [moveControl] at h
      split at h
      · rename_i none
        cases h
        exact .joinedWorkers k none
      · rename_i w next
        obtain ⟨byPanic, ended, rfl⟩ := Option.map_eq_some_iff.mp h
        exact .joinsWorker k w byPanic next ended
  | done => cases h

/-- Every move that is possible is one of the steps. -/
theorem step_of_advance {m : Move} (h : p.advance crew d m = some p') : Step crew d p m p' := by
  cases m with
  | fetch i wakes =>
    simp only [advance] at h
    split at h
    · rename_i f here
      exact .fetch i wakes f p' here (fetcherStep_of_moveFetcher h)
    · cases h
  | process i =>
    simp only [advance] at h
    split at h
    · rename_i w here
      exact .process i w p' here (workerStep_of_moveWorker h)
    · cases h
  | stir role i =>
    cases role with
    | fetch =>
      simp only [advance] at h
      split at h
      · rename_i here
        cases h
        exact .stirsFetcher i here
      · cases h
    | process =>
      simp only [advance] at h
      split at h
      · rename_i here
        cases h
        exact .stirsWorker i here
      · cases h
  | takeStop =>
    obtain ⟨⟨waiting, asked⟩, h⟩ := Option.ite_none_right_eq_some.mp h
    cases h
    exact .stops waiting asked
  | sample =>
    obtain ⟨⟨waiting, freeFrontier, freeHandoff⟩, h⟩ := Option.ite_none_right_eq_some.mp h
    cases h
    simp only [takeSample]
    split
    · rename_i quiet
      exact .ends waiting freeFrontier freeHandoff quiet
    · rename_i busy
      exact .goesOn waiting freeFrontier freeHandoff (Bool.eq_false_iff.mpr busy)
  | proceed => exact .proceed p' (controlStep_of_moveControl h)

theorem advanceAll_append (xs ys : List Move) :
    p.advanceAll crew d (xs ++ ys) = (p.advanceAll crew d xs).bind (·.advanceAll crew d ys) := by
  induction xs generalizing p with
  | nil => rfl
  | cons m xs ih =>
    rw [List.cons_append, advanceAll, advanceAll]
    cases p.advance crew d m with
    | none => rfl
    | some p => exact ih

/-- What every step by one of the allowed moves keeps holds along every interleaving of them. -/
theorem invariant_of_allowed {I : Pool S σ → Prop} {allowed : Move → Prop}
    (keeps : ∀ {p m p'}, allowed m → I p → Step crew d p m p' → I p') {moves : List Move}
    {q : Pool S σ} (all : ∀ m ∈ moves, allowed m) (start : I p)
    (h : p.advanceAll crew d moves = some q) : I q := by
  induction moves generalizing p with
  | nil =>
    cases h
    exact start
  | cons m rest ih =>
    obtain ⟨p', hm, hrest⟩ := Option.bind_eq_some_iff.mp h
    have next : I p' := keeps (all m List.mem_cons_self) start (step_of_advance hm)
    exact ih (fun m hm => all m (List.mem_cons_of_mem _ hm)) next hrest

/-- What every step keeps holds along every interleaving. -/
theorem invariant_of_step {I : Pool S σ → Prop}
    (keeps : ∀ {p m p'}, I p → Step crew d p m p' → I p') {moves : List Move} {q : Pool S σ}
    (start : I p) (h : p.advanceAll crew d moves = some q) : I q := by
  have keeps' : ∀ {p m p'}, True → I p → Step crew d p m p' → I p' := fun _ => keeps
  exact invariant_of_allowed keeps' (fun _ _ => trivial) start h

theorem control_of_fetcherStep {i wakes : Nat} {f : Fetcher}
    (step : FetcherStep d p i wakes f p') : p'.control = p.control := by
  cases step <;> rfl

theorem control_of_workerStep {i : Nat} {w : Worker} (step : WorkerStep crew p i w p') :
    p'.control = p.control := by
  cases step <;> rfl

theorem phase_of_step {m : Move} (step : Step crew d p m p') :
    p'.run.core.phase = p.run.core.phase := by
  cases step with
  | fetch i wakes f _ here step => cases step <;> simp
  | process i w _ here step => cases step <;> simp
  | proceed _ step =>
    generalize p.control = c at step
    cases step <;> simp
  | _ => simp

end Pool

end WebCrawl
