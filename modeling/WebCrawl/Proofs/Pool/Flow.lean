import WebCrawl.Proofs.Crawl.Events
import WebCrawl.Proofs.Pool.Parking

/-!
# How work flows through a pool

A piece of work is a request that is pending, then what a fetcher has in hand, then a response in
the handoff queue, then what a process worker has in hand. Every step of a pool passes at most one
piece on, apart from the offers of what was discovered, which bring new ones in. `Passes` lists the
ways of passing with their events.

A law gives weight to places and to events. If every single way of passing respects it, then so
does every run: what is held weighs what was held, plus what was gained, less what was spent.
-/

namespace WebCrawl

/-- Where a piece of work can be. -/
inductive Place where
  | nowhere
  | frontier (r : Request)
  | fetcher (f : Fetcher)
  | handoff (response : Response)
  | worker (w : Worker)

/-- A piece of work goes from one place to another, and these events happen. -/
inductive Passes : Place → List Event → Place → Prop where
  | admits (r : Request) : Passes .nowhere (Event.offer r .queued) (.frontier r)
  | rejects (r : Request) (identity : String) :
      Passes .nowhere (Event.offer r (.duplicate identity)) .nowhere
  | turnsAway (r : Request) : Passes .nowhere (Event.offer r .refused) .nowhere
  | polls (r : Request) : Passes (.frontier r) [.did (.polled r)] (.fetcher (.starting r))
  | starts (r : Request) :
      Passes (.fetcher (.starting r)) [.counted .started] (.fetcher (.downloading r))
  | answers (r : Request) (response : Response) :
      Passes (.fetcher (.downloading r)) [.did (.downloaded 0 r (.ok response))]
        (.fetcher (.fetched response))
  | fails (r : Request) (cause : DownloadError) :
      Passes (.fetcher (.downloading r)) [.did (.downloaded 0 r (.error cause))]
        (.fetcher (.failed r cause))
  | losesRequest (r : Request) :
      Passes (.fetcher (.downloading r)) [.did (.lost r)] .nowhere
  | countsSuccess (response : Response) :
      Passes (.fetcher (.fetched response)) [.counted .succeeded] (.fetcher (.counted response))
  | countsStatus (response : Response) :
      Passes (.fetcher (.counted response)) [.counted (.status response.status)]
        (.fetcher (.handing response))
  | handsOff (response : Response) :
      Passes (.fetcher (.handing response)) [.did (.handedOff response)] (.handoff response)
  | countsFailure (r : Request) (cause : DownloadError) :
      Passes (.fetcher (.failed r cause)) [.counted .failed] (.fetcher (.requeueing r))
  | returns (r : Request) :
      Passes (.fetcher (.requeueing r)) [.did (.requeued r .queued)] (.frontier r)
  | rejectsReturn (r : Request) (identity : String) :
      Passes (.fetcher (.requeueing r)) [.did (.requeued r (.duplicate identity))] .nowhere
  | refusesReturn (r : Request) :
      Passes (.fetcher (.requeueing r)) [.did (.requeued r .refused)] .nowhere
  | takes (response : Response) :
      Passes (.handoff response) [.did (.taken response)] (.worker (.selecting response 0))
  | findsNone (response : Response) (k : Nat) :
      Passes (.worker (.selecting response k)) [] (.worker (.dropping response))
  | selects (response : Response) (k : Nat) :
      Passes (.worker (.selecting response k)) [.did (.askedProcessor k response true)]
        (.worker (.processing response k))
  | passesOver (response : Response) (k : Nat) :
      Passes (.worker (.selecting response k)) [.did (.askedProcessor k response false)]
        (.worker (.selecting response (k + 1)))
  | losesSelecting (response : Response) (k : Nat) :
      Passes (.worker (.selecting response k)) [.did (.lost response.request)] .nowhere
  | drops (response : Response) :
      Passes (.worker (.dropping response)) [.did (.dropped response), .counted .unprocessed]
        .nowhere
  | processes (response : Response) (k : Nat) (carrier : Carrier) :
      Passes (.worker (.processing response k)) [.did (.processed k response carrier)]
        (.worker (.publishing carrier))
  | losesProcessing (response : Response) (k : Nat) :
      Passes (.worker (.processing response k)) [.did (.lost response.request)] .nowhere
  | publishes (carrier : Carrier) :
      Passes (.worker (.publishing carrier)) [] (.worker (.piping carrier.takeRequests.2 0))
  | reachesEnd (carrier : Carrier) (k : Nat) :
      Passes (.worker (.piping carrier k)) [] (.worker (.finishing carrier))
  | passesOn (carrier : Carrier) (k : Nat) :
      Passes (.worker (.piping carrier k)) [.did (.piped k carrier true)]
        (.worker (.piping carrier (k + 1)))
  | holdsBack (carrier : Carrier) (k : Nat) :
      Passes (.worker (.piping carrier k)) [.did (.piped k carrier false)]
        (.worker (.held carrier))
  | losesCarrier (carrier : Carrier) (k : Nat) :
      Passes (.worker (.piping carrier k)) [.did (.lost carrier.request)] .nowhere
  | countsStop (carrier : Carrier) :
      Passes (.worker (.held carrier)) [.counted .shortCircuit] (.worker (.finishing carrier))
  | finishes (carrier : Carrier) :
      Passes (.worker (.finishing carrier)) [.did (.completed carrier), .counted .processed]
        .nowhere

/-- Which places and which events weigh something. A wasteful event may make weight vanish. -/
structure Law where
  held : Place → Bool
  gained : Event → Bool
  spent : Event → Bool
  wastes : Event → Bool

namespace Law

/-- From one weight to another while these events happen. -/
structure Flow (l : Law) (before : Nat) (events : List Event) (after : Nat) : Prop where
  le : after + events.countP l.spent ≤ before + events.countP l.gained
  eq : (∀ e ∈ events, l.wastes e = false) →
    before + events.countP l.gained = after + events.countP l.spent

namespace Flow

variable {l : Law} {a b c : Nat} {events events' : List Event}

theorem of_eq (h : a + events.countP l.gained = b + events.countP l.spent) :
    l.Flow a events b :=
  ⟨h.ge, fun _ => h⟩

theorem refl (a : Nat) : l.Flow a [] a := of_eq rfl

theorem append (h : l.Flow a events b) (h' : l.Flow b events' c) :
    l.Flow a (events ++ events') c := by
  have le := h.le
  have le' := h'.le
  constructor
  · rw [List.countP_append, List.countP_append]
    omega
  · intro clean
    have eq := h.eq fun e he => clean e (List.mem_append_left _ he)
    have eq' := h'.eq fun e he => clean e (List.mem_append_right _ he)
    rw [List.countP_append, List.countP_append]
    omega

/-- Weight that takes no part is on both sides. -/
theorem frame (h : l.Flow a events b) {x y : Nat} (same : y + a = x + b) :
    l.Flow x events y := by
  have le := h.le
  constructor
  · omega
  · intro clean
    have eq := h.eq clean
    omega

end Flow

/-- Every single way of passing respects the law. -/
structure Kept (l : Law) : Prop where
  nowhere : l.held .nowhere = false
  fetcher : ∀ f, f.holds = false → l.held (.fetcher f) = false
  worker : ∀ w, w.holds = false → l.held (.worker w) = false
  flow : ∀ {a events b}, Passes a events b → l.Flow (l.held a).toNat events (l.held b).toNat

variable {S σ : Type} (l : Law)

def inFetchers (fetchers : List Fetcher) : Nat := fetchers.countP fun f => l.held (.fetcher f)

def inHandoff (handoff : List Response) : Nat :=
  handoff.countP fun response => l.held (.handoff response)

def inWorkers (workers : List Worker) : Nat := workers.countP fun w => l.held (.worker w)

variable [Frontier S] [ListedFrontier S]

def inFrontier (s : S) : Nat := (ListedFrontier.pending s).countP fun r => l.held (.frontier r)

/-- What all places of a pool hold. -/
def stock (p : Pool S σ) : Nat :=
  l.inFrontier p.run.core.frontier + l.inFetchers p.fetchers + l.inHandoff p.handoff +
    l.inWorkers p.workers

variable {l}

theorem inFrontier_push (s : S) (r : Request) : l.inFrontier (Frontier.push s r).2 =
    l.inFrontier s + ((Frontier.push s r).1.accepted && l.held (.frontier r)).toNat := by
  unfold inFrontier
  rw [ListedFrontier.pending_push, List.countP_append, Admission.countP_added]

theorem inFrontier_requeue (s : S) (r : Request) : l.inFrontier (Frontier.requeue s r).2 =
    l.inFrontier s + ((Frontier.requeue s r).1.accepted && l.held (.frontier r)).toNat := by
  unfold inFrontier
  rw [ListedFrontier.pending_requeue, List.countP_append, Admission.countP_added]

theorem inFrontier_of_poll {s s' : S} {r : Request} (h : Frontier.poll s = (some r, s')) :
    l.inFrontier s = l.inFrontier s' + (l.held (.frontier r)).toNat := by
  unfold inFrontier
  rw [(ListedFrontier.pending_of_poll_some h).countP_eq, List.countP_cons]
  cases l.held (.frontier r) <;> rfl

theorem inFrontier_of_dry_poll {s s' : S} (h : Frontier.poll s = (none, s')) :
    l.inFrontier s' = l.inFrontier s := by
  obtain ⟨before, after⟩ := ListedFrontier.pending_of_dry_poll h
  unfold inFrontier
  rw [before, after]

omit [Frontier S] [ListedFrontier S]

theorem countP_set_add {α : Type} (q : α → Bool) {xs : List α} {i : Nat} {a : α} (b : α)
    (h : xs[i]? = some a) :
    (xs.set i b).countP q + (q a).toNat = xs.countP q + (q b).toNat := by
  have part := toNat_le_countP q h
  rw [countP_set_eq q b h]
  omega

variable (l)

theorem inFetchers_set {fetchers : List Fetcher} {i : Nat} {f : Fetcher} (f' : Fetcher)
    (here : fetchers[i]? = some f) :
    l.inFetchers (fetchers.set i f') + (l.held (.fetcher f)).toNat =
      l.inFetchers fetchers + (l.held (.fetcher f')).toNat :=
  countP_set_add _ f' here

theorem inWorkers_set {workers : List Worker} {i : Nat} {w : Worker} (w' : Worker)
    (here : workers[i]? = some w) :
    l.inWorkers (workers.set i w') + (l.held (.worker w)).toNat =
      l.inWorkers workers + (l.held (.worker w')).toNat :=
  countP_set_add _ w' here

theorem inHandoff_cons (response : Response) (rest : List Response) :
    l.inHandoff (response :: rest) =
      l.inHandoff rest + (l.held (.handoff response)).toNat := by
  unfold inHandoff
  rw [List.countP_cons]
  cases l.held (.handoff response) <;> rfl

theorem inHandoff_append (handoff : List Response) (response : Response) :
    l.inHandoff (handoff ++ [response]) =
      l.inHandoff handoff + (l.held (.handoff response)).toNat := by
  have last := l.inHandoff_cons response []
  unfold inHandoff at last ⊢
  rw [List.countP_append, last, List.countP_nil, Nat.zero_add]

variable {l}

namespace Kept

variable (kept : l.Kept)
include kept

theorem inFetchers_eq_zero {fetchers : List Fetcher} (free : ∀ f ∈ fetchers, f.holds = false) :
    l.inFetchers fetchers = 0 := by
  apply List.countP_eq_zero.mpr
  intro f hf
  rw [kept.fetcher f (free f hf)]
  exact Bool.false_ne_true

theorem inWorkers_eq_zero {workers : List Worker} (free : ∀ w ∈ workers, w.holds = false) :
    l.inWorkers workers = 0 := by
  apply List.countP_eq_zero.mpr
  intro w hw
  rw [kept.worker w (free w hw)]
  exact Bool.false_ne_true

theorem inFetchers_wake (fetchers : List Fetcher) :
    l.inFetchers (fetchers.map Fetcher.wake) = l.inFetchers fetchers := by
  apply countP_map_of_same
  intro f
  cases f with
  | asleep =>
    rw [kept.fetcher .asleep rfl]
    exact kept.fetcher .woken rfl
  | _ => rfl

theorem inWorkers_wake (workers : List Worker) :
    l.inWorkers (workers.map Worker.wake) = l.inWorkers workers := by
  apply countP_map_of_same
  intro w
  cases w with
  | asleep =>
    rw [kept.worker .asleep rfl]
    exact kept.worker .woken rfl
  | _ => rfl

theorem of_passes {a b : Place} {events : List Event} (passes : Passes a events b) {x y : Nat}
    (same : y + (l.held a).toNat = x + (l.held b).toNat) : l.Flow x events y :=
  (kept.flow passes).frame same

variable [Frontier S] [ListedFrontier S]

theorem push (s : S) (r : Request) : l.Flow (l.inFrontier s)
    (Event.offer r (Frontier.push s r).1) (l.inFrontier (Frontier.push s r).2) := by
  have grown := inFrontier_push (l := l) s r
  have nothing := kept.nowhere
  cases said : (Frontier.push s r).1 with
  | queued =>
    apply kept.of_passes (.admits r)
    rw [grown, said, nothing]
    rfl
  | duplicate identity =>
    apply kept.of_passes (.rejects r identity)
    rw [grown, said]
    rfl
  | refused =>
    apply kept.of_passes (.turnsAway r)
    rw [grown, said]
    rfl

theorem pushAll (s : S) (rs : List Request) : l.Flow (l.inFrontier s)
    (Event.offers rs (Frontier.pushAll s rs).1) (l.inFrontier (Frontier.pushAll s rs).2) := by
  induction rs generalizing s with
  | nil => exact .refl _
  | cons r rs ih => exact (kept.push s r).append (ih (Frontier.push s r).2)

theorem requeue (s : S) (r : Request) :
    l.Flow (l.inFrontier s + (l.held (.fetcher (.requeueing r))).toNat)
      [.did (.requeued r (Frontier.requeue s r).1)] (l.inFrontier (Frontier.requeue s r).2) := by
  have grown := inFrontier_requeue (l := l) s r
  have nothing := kept.nowhere
  cases said : (Frontier.requeue s r).1 with
  | queued =>
    rw [said, Admission.accepted_queued, Bool.true_and] at grown
    apply kept.of_passes (.returns r)
    omega
  | duplicate identity =>
    apply kept.of_passes (.rejectsReturn r identity)
    rw [grown, said, nothing]
    rfl
  | refused =>
    apply kept.of_passes (.refusesReturn r)
    rw [grown, said, nothing]
    rfl

end Kept

end Law

namespace Pool

variable {S σ : Type} [Frontier S] [ListedFrontier S] {crew : Crew σ} {d : Downloader σ}
  {p p' p'' : Pool S σ} {events events' : List Event}

theorem stock_ofRun {l : Law} (kept : l.Kept) (run : Run S σ) (sizes : PoolSizes) :
    l.stock (ofRun run sizes) = l.inFrontier run.core.frontier := by
  have fetchers : l.inFetchers (ofRun run sizes).fetchers = 0 := by
    apply kept.inFetchers_eq_zero
    intro f hf
    rw [List.eq_of_mem_replicate hf]
    rfl
  have workers : l.inWorkers (ofRun run sizes).workers = 0 := by
    apply kept.inWorkers_eq_zero
    intro w hw
    rw [List.eq_of_mem_replicate hw]
    rfl
  unfold Law.stock
  rw [fetchers, workers]
  rfl

theorem stock_of_idle {l : Law} (kept : l.Kept) (idle : Idle p) : l.stock p = 0 := by
  have pending : ListedFrontier.pending p.run.core.frontier = [] := by
    apply List.length_eq_zero_iff.mp
    rw [← ListedFrontier.size_eq]
    exact idle.frontier
  have fetchers : l.inFetchers p.fetchers = 0 :=
    kept.inFetchers_eq_zero fun f hf => Fetcher.holds_of_isIdle (idle.fetchers f hf)
  have workers : l.inWorkers p.workers = 0 :=
    kept.inWorkers_eq_zero fun w hw => Worker.holds_of_isIdle (idle.workers w hw)
  unfold Law.stock Law.inFrontier
  rw [pending, fetchers, workers, idle.handoff]
  rfl

/-- From one pool to the other these events happened, and every law was respected. -/
structure Passed (p p' : Pool S σ) (events : List Event) : Prop where
  elapsed : Elapsed p.run.core p'.run.core events
  flow : ∀ {l : Law}, l.Kept → l.Flow (l.stock p) events (l.stock p')

namespace Passed

theorem refl (p : Pool S σ) : Passed p p [] := ⟨.refl _, fun _ => .refl _⟩

theorem trans (h : Passed p p' events) (h' : Passed p' p'' events') :
    Passed p p'' (events ++ events') :=
  ⟨h.elapsed.trans h'.elapsed, fun kept => (h.flow kept).append (h'.flow kept)⟩

theorem of_rest (elapsed : Elapsed p.run.core p'.run.core [])
    (same : ∀ {l : Law}, l.Kept → l.stock p' = l.stock p) : Passed p p' [] := by
  refine ⟨elapsed, ?_⟩
  intro l kept
  rw [same kept]
  exact .refl _

theorem of_passes {a b : Place} (passes : Passes a events b)
    (elapsed : Elapsed p.run.core p'.run.core events)
    (same : ∀ {l : Law}, l.Kept →
      l.stock p' + (l.held a).toNat = l.stock p + (l.held b).toNat) : Passed p p' events :=
  ⟨elapsed, fun kept => kept.of_passes passes (same kept)⟩

/-- Of what laws weigh, only the fetcher with the index `i` is different. -/
structure OnlyFetcher (p p' : Pool S σ) (i : Nat) (f : Fetcher) : Prop where
  fetchers : p'.fetchers = p.fetchers.set i f
  frontier : p'.run.core.frontier = p.run.core.frontier
  handoff : p'.handoff = p.handoff
  workers : p'.workers = p.workers

structure OnlyWorker (p p' : Pool S σ) (i : Nat) (w : Worker) : Prop where
  workers : p'.workers = p.workers.set i w
  frontier : p'.run.core.frontier = p.run.core.frontier
  fetchers : p'.fetchers = p.fetchers
  handoff : p'.handoff = p.handoff

section fetcher

variable {i : Nat} {f f' : Fetcher} (here : p.fetchers[i]? = some f)
include here

theorem stock_fetcher {l : Law} (only : OnlyFetcher p p' i f') :
    l.stock p' + (l.held (.fetcher f)).toNat = l.stock p + (l.held (.fetcher f')).toNat := by
  have moved := l.inFetchers_set f' here
  unfold Law.stock
  rw [only.fetchers, only.frontier, only.handoff, only.workers]
  omega

theorem fetcher_rests (only : OnlyFetcher p p' i f') (free : f.holds = false)
    (free' : f'.holds = false) (elapsed : Elapsed p.run.core p'.run.core []) :
    Passed p p' [] := by
  refine of_rest elapsed ?_
  intro l kept
  have same := stock_fetcher here (l := l) only
  rw [kept.fetcher f free, kept.fetcher f' free'] at same
  exact same

theorem fetcher_passes (only : OnlyFetcher p p' i f')
    (passes : Passes (.fetcher f) events (.fetcher f'))
    (elapsed : Elapsed p.run.core p'.run.core events) : Passed p p' events :=
  of_passes passes elapsed fun _ => stock_fetcher here only

theorem fetcher_loses (only : OnlyFetcher p p' i f')
    (passes : Passes (.fetcher f) events .nowhere) (free' : f'.holds = false)
    (elapsed : Elapsed p.run.core p'.run.core events) : Passed p p' events := by
  refine of_passes passes elapsed ?_
  intro l kept
  rw [kept.nowhere, ← kept.fetcher f' free']
  exact stock_fetcher here only

end fetcher

section worker

variable {i : Nat} {w w' : Worker} (here : p.workers[i]? = some w)
include here

theorem stock_worker {l : Law} (only : OnlyWorker p p' i w') :
    l.stock p' + (l.held (.worker w)).toNat = l.stock p + (l.held (.worker w')).toNat := by
  have moved := l.inWorkers_set w' here
  unfold Law.stock
  rw [only.fetchers, only.frontier, only.handoff, only.workers]
  omega

theorem worker_rests (only : OnlyWorker p p' i w') (free : w.holds = false)
    (free' : w'.holds = false) (elapsed : Elapsed p.run.core p'.run.core []) :
    Passed p p' [] := by
  refine of_rest elapsed ?_
  intro l kept
  have same := stock_worker here (l := l) only
  rw [kept.worker w free, kept.worker w' free'] at same
  exact same

theorem worker_passes (only : OnlyWorker p p' i w')
    (passes : Passes (.worker w) events (.worker w'))
    (elapsed : Elapsed p.run.core p'.run.core events) : Passed p p' events :=
  of_passes passes elapsed fun _ => stock_worker here only

theorem worker_loses (only : OnlyWorker p p' i w')
    (passes : Passes (.worker w) events .nowhere) (free' : w'.holds = false)
    (elapsed : Elapsed p.run.core p'.run.core events) : Passed p p' events := by
  refine of_passes passes elapsed ?_
  intro l kept
  rw [kept.nowhere, ← kept.worker w' free']
  exact stock_worker here only

end worker

theorem wakeFetchers (p : Pool S σ) : Passed p p.wakeFetchers [] := by
  refine of_rest (.refl _) ?_
  intro l kept
  have same := kept.inFetchers_wake p.fetchers
  unfold Law.stock Pool.wakeFetchers
  rw [same]

theorem wakeWorkers (p : Pool S σ) : Passed p p.wakeWorkers [] := by
  refine of_rest (.refl _) ?_
  intro l kept
  have same := kept.inWorkers_wake p.workers
  unfold Law.stock Pool.wakeWorkers
  rw [same]

theorem requeue {i : Nat} (r : Request) (here : p.fetchers[i]? = some (.requeueing r)) :
    Passed p { p with
        run := p.run.update (·.requeue r)
        fetchers := p.fetchers.set i .seeking }
      [.did (.requeued r (Frontier.requeue p.run.core.frontier r).1)] := by
  refine ⟨.requeue _ r, ?_⟩
  intro l kept
  apply (kept.requeue p.run.core.frontier r).frame
  have moved := l.inFetchers_set .seeking here
  rw [kept.fetcher .seeking rfl, Bool.toNat_false] at moved
  simp only [Law.stock, Run.core_update, Core.frontier_requeue]
  omega

theorem pushDiscovered (p : Pool S σ) (rs : List Request) :
    Passed p (p.update fun c => (c.pushDiscovered rs).2)
      (Event.offers rs (Frontier.pushAll p.run.core.frontier rs).1) := by
  refine ⟨.pushDiscovered _ rs, ?_⟩
  intro l kept
  apply (kept.pushAll p.run.core.frontier rs).frame
  simp only [Law.stock, Pool.update, Run.core_update, Core.frontier_pushDiscovered]
  omega

end Passed

theorem passed_of_fetcherStep {i wakes : Nat} {f : Fetcher} (here : p.fetchers[i]? = some f)
    (step : FetcherStep d p i wakes f p') : ∃ events, Passed p p' events := by
  cases step with
  | leaves =>
    exact ⟨_, .fetcher_rests here ⟨rfl, rfl, rfl, rfl⟩ rfl rfl (.say _ _)⟩
  | looks =>
    exact ⟨_, .fetcher_rests here ⟨rfl, rfl, rfl, rfl⟩ rfl rfl (.refl _)⟩
  | takes r s found =>
    refine ⟨_, .of_passes (.polls r) (.poll found) ?_⟩
    intro l kept
    have moved := l.inFetchers_set (.starting r) here
    have polled := Law.inFrontier_of_poll (l := l) found
    rw [kept.fetcher .looking rfl, Bool.toNat_false] at moved
    simp only [Law.stock, Run.core_update, Core.frontier_enter]
    omega
  | parks s dry =>
    refine ⟨_, .of_rest ((Elapsed.dryPoll dry).trans (.say _ _)) ?_⟩
    intro l kept
    have moved := l.inFetchers_set .asleep here
    have polled := Law.inFrontier_of_dry_poll (l := l) dry
    rw [kept.fetcher .looking rfl, kept.fetcher .asleep rfl] at moved
    simp only [Law.stock, Run.core_update, Core.frontier_say]
    omega
  | resumesAndLeaves =>
    exact ⟨_, .fetcher_rests here ⟨rfl, rfl, rfl, rfl⟩ rfl rfl
      ((Elapsed.say _ _).trans (.say _ _))⟩
  | resumes =>
    exact ⟨_, .fetcher_rests here ⟨rfl, rfl, rfl, rfl⟩ rfl rfl (.say _ _)⟩
  | starts r =>
    exact ⟨_, .fetcher_passes here ⟨rfl, rfl, rfl, rfl⟩ (.starts r)
      ((Elapsed.say _ _).trans (.tally _ .started))⟩
  | answers r response ok =>
    exact ⟨_, .fetcher_passes here ⟨rfl, rfl, rfl, rfl⟩ (.answers r response)
      ((Elapsed.perform _ _).trans (.enter _ _ rfl))⟩
  | fails r cause error =>
    exact ⟨_, .fetcher_passes here ⟨rfl, rfl, rfl, rfl⟩ (.fails r cause)
      ((Elapsed.perform _ _).trans (.enter _ _ rfl))⟩
  | panics r message panicked =>
    exact ⟨_, .fetcher_loses here ⟨rfl, rfl, rfl, rfl⟩ (.losesRequest r) rfl
      ((Elapsed.perform _ _).trans (.enter _ _ rfl))⟩
  | countsSuccess response =>
    exact ⟨_, .fetcher_passes here ⟨rfl, rfl, rfl, rfl⟩ (.countsSuccess response)
      (.tally _ .succeeded)⟩
  | countsStatus response =>
    exact ⟨_, .fetcher_passes here ⟨rfl, rfl, rfl, rfl⟩ (.countsStatus response)
      ((Elapsed.tally _ (.status response.status)).trans (.say _ _))⟩
  | handsOff response free =>
    refine ⟨_, .of_passes (.handsOff response) (.enter _ _ rfl) ?_⟩
    intro l kept
    have moved := l.inFetchers_set .announcing here
    have grown := l.inHandoff_append p.handoff response
    rw [kept.fetcher .announcing rfl, Bool.toNat_false] at moved
    simp only [Law.stock, Run.core_update, Core.frontier_enter]
    omega
  | announces =>
    have rests : Passed p { p with fetchers := p.fetchers.set i .seeking } [] :=
      .fetcher_rests here ⟨rfl, rfl, rfl, rfl⟩ rfl rfl (.refl _)
    exact ⟨_, rests.trans (.wakeWorkers _)⟩
  | countsFailure r cause =>
    exact ⟨_, .fetcher_passes here ⟨rfl, rfl, rfl, rfl⟩ (.countsFailure r cause)
      ((Elapsed.say _ _).trans (.tally _ .failed))⟩
  | requeues r free nobody => exact ⟨_, .requeue r here⟩
  | requeuesAndWakes r free sleeper =>
    have woken : Passed { p with
        run := p.run.update (·.requeue r)
        fetchers := p.fetchers.set i .seeking } { p with
        run := p.run.update (·.requeue r)
        fetchers := (p.fetchers.set i .seeking).set wakes .woken } [] :=
      .fetcher_rests sleeper ⟨rfl, rfl, rfl, rfl⟩ rfl rfl (.refl _)
    exact ⟨_, (Passed.requeue r here).trans woken⟩
  | dies =>
    exact ⟨_, .fetcher_rests here ⟨rfl, rfl, rfl, rfl⟩ rfl rfl (.say _ _)⟩

omit [ListedFrontier S] in
theorem elapsed_entering {α : Type} (p : Pool S σ) (crew : Crew σ) (carrier : Carrier) (k : Nat)
    (pipeline : Pipeline σ) (act : Act σ α) :
    Elapsed p.run.core ((p.entering crew carrier k pipeline).perform act).2.core [] :=
  (Elapsed.say _ _).trans (.perform (p.entering crew carrier k pipeline) act)

theorem passed_of_workerStep {i : Nat} {w : Worker} (here : p.workers[i]? = some w)
    (step : WorkerStep crew p i w p') : ∃ events, Passed p p' events := by
  cases step with
  | leaves =>
    exact ⟨_, .worker_rests here ⟨rfl, rfl, rfl, rfl⟩ rfl rfl (.say _ _)⟩
  | looks =>
    exact ⟨_, .worker_rests here ⟨rfl, rfl, rfl, rfl⟩ rfl rfl (.refl _)⟩
  | takes response rest found =>
    refine ⟨_, .of_passes (.takes response) ((Elapsed.enter _ _ rfl).trans (.say _ _)) ?_⟩
    intro l kept
    have moved := l.inWorkers_set (.selecting response 0) here
    have shrunk := l.inHandoff_cons response rest
    rw [kept.worker .looking rfl, Bool.toNat_false] at moved
    simp only [Law.stock, Run.core_update, Core.frontier_say, Core.frontier_enter, found]
    omega
  | parks dry =>
    exact ⟨_, .worker_rests here ⟨rfl, rfl, rfl, rfl⟩ rfl rfl (.say _ _)⟩
  | resumesAndLeaves =>
    exact ⟨_, .worker_rests here ⟨rfl, rfl, rfl, rfl⟩ rfl rfl
      ((Elapsed.say _ _).trans (.say _ _))⟩
  | resumes =>
    exact ⟨_, .worker_rests here ⟨rfl, rfl, rfl, rfl⟩ rfl rfl (.say _ _)⟩
  | findsNone response k none =>
    exact ⟨_, .worker_passes here ⟨rfl, rfl, rfl, rfl⟩ (.findsNone response k) (.say _ _)⟩
  | selects response k processor asked yes =>
    exact ⟨_, .worker_passes here ⟨rfl, rfl, rfl, rfl⟩ (.selects response k)
      ((Elapsed.perform _ _).trans (.enter _ _ rfl))⟩
  | passesOver response k processor asked no =>
    exact ⟨_, .worker_passes here ⟨rfl, rfl, rfl, rfl⟩ (.passesOver response k)
      ((Elapsed.perform _ _).trans (.enter _ _ rfl))⟩
  | panicsSelecting response k processor message asked panicked =>
    exact ⟨_, .worker_loses here ⟨rfl, rfl, rfl, rfl⟩ (.losesSelecting response k) rfl
      ((Elapsed.perform _ _).trans (.enter _ _ rfl))⟩
  | drops response =>
    exact ⟨_, .worker_loses here ⟨rfl, rfl, rfl, rfl⟩ (.drops response) rfl
      ((Elapsed.enter _ _ rfl).trans (.tally _ .unprocessed))⟩
  | processes response k processor carrier asked done =>
    exact ⟨_, .worker_passes here ⟨rfl, rfl, rfl, rfl⟩ (.processes response k carrier)
      ((Elapsed.perform _ _).trans (.enter _ _ rfl))⟩
  | panicsProcessing response k processor message asked panicked =>
    exact ⟨_, .worker_loses here ⟨rfl, rfl, rfl, rfl⟩ (.losesProcessing response k) rfl
      ((Elapsed.perform _ _).trans (.enter _ _ rfl))⟩
  | publishes carrier free =>
    have pushed := Passed.pushDiscovered p carrier.discovered
    have told {q : Pool S σ} (n : Note) : q.workers[i]? = some (.publishing carrier) →
        Passed q ((q.say n).setWorker i (.piping carrier.takeRequests.2 0)) [] := fun here' =>
      .worker_passes here' ⟨rfl, rfl, rfl, rfl⟩ (.publishes carrier) (.say _ _)
    split
    · exact ⟨_, pushed.trans (told _ here)⟩
    · exact ⟨_, (pushed.trans (.wakeFetchers _)).trans (told _ here)⟩
  | reachesEnd carrier k none =>
    exact ⟨_, .worker_passes here ⟨rfl, rfl, rfl, rfl⟩ (.reachesEnd carrier k) (.refl _)⟩
  | passesOn carrier k pipeline next yes =>
    exact ⟨_, .worker_passes here ⟨rfl, rfl, rfl, rfl⟩ (.passesOn carrier k)
      ((elapsed_entering _ _ _ _ _ _).trans (.enter _ _ rfl))⟩
  | holdsBack carrier k pipeline next no =>
    exact ⟨_, .worker_passes here ⟨rfl, rfl, rfl, rfl⟩ (.holdsBack carrier k)
      (((elapsed_entering _ _ _ _ _ _).trans (.enter _ _ rfl)).trans (.say _ _))⟩
  | panicsPiping carrier k pipeline message next panicked =>
    exact ⟨_, .worker_loses here ⟨rfl, rfl, rfl, rfl⟩ (.losesCarrier carrier k) rfl
      ((elapsed_entering _ _ _ _ _ _).trans (.enter _ _ rfl))⟩
  | countsStop carrier =>
    exact ⟨_, .worker_passes here ⟨rfl, rfl, rfl, rfl⟩ (.countsStop carrier)
      (.tally _ .shortCircuit)⟩
  | finishes carrier =>
    exact ⟨_, .worker_loses here ⟨rfl, rfl, rfl, rfl⟩ (.finishes carrier) rfl
      ((Elapsed.enter _ _ rfl).trans (.tally _ .processed))⟩
  | dies =>
    exact ⟨_, .worker_rests here ⟨rfl, rfl, rfl, rfl⟩ rfl rfl (.say _ _)⟩

theorem passed_of_controlStep {c : Control} (step : ControlStep p c p') : Passed p p' [] := by
  cases step with
  | wakesFetchers => exact (Passed.wakeFetchers p).trans (.of_rest (.refl _) fun _ => rfl)
  | wakesProcessors => exact (Passed.wakeWorkers p).trans (.of_rest (.refl _) fun _ => rfl)
  | joinedFetchers => exact .of_rest (.refl _) fun _ => rfl
  | joinedWorkers => exact .of_rest (.refl _) fun _ => rfl
  | _ => exact .of_rest (.say _ _) fun _ => rfl

theorem passed_of_step {m : Move} (step : Step crew d p m p') :
    ∃ events, Passed p p' events := by
  cases step with
  | fetch i wakes f _ here step => exact passed_of_fetcherStep here step
  | process i w _ here step => exact passed_of_workerStep here step
  | stirsFetcher i here =>
    exact ⟨_, .fetcher_rests here ⟨rfl, rfl, rfl, rfl⟩ rfl rfl (.refl _)⟩
  | stirsWorker i here =>
    exact ⟨_, .worker_rests here ⟨rfl, rfl, rfl, rfl⟩ rfl rfl (.refl _)⟩
  | stops => exact ⟨_, .of_rest (.of_same (Core.deeds_say _ _) rfl rfl) fun _ => rfl⟩
  | goesOn => exact ⟨_, .of_rest (.say _ _) fun _ => rfl⟩
  | ends => exact ⟨_, .of_rest ((Elapsed.say _ _).trans (.say _ _)) fun _ => rfl⟩
  | proceed _ step => exact ⟨_, passed_of_controlStep step⟩

/-- However the moves of a pool are interleaved, every law is respected. -/
theorem passed_of_advanceAll {moves : List Move} (h : p.advanceAll crew d moves = some p') :
    ∃ events, Passed p p' events := by
  refine invariant_of_step (I := fun q => ∃ events, Passed p q events) ?_ ⟨[], .refl p⟩ h
  intro q m q' ⟨events, passed⟩ step
  obtain ⟨events', passed'⟩ := passed_of_step step
  exact ⟨events ++ events', passed.trans passed'⟩

end Pool

end WebCrawl
