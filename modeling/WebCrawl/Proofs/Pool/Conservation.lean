import WebCrawl.Proofs.Crawl.Outcome
import WebCrawl.Proofs.Pool.Agreement
import WebCrawl.Proofs.Pool.Flow

/-!
# No request is lost or doubled

Every accepted request is at every moment in exactly one place: in the frontier, in the hands of a
worker, in the handoff queue, or among the requests that are done with, for one of four reasons.
Each pair of counters that measures two ends of one stretch of the way differs by what is on that
stretch, so the counters agree once the pool is empty.
-/

namespace WebCrawl

namespace Deed

/-- After this deed a request is nowhere any more. -/
def isFarewell (d : Deed) : Bool := d.isCompletion || d.isDrop || (d.isLoss || d.isRefusal)

/-- After this deed a request is nowhere any more, and no counter tells. -/
def isWaste (d : Deed) : Bool := d.isLoss || d.isRefusal

theorem countP_isFarewell (deeds : List Deed) : deeds.countP isFarewell =
    deeds.countP isCompletion + deeds.countP isDrop +
      (deeds.countP isLoss + deeds.countP isRefusal) := by
  unfold isFarewell
  rw [countP_or_of_disjoint, countP_or_of_disjoint, countP_or_of_disjoint]
  · intro d
    cases d <;> rfl
  · intro d
    cases d <;> rfl
  · intro d
    cases d <;> rfl

end Deed

namespace Law

/-- Every accepted request is somewhere or has been said farewell to. -/
def requests : Law where
  held
    | .nowhere => false
    | .fetcher f => f.holds
    | .worker w => w.holds
    | _ => true
  gained := Event.isDeed Deed.isAdmission
  spent := Event.isDeed Deed.isFarewell
  wastes _ := false

/-- Between the counter of accepted requests and those of handled responses. -/
def handling : Law where
  held := requests.held
  gained := Event.raises .enqueued
  spent e := e.raises .processed || e.raises .unprocessed
  wastes := Event.isDeed Deed.isWaste

/-- Between the counter of started fetches and those of their results. -/
def fetching : Law where
  held
    | .fetcher (.downloading _) => true
    | .fetcher (.fetched _) => true
    | .fetcher (.failed ..) => true
    | _ => false
  gained := Event.raises .started
  spent e := e.raises .succeeded || e.raises .failed
  wastes := Event.isDeed Deed.isWaste

/-- Between the counter of successful fetches and those of handled responses. -/
def answering : Law where
  held
    | .fetcher (.counted _) => true
    | .fetcher (.handing _) => true
    | .handoff _ => true
    | .worker w => w.holds
    | _ => false
  gained := Event.raises .succeeded
  spent e := e.raises .processed || e.raises .unprocessed
  wastes := Event.isDeed Deed.isWaste

/-- Between the counter of successful fetches and the histogram. -/
def statuses : Law where
  held
    | .fetcher (.counted _) => true
    | _ => false
  gained := Event.raises .succeeded
  spent := Event.raises .statuses
  wastes := Event.isDeed Deed.isWaste

theorem Flow.of_waste {l : Law} {a b : Nat} {events : List Event} {e : Event}
    (le : b + events.countP l.spent ≤ a + events.countP l.gained) (here : e ∈ events)
    (waste : l.wastes e = true) : l.Flow a events b := by
  refine ⟨le, ?_⟩
  intro clean
  have no_waste := clean e here
  rw [waste] at no_waste
  cases no_waste

theorem kept_requests : requests.Kept where
  nowhere := rfl
  fetcher _ free := free
  worker _ free := free
  flow passes := by
    cases passes with
    | _ => exact .of_eq rfl

theorem kept_handling : handling.Kept where
  nowhere := rfl
  fetcher _ free := free
  worker _ free := free
  flow passes := by
    cases passes with
    | _ => first | exact .of_eq rfl | exact .of_waste (Nat.zero_le _) List.mem_cons_self rfl

theorem kept_fetching : fetching.Kept where
  nowhere := rfl
  fetcher f free := by
    cases f with
    | downloading | fetched | failed => cases free
    | _ => rfl
  worker _ _ := rfl
  flow passes := by
    cases passes with
    | _ => first | exact .of_eq rfl | exact .of_waste (Nat.zero_le _) List.mem_cons_self rfl

theorem kept_answering : answering.Kept where
  nowhere := rfl
  fetcher f free := by
    cases f with
    | counted | handing => cases free
    | _ => rfl
  worker _ free := free
  flow passes := by
    cases passes with
    | _ => first | exact .of_eq rfl | exact .of_waste (Nat.zero_le _) List.mem_cons_self rfl

theorem kept_statuses : statuses.Kept where
  nowhere := rfl
  fetcher f free := by
    cases f with
    | counted => cases free
    | _ => rfl
  worker _ _ := rfl
  flow passes := by
    cases passes with
    | _ => exact .of_eq rfl

section requests

variable {S σ : Type} [Frontier S] [ListedFrontier S]

theorem inFrontier_requests (s : S) :
    requests.inFrontier s = (ListedFrontier.pending s).length :=
  congrFun List.countP_true _

theorem stock_requests (p : Pool S σ) : requests.stock p =
    (ListedFrontier.pending p.run.core.frontier).length + p.fetchers.countP Fetcher.holds +
      p.handoff.length + p.workers.countP Worker.holds := by
  have handoff : requests.inHandoff p.handoff = p.handoff.length :=
    congrFun List.countP_true _
  rw [stock, inFrontier_requests, handoff]
  rfl

theorem inFrontier_of_unheld {l : Law} (unheld : ∀ r, l.held (.frontier r) = false) (s : S) :
    l.inFrontier s = 0 := by
  apply List.countP_eq_zero.mpr
  intro r _
  rw [unheld r]
  exact Bool.false_ne_true

end requests

end Law

namespace Event

theorem countP_raises_or {j k : Counter} (apart : j ≠ k) (events : List Event) :
    events.countP (fun e => e.raises j || e.raises k) =
      events.countP (raises j) + events.countP (raises k) := by
  apply countP_or_of_disjoint
  intro e
  cases e with
  | did d => rfl
  | counted n =>
    rw [Bool.eq_false_iff]
    intro both
    obtain ⟨hj, hk⟩ := Bool.and_eq_true_iff.mp both
    exact apart ((beq_iff_eq.mp hj).symm.trans (beq_iff_eq.mp hk))

theorem no_waste {events : List Event}
    (losses : (events.filterMap deed?).countP Deed.isLoss = 0)
    (refusals : (events.filterMap deed?).countP Deed.isRefusal = 0) :
    ∀ e ∈ events, isDeed Deed.isWaste e = false := by
  rw [countP_deeds, List.countP_eq_zero] at losses refusals
  intro e he
  have no_loss := losses e he
  have no_refusal := refusals e he
  cases e with
  | did d =>
    apply Bool.eq_false_iff.mpr
    intro waste
    rcases Bool.or_eq_true_iff.mp waste with loss | refusal
    · exact no_loss loss
    · exact no_refusal refusal
  | counted n => rfl

end Event

namespace Crawler

variable {S σ : Type} [Frontier S] {c c' : Crawler S σ} {world world' : σ} {sizes : PoolSizes}
  {d : Downloader σ}

theorem concluded_of_finished {moves : List Move} {fuel : Nat}
    (engine : c.core.engine = .pooled sizes) (only : c.crew.downloaders = [d])
    (finished : c.startBy world (.along moves) fuel = (.finished, c', world')) :
    ∃ q run, (c.pool world sizes).advanceAll c.crew d moves = some q ∧ q.control = .done ∧
      Working.conclude c.crew q.run = (.ok (), run) ∧ c'.core = run.core := by
  obtain ⟨initializing, run, ran, same⟩ := ran_of_finished finished
  obtain ⟨q, moved, done⟩ := done_of_finished initializing engine only finished
  have worked : (Schedule.along moves : Schedule S σ) c.crew d (c.pool world sizes) = q := by
    rw [Schedule.along, moved]
    rfl
  rw [crawl_of_pooled engine only, runPooled_of_done worked done] at ran
  obtain ⟨_, run', concluded, last⟩ := Working.bind_eq_ok ran
  cases last
  exact ⟨q, run, moved, done, concluded, same⟩

theorem passed_pool [ListedFrontier S] {moves : List Move} {q : Pool S σ}
    (moved : (c.pool world sizes).advanceAll c.crew d moves = some q) :
    ∃ events, Elapsed c.core q.run.core events ∧ ∀ {l : Law}, l.Kept →
      l.Flow (l.inFrontier c.core.frontier) events (l.stock q) := by
  obtain ⟨events, passed⟩ := Pool.passed_of_advanceAll moved
  have announced : Elapsed c.core (c.pool world sizes).run.core [] :=
    .of_same (Core.deeds_say _ _) rfl rfl
  refine ⟨events, announced.trans passed.elapsed, ?_⟩
  intro l kept
  have flow := passed.flow kept
  rwa [pool, Pool.stock_ofRun kept] at flow

end Crawler

namespace Pool

theorem counts_of_idle {S σ : Type} [Frontier S] [ListedFrontier S] {s : S} {q : Pool S σ}
    {events : List Event}
    (flow : ∀ {l : Law}, l.Kept → l.Flow (l.inFrontier s) events (l.stock q)) (idle : Idle q)
    (clean : ∀ e ∈ events, Event.isDeed Deed.isWaste e = false) :
    (ListedFrontier.pending s).length + events.countP (Event.raises .enqueued) =
        events.countP (Event.raises .succeeded) ∧
      events.countP (Event.raises .succeeded) =
        events.countP (Event.raises .processed) + events.countP (Event.raises .unprocessed) ∧
      events.countP (Event.raises .succeeded) = events.countP (Event.raises .statuses) ∧
      events.countP (Event.raises .started) =
        events.countP (Event.raises .succeeded) + events.countP (Event.raises .failed) := by
  have handled := (flow Law.kept_handling).eq clean
  have answered := (flow Law.kept_answering).eq clean
  have listed := (flow Law.kept_statuses).eq clean
  have fetched := (flow Law.kept_fetching).eq clean
  have pending : Law.handling.inFrontier s = (ListedFrontier.pending s).length :=
    Law.inFrontier_requests s
  rw [stock_of_idle Law.kept_handling idle, pending] at handled
  rw [stock_of_idle Law.kept_answering idle, Law.inFrontier_of_unheld fun _ => rfl] at answered
  rw [stock_of_idle Law.kept_statuses idle, Law.inFrontier_of_unheld fun _ => rfl] at listed
  rw [stock_of_idle Law.kept_fetching idle, Law.inFrontier_of_unheld fun _ => rfl] at fetched
  simp only [Law.handling, Law.answering, Law.statuses] at handled answered listed
  simp only [Law.fetching] at fetched
  rw [Event.countP_raises_or (by decide)] at handled answered fetched
  omega

variable {σ : Type}

/-- In a crawl with pools of workers no request is lost or doubled. At every moment the requests
that were pending at the start, and those accepted since, are as many as those in the frontier, in
the hands of the workers and in the handoff queue, those that are done with, and those lost to
panics and to refusals. So when the crawl ends because nothing is left to do, and neither a panic
nor a refusal has taken a request away, the counters of the run agree. -/
theorem conserves_requests (c : Crawler (Layered Store) σ) (sizes : PoolSizes)
    (engine : c.core.engine = .pooled sizes) (d : Downloader σ) (only : c.crew.downloaders = [d])
    (world : σ) (moves : List Move) :
    (∀ q, (c.pool world sizes).advanceAll c.crew d moves = some q →
      ∃ since, q.run.core.journal.deeds = c.core.journal.deeds ++ since ∧
        c.core.frontier.base.queue.pending.length + since.countP Deed.isAdmission =
          q.run.core.frontier.base.queue.pending.length + q.fetchers.countP Fetcher.holds +
            q.handoff.length + q.workers.countP Worker.holds + since.countP Deed.isCompletion +
            since.countP Deed.isDrop +
            (since.countP Deed.isLoss + since.countP Deed.isRefusal)) ∧
    (Move.takeStop ∉ moves → ∀ fuel c' world',
      c.startBy world (.along moves) fuel = (.finished, c', world') →
      ∃ since, c'.core.journal.deeds = c.core.journal.deeds ++ since ∧
        (since.countP Deed.isLoss = 0 → since.countP Deed.isRefusal = 0 →
          let risen := c'.core.stats.since c.core.stats
          .ofNat c.core.frontier.base.queue.pending.length + risen .enqueued =
              risen .succeeded ∧
            risen .succeeded = risen .processed + risen .unprocessed ∧
            risen .succeeded = risen .statuses ∧
            risen .started = risen .succeeded + risen .failed)) := by
  constructor
  · intro q moved
    obtain ⟨events, elapsed, flow⟩ := Crawler.passed_pool moved
    refine ⟨_, elapsed.deeds, ?_⟩
    have balance := (flow Law.kept_requests).eq fun _ _ => rfl
    have farewells := Deed.countP_isFarewell (events.filterMap Event.deed?)
    rw [Event.countP_deeds] at farewells
    rw [Law.inFrontier_requests, Law.stock_requests] at balance
    simp only [Law.requests, farewells] at balance
    rw [Event.countP_deeds Deed.isAdmission]
    show (ListedFrontier.pending c.core.frontier).length + _ =
      (ListedFrontier.pending q.run.core.frontier).length + _ + _ + _ + _ + _ + _
    omega
  · intro unstopped fuel c' world' finished
    obtain ⟨q, run, moved, done, concluded, same⟩ :=
      Crawler.concluded_of_finished engine only finished
    obtain ⟨events, elapsed, flow⟩ := Crawler.passed_pool moved
    obtain ⟨closed, released⟩ := Working.elapsed_of_conclude concluded
    have idle : Idle q := idle_of_ending unstopped moved fun waits => by cases done.symm.trans waits
    have whole := elapsed.trans released
    rw [same]
    refine ⟨_, whole.deeds, ?_⟩
    intro losses refusals
    rw [List.filterMap_append, List.countP_append, Nat.add_eq_zero_iff] at losses refusals
    obtain ⟨handled, answered, listed, fetched⟩ :=
      counts_of_idle flow idle (Event.no_waste losses.1 refusals.1)
    change c.core.frontier.base.queue.pending.length + _ = _ at handled
    simp only [whole.since_eq, List.countP_append, Working.countP_raises_closings, Nat.add_zero,
      ← UInt64.ofNat_add]
    rw [handled, ← answered, ← fetched, ← listed]
    exact ⟨rfl, rfl, rfl, rfl⟩

theorem countP_since_eq_zero {q : Deed → Bool} {before since after : List Deed}
    (deeds : after = before ++ since) (same : after.countP q = before.countP q) :
    since.countP q = 0 := by
  rw [deeds, List.countP_append] at same
  exact Nat.add_eq_left.mp same

/-- The circle over a queue with room for two requests. -/
def boundedCircle : Crawler (Layered Store) (String → Nat) :=
  .prepared (.pooled ⟨1, 1, Config.default.waitInterval⟩)
    ((Layered.bare ⟨.empty .fifo, some 2, false⟩).wrap .exact)
    (Conduct.circle.players Conduct.circleLinks) [.named "a"]

theorem conserves_requests_of_circle :
    boundedCircle.core.engine = .pooled ⟨1, 1, Config.default.waitInterval⟩ ∧
      boundedCircle.crew.downloaders = [Conduct.circle.playedDownloader] ∧
      ∃ c' world', boundedCircle.startBy Conduct.circle.failures (.along circleMoves) 0 =
          (.finished, c', world') ∧
        let risen := c'.core.stats.since boundedCircle.core.stats
        .ofNat boundedCircle.core.frontier.base.queue.pending.length + risen .enqueued =
            risen .succeeded ∧
          risen .succeeded = risen .processed + risen .unprocessed ∧
          risen .succeeded = risen .statuses ∧
          risen .started = risen .succeeded + risen .failed := by
  have ran : (boundedCircle.startBy Conduct.circle.failures (.along circleMoves) 0).1 =
      .finished := rfl
  refine ⟨rfl, rfl, _, _, Prod.ext ran rfl, ?_⟩
  obtain ⟨-, finishes⟩ := conserves_requests boundedCircle _ rfl _ rfl Conduct.circle.failures
    circleMoves
  obtain ⟨since, deeds, agree⟩ := finishes (by decide) 0 _ _ (Prod.ext ran rfl)
  have losses : since.countP Deed.isLoss = 0 := countP_since_eq_zero deeds rfl
  have refusals : since.countP Deed.isRefusal = 0 := countP_since_eq_zero deeds rfl
  exact agree losses refusals

end Pool

end WebCrawl
