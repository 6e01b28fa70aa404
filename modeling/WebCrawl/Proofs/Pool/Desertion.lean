import WebCrawl.Proofs.Crawler.Release
import WebCrawl.Proofs.Pool.Ending

/-!
# When nobody is left

A panic counts its worker as parked for good, so that those who are left can still become quiescent.
But a sample also wants the frontier and the handoff queue empty, and what is in a queue when the
last of its workers dies, or gets into it later, stays there: the control samples forever. The crawl
ends exactly when both queues were drained in time.
-/

namespace WebCrawl

namespace Pool

variable {S σ : Type} [Frontier S] {crew : Crew σ} {d : Downloader σ} {p p' q : Pool S σ}

/-- Something is pending, but all those are dead who could see to it, and the others are idle. -/
structure Abandoned (p : Pool S σ) : Prop where
  waiting : p.control = .waiting
  on : p.cancelled = false
  fetchers : ∀ f ∈ p.fetchers, f.isIdle = true
  workers : ∀ w ∈ p.workers, w.isIdle = true
  unpolled : 0 < Frontier.size p.run.core.frontier → ∀ f ∈ p.fetchers, f = .dead
  untaken : p.handoff ≠ [] → ∀ w ∈ p.workers, w = .dead
  pending : 0 < Frontier.size p.run.core.frontier ∨ p.handoff ≠ []

namespace Abandoned

theorem quiescent [LawfulFrontier S] (h : Abandoned p) : p.quiescent = false := by
  rw [Bool.eq_false_iff]
  intro quiet
  simp only [Pool.quiescent, Bool.and_eq_true, beq_iff_eq, LawfulFrontier.isEmpty_iff,
    List.isEmpty_iff] at quiet
  obtain ⟨⟨-, frontier⟩, handoff⟩ := quiet
  rcases h.pending with pending | pending
  · omega
  · exact pending handoff

theorem frontier_empty (h : Abandoned p) {f : Fetcher} (hf : f ∈ p.fetchers) (live : f ≠ .dead) :
    Frontier.size p.run.core.frontier = 0 ∧ p.handoff ≠ [] := by
  have empty : Frontier.size p.run.core.frontier = 0 := by
    by_contra pending
    exact live (h.unpolled (Nat.pos_of_ne_zero pending) f hf)
  refine ⟨empty, ?_⟩
  rcases h.pending with pending | pending
  · omega
  · exact pending

theorem handoff_empty (h : Abandoned p) {w : Worker} (hw : w ∈ p.workers) (live : w ≠ .dead) :
    0 < Frontier.size p.run.core.frontier ∧ p.handoff = [] := by
  have empty : p.handoff = [] := by
    by_contra pending
    exact live (h.untaken pending w hw)
  refine ⟨?_, empty⟩
  rcases h.pending with pending | pending
  · exact pending
  · exact absurd empty pending

end Abandoned

variable [LawfulFrontier S]

theorem abandoned_of_fetcherStep {i wakes : Nat} {f : Fetcher} (h : Abandoned p)
    (here : p.fetchers[i]? = some f) (step : FetcherStep d p i wakes f p') : Abandoned p' := by
  have member := List.mem_of_getElem? here
  have idle := h.fetchers f member
  have live : f ≠ .dead := by
    rintro rfl
    cases step
  -- Some fetcher lives, so it is the handoff queue that nobody sees to.
  obtain ⟨empty, pending⟩ := h.frontier_empty member live
  cases step with
  | takes r s found =>
    have counted := LawfulFrontier.size_of_poll_some found
    omega
  | parks s dry =>
    have dried := (LawfulFrontier.size_of_dry_poll dry).2
    exact ⟨h.waiting, h.on, forall_mem_set h.fetchers rfl, h.workers,
      fun more => absurd dried (Nat.ne_of_gt more), h.untaken, .inr pending⟩
  | resumesAndLeaves free raised =>
    rw [h.on] at raised
    cases raised
  | resumes =>
    exact ⟨h.waiting, h.on, forall_mem_set h.fetchers rfl, h.workers,
      fun more => absurd empty (Nat.ne_of_gt more), h.untaken, .inr pending⟩
  | _ => cases idle

omit [LawfulFrontier S] in
theorem abandoned_of_workerStep {i : Nat} {w : Worker} (h : Abandoned p)
    (here : p.workers[i]? = some w) (step : WorkerStep crew p i w p') : Abandoned p' := by
  have member := List.mem_of_getElem? here
  have idle := h.workers w member
  have live : w ≠ .dead := by
    rintro rfl
    cases step
  obtain ⟨pending, empty⟩ := h.handoff_empty member live
  cases step with
  | takes response rest found =>
    rw [empty] at found
    cases found
  | resumesAndLeaves free raised =>
    rw [h.on] at raised
    cases raised
  | parks =>
    exact ⟨h.waiting, h.on, h.fetchers, forall_mem_set h.workers rfl, h.unpolled,
      fun more => absurd empty more, .inl pending⟩
  | resumes =>
    exact ⟨h.waiting, h.on, h.fetchers, forall_mem_set h.workers rfl, h.unpolled,
      fun more => absurd empty more, .inl pending⟩
  | _ => cases idle

/-- Whoever wakes up goes back to sleep, and no sample ends the waiting. -/
theorem abandoned_of_step {m : Move} (unstopped : m ≠ .takeStop) (h : Abandoned p)
    (step : Step crew d p m p') : Abandoned p' := by
  cases step with
  | fetch i wakes f _ here step => exact abandoned_of_fetcherStep h here step
  | process i w _ here step => exact abandoned_of_workerStep h here step
  | stirsFetcher i here =>
    have live : Fetcher.asleep ≠ .dead := by
      intro same
      cases same
    obtain ⟨empty, pending⟩ := h.frontier_empty (List.mem_of_getElem? here) live
    exact ⟨h.waiting, h.on, forall_mem_set h.fetchers rfl, h.workers,
      fun more => absurd empty (Nat.ne_of_gt more), h.untaken, .inr pending⟩
  | stirsWorker i here =>
    have live : Worker.asleep ≠ .dead := by
      intro same
      cases same
    obtain ⟨pending, empty⟩ := h.handoff_empty (List.mem_of_getElem? here) live
    exact ⟨h.waiting, h.on, h.fetchers, forall_mem_set h.workers rfl, h.unpolled,
      fun more => absurd empty more, .inl pending⟩
  | stops => exact absurd rfl unstopped
  | goesOn =>
    exact ⟨h.waiting, h.on, h.fetchers, h.workers, h.unpolled, h.untaken, h.pending⟩
  | ends _ _ _ quiet =>
    rw [h.quiescent] at quiet
    cases quiet
  | proceed _ step =>
    rw [h.waiting] at step
    cases step

theorem abandoned_of_advanceAll {moves : List Move} (unstopped : Move.takeStop ∉ moves)
    (start : Abandoned p) (h : p.advanceAll crew d moves = some q) : Abandoned q := by
  have all : ∀ m ∈ moves, m ≠ .takeStop := by
    rintro m member rfl
    exact unstopped member
  exact invariant_of_allowed abandoned_of_step all start h

theorem Parked.quiescent_iff (hp : Parked p) (restF : ∀ f ∈ p.fetchers, f = .asleep ∨ f = .dead)
    (restW : ∀ w ∈ p.workers, w = .asleep ∨ w = .dead) :
    p.quiescent = true ↔ Frontier.size p.run.core.frontier = 0 ∧ p.handoff = [] := by
  simp only [Pool.quiescent, hp.eq_size_of_rest restF restW, BEq.rfl, Bool.true_and,
    Bool.and_eq_true, LawfulFrontier.isEmpty_iff, List.isEmpty_iff]

omit [LawfulFrontier S] in
theorem Attended.abandoned (ha : Attended p) (restF : ∀ f ∈ p.fetchers, f = .asleep ∨ f = .dead)
    (restW : ∀ w ∈ p.workers, w = .asleep ∨ w = .dead) (waiting : p.control = .waiting)
    (on : p.cancelled = false)
    (pending : 0 < Frontier.size p.run.core.frontier ∨ p.handoff ≠ []) : Abandoned p := by
  refine ⟨waiting, on, ?_, ?_, ?_, ?_, pending⟩
  · intro f hf
    rcases restF f hf with rfl | rfl <;> rfl
  · intro w hw
    rcases restW w hw with rfl | rfl <;> rfl
  · intro pending f hf
    rcases restF f hf with rfl | dead
    · have empty := ha.frontier_empty restF ⟨_, hf, rfl⟩
      omega
    · exact dead
  · intro pending w hw
    rcases restW w hw with rfl | dead
    · exact absurd (ha.handoff_empty restF restW ⟨_, hw, rfl⟩) pending
    · exact dead

end Pool

namespace Crawler

variable {S σ : Type} [Frontier S] {c : Crawler S σ} {granted : Granted σ} {d : Downloader σ}
  {others : List (Downloader σ)} {world : σ} {sizes : PoolSizes} {before : List Move}
  {p : Pool S σ}

/-- However the interleaving goes on, the pool winds up, and when the control is done the start has
finished and every resource is closed. -/
def Concludes (c : Crawler S σ) (d : Downloader σ) (world : σ) (sizes : PoolSizes)
    (before : List Move) : Prop :=
  ∀ after p, (c.pool world sizes).advanceAll c.crew d (before ++ after) = some p →
    Pool.WindsUp c.crew d p ∧ (p.control = .done → ∀ fuel, ∃ run,
      c.startBy world (.along (before ++ after)) fuel =
        (.finished, ⟨run.core, .empty⟩, run.world) ∧
      Working.Closes c.crew.closes c.crew.closings
        (p.run.update fun core => { core with phase := .ended }) run)

/-- However the interleaving goes on, the start does not return, unless it is stopped. -/
def Hangs (c : Crawler S σ) (world : σ) (before : List Move) : Prop :=
  ∀ after, Move.takeStop ∉ after → ∀ fuel,
    (c.startBy world (.along (before ++ after)) fuel).1 = .unfinished

theorem concludes_of_begun (started : (c.change .start).1 = .ok granted)
    (returns : ∀ close ∈ c.crew.closes, close.Returns) (engine : c.core.engine = .pooled sizes)
    (first : c.crew.downloaders = d :: others)
    (reached : (c.pool world sizes).advanceAll c.crew d before = some p)
    (begun : p.control ≠ .waiting) : c.Concludes d world sizes before := by
  intro after q moved
  have onwards : p.advanceAll c.crew d after = some q := by
    rwa [Pool.advanceAll_append, reached] at moved
  have begun' : q.control ≠ .waiting := Pool.invariant_of_step Pool.begun_of_step begun onwards
  refine ⟨Pool.windsUp_of_reachable moved begun', ?_⟩
  intro done fuel
  exact (worked_of_done engine first moved done).released started returns

theorem hangs_of_abandoned [LawfulFrontier S] (initializing : c.phase = .initializing)
    (engine : c.core.engine = .pooled sizes) (first : c.crew.downloaders = d :: others)
    (reached : (c.pool world sizes).advanceAll c.crew d before = some p)
    (abandoned : p.Abandoned) : c.Hangs world before := by
  intro after unstopped fuel
  apply startBy_of_not_done fuel initializing engine first
  intro q moved done
  rw [Pool.advanceAll_append, reached] at moved
  have waiting := (Pool.abandoned_of_advanceAll unstopped abandoned moved).waiting
  cases waiting.symm.trans done

/-- Whoever has panicked, a pool in which no worker can move before the cancellation is quiescent
just when the frontier and the handoff queue are empty. Then the next sample ends the crawl: the
start returns, and the crew is released. Otherwise all fetchers or all process workers are dead, and
the start never returns by itself. -/
theorem ends_iff_drained [LawfulFrontier S] (c : Crawler S σ) (granted : Granted σ)
    (started : (c.change .start).1 = .ok granted)
    (returns : ∀ close ∈ c.crew.closes, close.Returns) (sizes : PoolSizes)
    (engine : c.core.engine = .pooled sizes) (d : Downloader σ) (others : List (Downloader σ))
    (first : c.crew.downloaders = d :: others) (world : σ) (before : List Move) (q : Pool S σ)
    (reached : (c.pool world sizes).advanceAll c.crew d before = some q)
    (on : q.cancelled = false) (stuck : Pool.Stuck c.crew d q) :
    (q.quiescent = true ↔ Frontier.size q.run.core.frontier = 0 ∧ q.handoff = []) ∧
    (q.control ≠ .waiting → c.Concludes d world sizes before) ∧
    (q.control = .waiting → q.quiescent = true →
      (∃ next, q.advance c.crew d .sample = some next) ∧
        c.Concludes d world sizes (before ++ [.sample])) ∧
    (q.control = .waiting → q.quiescent = false →
      ((∀ f ∈ q.fetchers, f = .dead) ∨ ∀ w ∈ q.workers, w = .dead) ∧ c.Hangs world before) := by
  have attended : q.Attended := Pool.attended_of_reachable reached on
  have parked : q.Parked := Pool.parked_of_reachable reached
  obtain ⟨restF, restW⟩ := stuck.rest attended (Pool.staffed_of_reachable reached)
  have drained := parked.quiescent_iff restF restW
  refine ⟨drained, ?_, ?_, ?_⟩
  · intro begun
    exact concludes_of_begun started returns engine first reached begun
  · intro waiting quiet
    have sampled : q.advance c.crew d .sample = some q.takeSample :=
      if_pos ⟨waiting, stuck.frontierFree, stuck.handoffFree⟩
    refine ⟨⟨_, sampled⟩, ?_⟩
    have reached' : (c.pool world sizes).advanceAll c.crew d (before ++ [.sample]) =
        some q.takeSample := by
      rw [Pool.advanceAll_append, reached]
      exact congrArg (Option.bind · some) sampled
    apply concludes_of_begun started returns engine first reached'
    have ending : q.takeSample.control = .cancelling := congrArg Pool.control (if_pos quiet)
    rw [ending]
    intro waiting
    cases waiting
  · intro waiting busy
    have pending : 0 < Frontier.size q.run.core.frontier ∨ q.handoff ≠ [] := by
      by_contra nothing
      obtain ⟨frontier, handoff⟩ := not_or.mp nothing
      rw [drained.mpr ⟨by omega, not_not.mp handoff⟩] at busy
      cases busy
    have abandoned := attended.abandoned restF restW waiting on pending
    refine ⟨?_, hangs_of_abandoned (initializing_of_started started).1 engine first reached
      abandoned⟩
    rcases pending with pending | pending
    · exact .inl (abandoned.unpolled pending)
    · exact .inr (abandoned.untaken pending)

/-- The page is fetched and the only process worker dies of it, while the fetcher goes to sleep. -/
def desertion : List Move := List.replicate 10 (.fetch 0 0) ++ List.replicate 5 (.process 0)

theorem ends_iff_drained_of_frailPool :
    ∃ q, (frailPool.pool () ⟨1, 1, default⟩).advanceAll frailCrew busyDownloader desertion =
        some q ∧
      q.cancelled = false ∧ q.workers = [.dead] ∧ Pool.Stuck frailCrew busyDownloader q ∧
      q.quiescent = true ∧
      frailPool.Concludes busyDownloader () ⟨1, 1, default⟩ (desertion ++ [.sample]) := by
  have end_of_run : ((frailPool.pool () ⟨1, 1, default⟩).advanceAll frailCrew busyDownloader
      desertion).map (fun q => (q.cancelled, q.control, q.quiescent, q.fetchers, q.workers)) =
        some (false, .waiting, true, [.asleep], [.dead]) := rfl
  obtain ⟨q, reached, values⟩ := Option.map_eq_some_iff.mp end_of_run
  obtain ⟨on, values⟩ := Prod.mk.inj values
  obtain ⟨waiting, values⟩ := Prod.mk.inj values
  obtain ⟨quiet, values⟩ := Prod.mk.inj values
  obtain ⟨fetchers, workers⟩ := Prod.mk.inj values
  have stuck : Pool.Stuck frailCrew busyDownloader q := by
    apply Pool.stuck_of_rest
    · simp [fetchers]
    · simp [workers]
  obtain ⟨-, -, ends, -⟩ := ends_iff_drained frailPool (.begun frailCrew) rfl
    returns_frailCrew ⟨1, 1, default⟩ rfl busyDownloader [] rfl () desertion q reached on stuck
  exact ⟨q, reached, on, workers, stuck, quiet, (ends waiting quiet).2⟩

def frailPair : Crawler (Layered Queue) Unit :=
  ⟨.new (.pooled ⟨1, 1, default⟩) (.bare (.ofList [.named "a", .named "b"])), frailCrew⟩

/-- The process worker dies of the first page, and the second one is left in the handoff queue. -/
def secondPage : List Move := desertion ++ List.replicate 8 (.fetch 0 0)

theorem hangs_of_second_page :
    ∃ q, (frailPair.pool () ⟨1, 1, default⟩).advanceAll frailCrew busyDownloader secondPage =
        some q ∧
      q.cancelled = false ∧ q.workers = [.dead] ∧ Pool.Stuck frailCrew busyDownloader q ∧
      q.quiescent = false ∧ frailPair.Hangs () secondPage := by
  have end_of_run : ((frailPair.pool () ⟨1, 1, default⟩).advanceAll frailCrew busyDownloader
      secondPage).map (fun q => (q.cancelled, q.control, q.quiescent, q.handoff.length,
        q.fetchers, q.workers)) = some (false, .waiting, false, 1, [.asleep], [.dead]) := rfl
  obtain ⟨q, reached, values⟩ := Option.map_eq_some_iff.mp end_of_run
  obtain ⟨on, values⟩ := Prod.mk.inj values
  obtain ⟨waiting, values⟩ := Prod.mk.inj values
  obtain ⟨busy, values⟩ := Prod.mk.inj values
  obtain ⟨handoff, values⟩ := Prod.mk.inj values
  obtain ⟨fetchers, workers⟩ := Prod.mk.inj values
  have restF : ∀ f ∈ q.fetchers, f = .asleep ∨ f = .dead := by simp [fetchers]
  have restW : ∀ w ∈ q.workers, w = .asleep ∨ w = .dead := by simp [workers]
  have left : q.handoff ≠ [] := by
    intro empty
    rw [empty] at handoff
    cases handoff
  have attended : q.Attended := Pool.attended_of_reachable reached on
  have abandoned := attended.abandoned restF restW waiting on (.inr left)
  exact ⟨q, reached, on, workers, Pool.stuck_of_rest restF restW, busy,
    hangs_of_abandoned rfl rfl rfl reached abandoned⟩

end Crawler

end WebCrawl
