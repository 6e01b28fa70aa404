import WebCrawl.Proofs.Pool.Flow

/-!
# The counters of a pool against its workers

At any moment in between the counters of a pool differ, and what they differ by can be seen in the
phases of the workers and in the handoff queue. A fetch that was started and has no result yet is in
the hands of a fetcher, and a response that was fetched and is not dealt with yet is with a fetcher,
in the queue, or with a process worker. Workers that were lost to a panic take theirs with them.
-/

namespace WebCrawl

namespace Fetcher

/-- Has polled a request and not yet counted the fetch as started. -/
def isStarting : Fetcher → Bool
  | starting _ => true
  | _ => false

/-- Has counted a fetch as started and not its result, or died in between. -/
def isFetching : Fetcher → Bool
  | downloading _ | fetched _ | failed .. | unwinding | dead => true
  | _ => false

/-- Has counted a response and not yet handed it off. -/
def isAnswered : Fetcher → Bool
  | counted _ | handing _ => true
  | _ => false

/-- Has counted a response and not yet its status. -/
def isUnlisted : Fetcher → Bool
  | counted _ => true
  | _ => false

@[simp] theorem isStarting_wake (f : Fetcher) : f.wake.isStarting = f.isStarting := by
  cases f <;> rfl

@[simp] theorem isFetching_wake (f : Fetcher) : f.wake.isFetching = f.isFetching := by
  cases f <;> rfl

@[simp] theorem isAnswered_wake (f : Fetcher) : f.wake.isAnswered = f.isAnswered := by
  cases f <;> rfl

@[simp] theorem isUnlisted_wake (f : Fetcher) : f.wake.isUnlisted = f.isUnlisted := by
  cases f <;> rfl

end Fetcher

/-- Has taken a response and not yet counted what became of it, or died in between. -/
def Worker.isHandling : Worker → Bool
  | selecting .. | dropping _ | processing .. | publishing _ | piping .. | held _ => true
  | finishing _ | unwinding | dead => true
  | _ => false

@[simp] theorem Worker.isHandling_wake (w : Worker) : w.wake.isHandling = w.isHandling := by
  cases w <;> rfl

def Count.rises (k : Counter) (counts : List Count) : Nat := counts.countP fun n => n.counter == k

@[simp] theorem Count.rises_append (k : Counter) (counts counts' : List Count) :
    rises k (counts ++ counts') = rises k counts + rises k counts' := List.countP_append

theorem Count.rises_offers {k : Counter} (enqueued : k ≠ .enqueued) (rejected : k ≠ .rejected)
    (rs : List Request) (as : List Admission) :
    rises k ((Event.offers rs as).filterMap Event.count?) = 0 := by
  induction rs generalizing as with
  | nil => rfl
  | cons r rs ih =>
    cases as with
    | nil => rfl
    | cons a as =>
      have one : rises k ((Event.offer r a).filterMap Event.count?) = 0 := by
        cases a <;> simp [Event.offer, Event.count?, rises, Count.counter, Admission.accepted,
          Ne.symm enqueued, Ne.symm rejected]
      rw [Event.offers, List.filterMap_append, rises_append, one, ih as]

namespace Pool

open WebCrawl.Count (rises)

variable {S σ : Type}

def polls (p : Pool S σ) : Nat := p.run.core.journal.deeds.countP Deed.isPoll

/-- How many fetches were started and have no result yet. -/
def fetching (p : Pool S σ) : Nat := p.fetchers.countP Fetcher.isFetching

/-- How many responses were counted and are not dealt with yet. -/
def underWay (p : Pool S σ) : Nat :=
  p.fetchers.countP Fetcher.isAnswered + p.handoff.length + p.workers.countP Worker.isHandling

/-- How many responses were counted before their status. -/
def unlisted (p : Pool S σ) : Nat := p.fetchers.countP Fetcher.isUnlisted

/-- On the way from one pool to the other this was counted, and it accounts for all that has
changed in the hands of the workers. -/
structure Reckons (p : Pool S σ) (counts : List Count) (p' : Pool S σ) : Prop where
  stats : p'.run.core.stats = p.run.core.stats.counting counts
  starts : p'.polls + p.fetchers.countP Fetcher.isStarting =
    p.polls + p'.fetchers.countP Fetcher.isStarting + rises .started counts
  fetches : p'.fetching + rises .succeeded counts + rises .failed counts =
    p.fetching + rises .started counts
  responses : p'.underWay + rises .processed counts + rises .unprocessed counts =
    p.underWay + rises .succeeded counts
  statuses : p'.unlisted + rises .statuses counts = p.unlisted + rises .succeeded counts

namespace Reckons

variable {p p' p'' : Pool S σ} {counts counts' : List Count}

theorem refl (p : Pool S σ) : p.Reckons [] p := ⟨rfl, rfl, rfl, rfl, rfl⟩

theorem trans (h : p.Reckons counts p') (h' : p'.Reckons counts' p'') :
    p.Reckons (counts ++ counts') p'' := by
  obtain ⟨stats, starts, fetches, responses, statuses⟩ := h
  obtain ⟨stats', starts', fetches', responses', statuses'⟩ := h'
  refine ⟨by rw [stats', stats, Statistics.counting_append], ?_, ?_, ?_, ?_⟩
  all_goals
    simp only [Count.rises_append]
    omega

theorem fetcher {i : Nat} {f f' : Fetcher} (here : p.fetchers[i]? = some f)
    (polled handed : Nat) (fetchers : p'.fetchers = p.fetchers.set i f')
    (workers : p'.workers.countP Worker.isHandling = p.workers.countP Worker.isHandling)
    (handoff : p'.handoff.length = p.handoff.length + handed)
    (stats : p'.run.core.stats = p.run.core.stats.counting counts)
    (polls : p'.polls = p.polls + polled)
    (starts : polled + f.isStarting.toNat = f'.isStarting.toNat + rises .started counts)
    (fetches : f'.isFetching.toNat + rises .succeeded counts + rises .failed counts =
      f.isFetching.toNat + rises .started counts)
    (responses : f'.isAnswered.toNat + handed + rises .processed counts +
      rises .unprocessed counts = f.isAnswered.toNat + rises .succeeded counts)
    (statuses : f'.isUnlisted.toNat + rises .statuses counts =
      f.isUnlisted.toNat + rises .succeeded counts) : p.Reckons counts p' := by
  have changed (q : Fetcher → Bool) : p'.fetchers.countP q + (q f).toNat =
      p.fetchers.countP q + (q f').toNat := fetchers ▸ Law.countP_set_add q f' here
  have starting := changed Fetcher.isStarting
  have inFetch := changed Fetcher.isFetching
  have answered := changed Fetcher.isAnswered
  have unlisted := changed Fetcher.isUnlisted
  refine ⟨stats, ?_, ?_, ?_, ?_⟩
  · omega
  · rw [Pool.fetching, Pool.fetching]
    omega
  · rw [underWay, underWay]
    omega
  · rw [Pool.unlisted, Pool.unlisted]
    omega

theorem worker {i : Nat} {w w' : Worker} (here : p.workers[i]? = some w) (taken : Nat)
    (workers : p'.workers = p.workers.set i w')
    (fetchers : ∀ q : Fetcher → Bool, (∀ f, q f.wake = q f) →
      p'.fetchers.countP q = p.fetchers.countP q)
    (handoff : p'.handoff.length + taken = p.handoff.length)
    (stats : p'.run.core.stats = p.run.core.stats.counting counts) (polls : p'.polls = p.polls)
    (started : rises .started counts = 0) (succeeded : rises .succeeded counts = 0)
    (failed : rises .failed counts = 0) (statuses : rises .statuses counts = 0)
    (responses : w'.isHandling.toNat + rises .processed counts + rises .unprocessed counts =
      w.isHandling.toNat + taken) : p.Reckons counts p' := by
  have changed := Law.countP_set_add Worker.isHandling w' here
  rw [← workers] at changed
  have starting := fetchers Fetcher.isStarting Fetcher.isStarting_wake
  have inFetch := fetchers Fetcher.isFetching Fetcher.isFetching_wake
  have answered := fetchers Fetcher.isAnswered Fetcher.isAnswered_wake
  have unlisted := fetchers Fetcher.isUnlisted Fetcher.isUnlisted_wake
  refine ⟨stats, ?_, ?_, ?_, ?_⟩
  · omega
  · rw [Pool.fetching, Pool.fetching]
    omega
  · rw [underWay, underWay]
    omega
  · rw [Pool.unlisted, Pool.unlisted]
    omega

end Reckons

variable [Frontier S] {crew : Crew σ} {d : Downloader σ} {p p' : Pool S σ}

theorem reckons_of_fetcherStep {i wakes : Nat} {f : Fetcher} (here : p.fetchers[i]? = some f)
    (step : FetcherStep d p i wakes f p') : ∃ counts, p.Reckons counts p' := by
  have same : p.workers.countP Worker.isHandling = p.workers.countP Worker.isHandling := rfl
  cases step with
  | takes r s found =>
    exact ⟨[], .fetcher here 1 0 rfl same rfl rfl (by simp [polls, Deed.isPoll]) rfl rfl rfl rfl⟩
  | starts r =>
    exact ⟨[.started], .fetcher here 0 0 rfl same rfl rfl (by simp [polls]) rfl rfl rfl rfl⟩
  | countsSuccess response =>
    exact ⟨[.succeeded], .fetcher here 0 0 rfl same rfl rfl (by simp [polls]) rfl rfl rfl rfl⟩
  | countsStatus response =>
    exact ⟨[.status response.status],
      .fetcher here 0 0 rfl same rfl rfl (by simp [polls]) rfl rfl rfl rfl⟩
  | countsFailure r cause =>
    exact ⟨[.failed], .fetcher here 0 0 rfl same rfl rfl (by simp [polls]) rfl rfl rfl rfl⟩
  | handsOff response =>
    exact ⟨[], .fetcher here 0 1 rfl same (by simp) rfl (by simp [polls, Deed.isPoll])
      rfl rfl rfl rfl⟩
  | announces =>
    exact ⟨[], .fetcher here 0 0 rfl (countP_map_of_same Worker.isHandling_wake p.workers) rfl rfl
      (by simp [polls]) rfl rfl rfl rfl⟩
  | requeues r =>
    exact ⟨[], .fetcher here 0 0 rfl same rfl (Core.stats_requeue _ r)
      (by simp [polls, Core.deeds_requeue, Deed.isPoll]) rfl rfl rfl rfl⟩
  | requeuesAndWakes r free sleeper =>
    let returned : Pool S σ :=
      { p with run := p.run.update (·.requeue r), fetchers := p.fetchers.set i .seeking }
    have first : p.Reckons [] returned :=
      .fetcher here 0 0 rfl same rfl (Core.stats_requeue _ r)
        (by simp [polls, returned, Core.deeds_requeue, Deed.isPoll]) rfl rfl rfl rfl
    exact ⟨[], first.trans
      (.fetcher (p := returned) sleeper 0 0 rfl rfl rfl rfl rfl rfl rfl rfl rfl)⟩
  | _ =>
    exact ⟨[], .fetcher here 0 0 rfl same rfl rfl (by simp [polls, Deed.isPoll]) rfl rfl rfl rfl⟩

theorem reckons_of_workerStep {i : Nat} {w : Worker} (here : p.workers[i]? = some w)
    (step : WorkerStep crew p i w p') : ∃ counts, p.Reckons counts p' := by
  have same : ∀ q : Fetcher → Bool, (∀ f, q f.wake = q f) →
      p.fetchers.countP q = p.fetchers.countP q := fun _ _ => rfl
  cases step with
  | takes response rest found =>
    exact ⟨[], .worker here 1 rfl same (by simp [found]) rfl (by simp [polls, Deed.isPoll])
      rfl rfl rfl rfl rfl⟩
  | drops response =>
    exact ⟨[.unprocessed], .worker here 0 rfl same rfl rfl (by simp [polls, Deed.isPoll])
      rfl rfl rfl rfl rfl⟩
  | publishes carrier =>
    have pushed := Elapsed.pushDiscovered p.run.core carrier.discovered
    have quiet {k : Counter} (other : k ≠ .enqueued ∧ k ≠ .rejected) :=
      Count.rises_offers other.1 other.2 carrier.discovered
        (Frontier.pushAll p.run.core.frontier carrier.discovered).1
    refine ⟨_, .worker here 0 rfl (fun q wakes => ?_) rfl pushed.stats ?_ (quiet (by decide))
      (quiet (by decide)) (quiet (by decide)) (quiet (by decide)) ?_⟩
    · dsimp only
      split
      · rfl
      · exact countP_map_of_same wakes _
    · rw [polls, Run.core_update, Core.deeds_say, pushed.deeds, List.countP_append,
        Event.countP_deeds_offers fun _ _ => rfl]
      rfl
    · rw [quiet (k := .processed) (by decide), quiet (k := .unprocessed) (by decide)]
      rfl
  | countsStop carrier =>
    exact ⟨[.shortCircuit], .worker here 0 rfl same rfl rfl (by simp [polls])
      rfl rfl rfl rfl rfl⟩
  | finishes carrier =>
    exact ⟨[.processed], .worker here 0 rfl same rfl rfl (by simp [polls, Deed.isPoll])
      rfl rfl rfl rfl rfl⟩
  | _ =>
    exact ⟨[], .worker here 0 rfl same rfl rfl (by simp [polls, Deed.isPoll]) rfl rfl rfl rfl rfl⟩

omit [Frontier S] in
theorem reckons_of_controlStep {c : Control} (step : ControlStep p c p') : p.Reckons [] p' := by
  cases step with
  | wakesFetchers =>
    have same {q : Fetcher → Bool} (wakes : ∀ f, q f.wake = q f) :=
      countP_map_of_same wakes p.fetchers
    refine ⟨rfl, ?_, ?_, ?_, ?_⟩
    all_goals simp [polls, fetching, underWay, unlisted, same, rises]
  | wakesProcessors =>
    have same := countP_map_of_same Worker.isHandling_wake p.workers
    refine ⟨rfl, ?_, ?_, ?_, ?_⟩
    all_goals simp [polls, fetching, underWay, unlisted, same, rises]
  | _ =>
    refine ⟨rfl, ?_, ?_, ?_, ?_⟩
    all_goals simp [polls, fetching, underWay, unlisted, rises]

theorem reckons_of_step {m : Move} (step : Step crew d p m p') :
    ∃ counts, p.Reckons counts p' := by
  cases step with
  | fetch i wakes f _ here step => exact reckons_of_fetcherStep here step
  | process i w _ here step => exact reckons_of_workerStep here step
  | stirsFetcher i here =>
    exact ⟨[], .fetcher here 0 0 rfl rfl rfl rfl rfl rfl rfl rfl rfl⟩
  | stirsWorker i here =>
    exact ⟨[], .worker here 0 rfl (fun _ _ => rfl) rfl rfl rfl rfl rfl rfl rfl rfl⟩
  | proceed _ step => exact ⟨[], reckons_of_controlStep step⟩
  | _ =>
    refine ⟨[], rfl, ?_, ?_, ?_, ?_⟩
    all_goals simp [polls, fetching, underWay, unlisted, rises]

/-- Along every interleaving the counters stay in balance with the workers. -/
theorem reckons_of_advanceAll {moves : List Move} (moved : p.advanceAll crew d moves = some p') :
    ∃ counts, p.Reckons counts p' := by
  refine invariant_of_step (I := fun q => ∃ counts, p.Reckons counts q) ?_ ⟨[], .refl p⟩ moved
  rintro q m q' ⟨counts, so_far⟩ step
  obtain ⟨more, next⟩ := reckons_of_step step
  exact ⟨counts ++ more, so_far.trans next⟩

end Pool

end WebCrawl
