import WebCrawl.Proofs.Crawler.Changes
import WebCrawl.Proofs.Pool.Agreement
import WebCrawl.Proofs.Pool.Reckoning
import WebCrawl.Proofs.Statistics.Snapshot

/-!
# What a reader beside a pool sees

A reader loads the counters one by one while the workers go on. The histogram is loaded first and
never shows more responses than the snapshot. Of the other counters those that come first are loaded
first, so that what is counted between two loads can outnumber what was under way at the first of
them; just then a snapshot is inconsistent.
-/

namespace WebCrawl

namespace Statistics

/-- Nothing was counted but offers to the frontier. -/
structure OnlyOffers (s : Statistics) : Prop where
  statuses : s.statuses = .empty
  read : ∀ k, k ≠ Counter.enqueued → k ≠ .rejected → s.read k = 0

theorem onlyOffers_zero : zero.OnlyOffers where
  statuses := rfl
  read k _ _ := by cases k <;> rfl

theorem OnlyOffers.recordPush {s : Statistics} (h : s.OnlyOffers) (accepted : Bool) :
    (s.recordPush accepted).OnlyOffers where
  statuses := by cases accepted <;> exact h.statuses
  read k enqueued rejected := by
    have before := h.read k enqueued rejected
    cases accepted with
    | true =>
      cases k with
      | enqueued => exact absurd rfl enqueued
      | _ => exact before
    | false =>
      cases k with
      | rejected => exact absurd rfl rejected
      | _ => exact before

end Statistics

namespace Crawler

variable {S σ : Type} [Frontier S] {c c' : Crawler S σ}

theorem onlyOffers_of_changeAll {changes : List (Change S σ)} (fresh : c.stats.OnlyOffers)
    (made : c.changeAll changes = .ok c') : c'.stats.OnlyOffers := by
  induction changes generalizing c with
  | nil =>
    cases made
    exact fresh
  | cons ch rest ih =>
    obtain ⟨next, first, later⟩ := changed_of_changeAll made
    refine ih ?_ later
    obtain ⟨g, granted⟩ := grants_of_changed first
    cases granted with
    | seed r =>
      rw [stats, Core.stats_push]
      exact fresh.recordPush _
    | _ => exact fresh

end Crawler

namespace Pool

open WebCrawl.Count (rises)

variable {S σ : Type} [Frontier S] {crew : Crew σ} {d : Downloader σ}

/-- A reader sees these pools one after the other while a pool is at work. -/
structure Watched (crew : Crew σ) (d : Downloader σ) (start : Pool S σ) (pools : Nat → Pool S σ) :
    Prop where
  first : ∃ moves, start.advanceAll crew d moves = some (pools 0)
  next : ∀ k, ∃ moves, (pools k).advanceAll crew d moves = some (pools (k + 1))

theorem watched_of_same {start q : Pool S σ} {moves : List Move}
    (moved : start.advanceAll crew d moves = some q) : Watched crew d start fun _ => q :=
  ⟨⟨moves, moved⟩, fun _ => ⟨[], rfl⟩⟩

theorem watched_of_two {start p q : Pool S σ} {moves moves' : List Move} (n : Nat)
    (first : start.advanceAll crew d moves = some p)
    (later : p.advanceAll crew d moves' = some q) :
    Watched crew d start fun k => if k ≤ n then start else if k = n + 1 then p else q := by
  have past : ¬n + 1 ≤ n := Nat.not_succ_le_self n
  have past' : ¬n + 1 + 1 ≤ n := by omega
  refine ⟨⟨[], by simp [advanceAll]⟩, fun k => ?_⟩
  rcases Nat.lt_trichotomy k n with before | rfl | after
  · exact ⟨[], by simp [Nat.le_of_lt before, Nat.succ_le_of_lt before, advanceAll]⟩
  · exact ⟨moves, by simpa [past] using first⟩
  · have passed : ¬k ≤ n := Nat.not_le_of_lt after
    have passed' : ¬k + 1 ≤ n := by omega
    by_cases once : k = n + 1
    · subst once
      exact ⟨moves', by simpa [past, past'] using later⟩
    · exact ⟨[], by simp [passed, passed', once, Nat.ne_of_gt after, advanceAll]⟩

/-- There is one record of all counts, of which the reader sees longer and longer parts. -/
theorem Watched.counts {start : Pool S σ} {pools : Nat → Pool S σ}
    (watched : Watched crew d start pools) :
    ∃ counts : Nat → List Count, (∀ k, start.Reckons (counts k) (pools k)) ∧
      ∀ k, counts k <+: counts (k + 1) := by
  obtain ⟨moves, moved⟩ := watched.first
  obtain ⟨early, reckons⟩ := reckons_of_advanceAll moved
  have step (k : Nat) : ∃ more, (pools k).Reckons more (pools (k + 1)) := by
    obtain ⟨moves, moved⟩ := watched.next k
    exact reckons_of_advanceAll moved
  choose more later using step
  have whole (k : Nat) : start.Reckons (early ++ (List.range k).flatMap more) (pools k) := by
    induction k with
    | zero => simpa using reckons
    | succ k ih =>
      have both := ih.trans (later k)
      rwa [List.append_assoc, ← List.flatMap_singleton more k, ← List.flatMap_append,
        ← List.range_succ] at both
  refine ⟨_, whole, fun k => ?_⟩
  rw [List.range_succ, List.flatMap_append, ← List.append_assoc]
  exact List.prefix_append _ _

/-- The books of a pool that has counted this since it was set to work. -/
structure Books (counts : List Count) (p : Pool S σ) : Prop where
  polls : rises .started counts ≤ p.polls
  fetches : p.fetching + rises .succeeded counts + rises .failed counts = rises .started counts
  responses : p.underWay + rises .processed counts + rises .unprocessed counts =
    rises .succeeded counts
  statuses : p.unlisted + rises .statuses counts = rises .succeeded counts
  read : rises .started counts < 18446744073709551616 →
    ∀ k ∈ [Counter.started, .succeeded, .failed, .unprocessed, .processed],
      (p.run.core.stats.read k).toNat = rises k counts

theorem countP_replicate_of_false {α : Type} {q : α → Bool} {a : α} (idle : q a = false)
    (n : Nat) : (List.replicate n a).countP q = 0 := by
  simp [List.countP_replicate, idle]

omit [Frontier S] in
theorem books_of_reckons {c : Crawler S σ} (fresh : c.stats.OnlyOffers) {world : σ}
    {sizes : PoolSizes} {counts : List Count} {p : Pool S σ}
    (reckons : (c.pool world sizes).Reckons counts p) : p.Books counts := by
  obtain ⟨stats, starts, fetches, responses, statuses⟩ := reckons
  have starting : (c.pool world sizes).fetchers.countP Fetcher.isStarting = 0 :=
    countP_replicate_of_false rfl _
  have fetching : (c.pool world sizes).fetching = 0 := countP_replicate_of_false rfl _
  have answered : (c.pool world sizes).fetchers.countP Fetcher.isAnswered = 0 :=
    countP_replicate_of_false rfl _
  have handling : (c.pool world sizes).workers.countP Worker.isHandling = 0 :=
    countP_replicate_of_false rfl _
  have underWay : (c.pool world sizes).underWay = 0 := by
    rw [Pool.underWay, answered, handling]
    rfl
  have unlisted : (c.pool world sizes).unlisted = 0 := countP_replicate_of_false rfl _
  have polls : (c.pool world sizes).polls + p.fetchers.countP Fetcher.isStarting +
      rises .started counts = p.polls := by omega
  refine ⟨by omega, by omega, by omega, by omega, fun few k listed => ?_⟩
  have zero : (c.pool world sizes).run.core.stats.read k = 0 := by
    refine fresh.read k ?_ ?_ <;> rintro rfl <;> simp at listed
  have bound : rises k counts < 18446744073709551616 := by
    simp only [List.mem_cons, List.not_mem_nil, or_false] at listed
    rcases listed with rfl | rfl | rfl | rfl | rfl <;> omega
  rw [stats, Statistics.read_counting, zero, UInt64.zero_add]
  exact UInt64.toNat_ofNat_of_lt' bound

/-- What the snapshot of a counter shows more than the load number `n` would have shown. -/
def since (seen : Statistics) (pools : Nat → Pool S σ) (n : Nat) (k : Counter) : Nat :=
  (seen.read k).toNat - ((pools n).run.core.stats.read k).toNat

def circleChanges : List (Change (Layered Queue) (String → Nat)) :=
  .downloader Conduct.circle.playedDownloader ::
    (Conduct.circle.players Conduct.circleLinks).changes [.named "a"]

theorem configured_circlePool :
    (Crawler.unconfigured ((Layered.bare (.empty .fifo)).wrap .exact)
      ⟨1, 1, Config.default.waitInterval⟩).changeAll circleChanges = .ok circlePool :=
  Crawler.changeAll_changes (Conduct.circle.players Conduct.circleLinks) [.named "a"]

/-- The circle as it is set to work. -/
def circleStart : Pool (Layered Queue) (String → Nat) :=
  circlePool.pool Conduct.circle.failures ⟨1, 1, Config.default.waitInterval⟩

/-- A reader takes a snapshot while a crawl with pools is at work. The histogram of the snapshot
shows no more responses than the snapshot does. It shows no more results than fetches that were
started exactly when, between the load of the starts and those of the results, no more results were
counted than fetches were in the hands of the workers at the former; and it shows no more responses
that were dealt with than responses exactly when, between the load of the responses and those of
what became of them, no more were dealt with than were under way at the former. -/
theorem snapshot_consistent_iff (frontier : S) (sizes : PoolSizes) {changes : List (Change S σ)}
    {c : Crawler S σ} (configured : (Crawler.unconfigured frontier sizes).changeAll changes = .ok c)
    (d : Downloader σ) (world : σ) {pools : Nat → Pool S σ}
    (watched : Watched c.crew d (c.pool world sizes) pools) (shards : Nat) (place : UInt16 → Nat)
    (few : (pools (shards + 8)).polls < 18446744073709551616) :
    let seen := Statistics.snapshot shards place fun k => (pools k).run.core.stats
    seen.statuses.total.toNat ≤ seen.fetchesSucceeded.toNat ∧
    (seen.fetchesSucceeded.toNat + seen.fetchesFailed.toNat ≤ seen.fetchesStarted.toNat ↔
      since seen pools (shards + 3) .succeeded + since seen pools (shards + 3) .failed ≤
        (pools (shards + 3)).fetching) ∧
    (seen.itemsProcessed.toNat + seen.responsesUnprocessed.toNat ≤ seen.fetchesSucceeded.toNat ↔
      since seen pools (shards + 4) .processed + since seen pools (shards + 4) .unprocessed ≤
        (pools (shards + 4)).underWay) := by
  have fresh : c.stats.OnlyOffers :=
    Crawler.onlyOffers_of_changeAll (c := .unconfigured frontier sizes)
      Statistics.onlyOffers_zero configured
  obtain ⟨counts, reckons, grows⟩ := watched.counts
  have books (k : Nat) := books_of_reckons fresh (reckons k)
  have later {i j : Nat} (k : Counter) (le : i ≤ j) :
      rises k (counts i) ≤ rises k (counts j) := by
    induction le with
    | refl => exact Nat.le_refl _
    | step _ ih => exact ih.trans (grows _).sublist.countP_le
  have bound (k : Nat) (le : k ≤ shards + 8) :
      rises .started (counts k) < 18446744073709551616 := by
    have upto := later .started le
    have polls := (books (shards + 8)).polls
    omega
  have histogram : (Statistics.loadStatuses shards place fun k =>
      (pools k).run.core.stats).total.toNat ≤ rises .statuses (counts shards) :=
    Statistics.total_loadStatuses_le fresh.statuses (fun k => (reckons k).stats) grows shards place
  intro seen
  have loaded (n : Nat) (le : n ≤ shards + 8) (k : Counter)
      (listed : k ∈ [Counter.started, .succeeded, .failed, .unprocessed, .processed]) :
      ((pools n).run.core.stats.read k).toNat = rises k (counts n) :=
    (books n).read (bound n le) k listed
  have started : seen.fetchesStarted.toNat = rises .started (counts (shards + 3)) :=
    loaded (shards + 3) (by omega) .started (by decide)
  have succeeded : seen.fetchesSucceeded.toNat = rises .succeeded (counts (shards + 4)) :=
    loaded (shards + 4) (by omega) .succeeded (by decide)
  have failed : seen.fetchesFailed.toNat = rises .failed (counts (shards + 5)) :=
    loaded (shards + 5) (by omega) .failed (by decide)
  have unprocessed : seen.responsesUnprocessed.toNat =
      rises .unprocessed (counts (shards + 6)) :=
    loaded (shards + 6) (by omega) .unprocessed (by decide)
  have processed : seen.itemsProcessed.toNat = rises .processed (counts (shards + 7)) :=
    loaded (shards + 7) (by omega) .processed (by decide)
  refine ⟨?listed, ?fetches, ?responses⟩
  case listed =>
    have listed := (books shards).statuses
    have more := later .succeeded (show shards ≤ shards + 4 by omega)
    refine histogram.trans ?_
    omega
  case fetches =>
    have balance := (books (shards + 3)).fetches
    have moreSucceeded := later .succeeded (show shards + 3 ≤ shards + 4 by omega)
    have moreFailed := later .failed (show shards + 3 ≤ shards + 5 by omega)
    rw [since, since, loaded (shards + 3) (by omega) .succeeded (by decide),
      loaded (shards + 3) (by omega) .failed (by decide)]
    simp only [Statistics.read]
    omega
  case responses =>
    have balance := (books (shards + 4)).responses
    have moreProcessed := later .processed (show shards + 4 ≤ shards + 7 by omega)
    have moreUnprocessed := later .unprocessed (show shards + 4 ≤ shards + 6 by omega)
    rw [since, since, loaded (shards + 4) (by omega) .processed (by decide),
      loaded (shards + 4) (by omega) .unprocessed (by decide)]
    simp only [Statistics.read]
    omega

/-- A snapshot of the circle when all has been done. -/
theorem snapshot_consistent_iff_of_circle :
    ∃ q, circleStart.advanceAll circlePool.crew Conduct.circle.playedDownloader circleMoves =
        some q ∧ q.polls < 18446744073709551616 ∧
      let seen := Statistics.snapshot 1 (fun _ => 0) fun _ => q.run.core.stats
      seen.statuses.total.toNat ≤ seen.fetchesSucceeded.toNat ∧
        seen.fetchesSucceeded.toNat + seen.fetchesFailed.toNat ≤ seen.fetchesStarted.toNat ∧
        seen.itemsProcessed.toNat + seen.responsesUnprocessed.toNat ≤
          seen.fetchesSucceeded.toNat := by
  have polled : (circleStart.advanceAll circlePool.crew Conduct.circle.playedDownloader
      circleMoves).map polls = some 4 := rfl
  obtain ⟨q, moved, polls⟩ := Option.map_eq_some_iff.mp polled
  have few : q.polls < 18446744073709551616 := by omega
  obtain ⟨listed, fetches, responses⟩ := snapshot_consistent_iff _ _ configured_circlePool
    Conduct.circle.playedDownloader Conduct.circle.failures (watched_of_same moved) 1 (fun _ => 0)
    few
  refine ⟨q, moved, few, listed, fetches.mpr ?_, responses.mpr ?_⟩
  · simp [since, Statistics.snapshot, Statistics.read]
  · simp [since, Statistics.snapshot, Statistics.read]

/-- A reader loads the starts before the first fetch, the responses after the first page, and the
rest when all has been done: more results than starts, and more items than responses. -/
theorem snapshot_torn_of_circle : ∃ pools : Nat → Pool (Layered Queue) (String → Nat),
    Watched circlePool.crew Conduct.circle.playedDownloader circleStart pools ∧
      let seen := Statistics.snapshot 1 (fun _ => 0) fun k => (pools k).run.core.stats
      ¬seen.fetchesSucceeded.toNat + seen.fetchesFailed.toNat ≤ seen.fetchesStarted.toNat ∧
        ¬seen.itemsProcessed.toNat + seen.responsesUnprocessed.toNat ≤
          seen.fetchesSucceeded.toNat := by
  have fetched : (circleStart.advanceAll circlePool.crew Conduct.circle.playedDownloader
      (circleMoves.take 10)).map (fun p => p.run.core.stats.fetchesSucceeded) = some 1 := rfl
  have ended : (circleStart.advanceAll circlePool.crew Conduct.circle.playedDownloader
      (circleMoves.take 10 ++ circleMoves.drop 10)).map
        (fun q => q.run.core.stats.itemsProcessed) = some 2 := rfl
  obtain ⟨p, first, succeeded⟩ := Option.map_eq_some_iff.mp fetched
  obtain ⟨q, moved, processed⟩ := Option.map_eq_some_iff.mp ended
  rcases Option.bind_eq_some_iff.mp ((advanceAll_append _ _).symm.trans moved) with
    ⟨p', first', later⟩
  obtain rfl := Option.some.inj (first.symm.trans first')
  refine ⟨_, watched_of_two 4 first later, ?_⟩
  have started : circleStart.run.core.stats.fetchesStarted = 0 := rfl
  constructor
  · intro (le : p.run.core.stats.fetchesSucceeded.toNat + _ ≤
      circleStart.run.core.stats.fetchesStarted.toNat)
    rw [succeeded, started] at le
    exact absurd (Nat.le_trans (Nat.le_add_right _ _) le) (by decide)
  · intro (le : q.run.core.stats.itemsProcessed.toNat + _ ≤
      p.run.core.stats.fetchesSucceeded.toNat)
    rw [succeeded, processed] at le
    exact absurd (Nat.le_trans (Nat.le_add_right _ _) le) (by decide)

end Pool

end WebCrawl
