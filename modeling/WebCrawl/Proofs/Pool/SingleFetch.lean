import WebCrawl.Proofs.Crawl.Admissions
import WebCrawl.Proofs.Pool.Conservation

/-!
# One fetch of a target at a time

Under an exact filter every fingerprint is accepted at most once, whatever a failed request does: it
is given back past the filter, but only by the one who has it in hand. So among the requests that
are pending, those that fetchers have in hand, and those that were fetched with success, no two are
for the same target.
-/

namespace WebCrawl

def Fetcher.request? : Fetcher → Option Request
  | starting r => some r
  | downloading r => some r
  | failed r _ => some r
  | requeueing r => some r
  | _ => none

namespace Law

/-- The requests for one target that can still be fetched. -/
def target (u : String) : Law where
  held
    | .frontier r => r.fingerprint == u
    | .fetcher f => f.request?.any (·.fingerprint == u)
    | _ => false
  gained := Event.isDeed (Deed.admits u)
  spent := Event.isDeed (Deed.fetches u)
  wastes := Event.isDeed Deed.isWaste

theorem kept_target (u : String) : (target u).Kept where
  nowhere := rfl
  fetcher f free := by
    cases f with
    | starting | downloading | failed | requeueing => cases free
    | _ => rfl
  worker _ _ := rfl
  flow passes := by
    cases passes with
    | admits r =>
      apply Flow.of_eq
      cases same : r.fingerprint == u <;>
        simp [target, Event.offer, Event.isDeed, Deed.admits, Deed.fetches, same]
    | answers r response =>
      apply Flow.of_eq
      cases same : r.fingerprint == u <;>
        simp [target, Event.isDeed, Deed.admits, Deed.fetches, Fetcher.request?, same]
    | _ => first | exact .of_eq rfl | exact .of_waste (Nat.zero_le _) List.mem_cons_self rfl

end Law

namespace Pool

variable {σ : Type} {u : String}

theorem count_pending (s : Layered Queue) :
    (s.base.pending.map Request.fingerprint).count u = (Law.target u).inFrontier s :=
  List.countP_map

theorem count_held (fetchers : List Fetcher) :
    ((fetchers.filterMap Fetcher.request?).map Request.fingerprint).count u =
      (Law.target u).inFetchers fetchers := by
  rw [List.count, List.countP_map, List.countP_filterMap]
  congr 1
  funext f
  cases f <;> rfl

/-- In a crawl over a queue under one exact filter no two requests that are pending or in the hands
of a fetcher are for the same target, and no target is fetched with success twice or is still wanted
after that, whatever the components do and however the moves are interleaved. -/
theorem fetches_once (c : Crawler (Layered Queue) σ) (order : PollOrder) (seeds : List Request)
    (ready : c.core.frontier =
      (Frontier.pushAll ((Layered.bare (.empty order)).wrap .exact) seeds).2)
    (sizes : PoolSizes) (d : Downloader σ) (world : σ) (moves : List Move)
    (q : Pool (Layered Queue) σ)
    (moved : (c.pool world sizes).advanceAll c.crew d moves = some q) :
    ∃ since, q.run.core.journal.deeds = c.core.journal.deeds ++ since ∧
      (q.run.core.frontier.base.pending.map Request.fingerprint ++
        (q.fetchers.filterMap Fetcher.request?).map Request.fingerprint ++
        (since.filterMap Deed.success?).map Prod.fst).Nodup := by
  obtain ⟨events, elapsed, flow⟩ := Crawler.passed_pool moved
  refine ⟨_, elapsed.deeds, ?_⟩
  have opening : Replays (exactly [] (.empty order)) _ c.core.frontier :=
    ready ▸ Replays.offers (exactly [] (.empty order)) seeds
  obtain ⟨seen, queue, -, nodup, admitted⟩ :=
    (opening.trans elapsed.frontier).seen List.nodup_nil
  rw [List.nodup_iff_count_le_one]
  intro u
  have kept := Law.kept_target u
  have seeded : (Law.target u).Flow 0 _ ((Law.target u).inFrontier c.core.frontier) :=
    ready ▸ kept.pushAll (exactly [] (.empty order)) seeds
  have bound := (seeded.append (flow kept)).le
  have all := admitted u
  have once := List.nodup_iff_count_le_one.mp nodup u
  rw [List.count_nil, Nat.add_zero] at all
  rw [List.count_append, List.count_append, count_pending, count_held,
    Event.count_successes]
  simp only [Law.target, Law.stock, List.countP_append] at bound all once ⊢
  omega

theorem fetches_once_of_circle :
    circlePool.core.frontier =
        (Frontier.pushAll ((Layered.bare (.empty .fifo)).wrap .exact) [.named "a"]).2 ∧
      ∃ q since, (circlePool.pool Conduct.circle.failures
          ⟨1, 1, Config.default.waitInterval⟩).advanceAll circlePool.crew
            Conduct.circle.playedDownloader circleMoves = some q ∧
        q.run.core.journal.deeds = circlePool.core.journal.deeds ++ since ∧
        (q.run.core.frontier.base.pending.map Request.fingerprint ++
          (q.fetchers.filterMap Fetcher.request?).map Request.fingerprint ++
          (since.filterMap Deed.success?).map Prod.fst).Nodup := by
  have ready : circlePool.core.frontier =
      (Frontier.pushAll ((Layered.bare (.empty .fifo)).wrap .exact) [.named "a"]).2 :=
    Core.frontier_pushAll _ _
  have possible : ((circlePool.pool Conduct.circle.failures
      ⟨1, 1, Config.default.waitInterval⟩).advanceAll circlePool.crew
        Conduct.circle.playedDownloader circleMoves).isSome = true := rfl
  obtain ⟨q, moved⟩ := Option.isSome_iff_exists.mp possible
  obtain ⟨since, deeds, once⟩ := fetches_once circlePool .fifo [.named "a"] ready _ _ _ _ q moved
  exact ⟨ready, q, since, moved, deeds, once⟩

end Pool

end WebCrawl
