import WebCrawl.Proofs.Crawl.Turnover
import WebCrawl.Proofs.Sequential.Bound

/-!
# No request is starved

A sequential crawl over a queue that is polled from its front hands out requests in the order in
which they came in, seeds, discovered requests and failed ones alike. The filters around the queue
decide what comes in, and have no say in the order. So a request whose download never succeeds keeps
nobody waiting: it goes behind everything that is pending.
-/

namespace WebCrawl

namespace Sequential

variable {σ : Type}

/-- Whatever is done to a sequential crawler from its first addition on, and however its components
behave short of a panic: where a request comes in while `n` others are pending, be it pushed or
given back after a failure, the next `n` polls hand out these others in their order, and the poll
after that hands out the request. A crawl that finishes makes all these polls. -/
theorem hands_out_in_turn (c₀ c c' : Crawler (Layered Queue) σ) (initial : c₀.phase = .initializing)
    (engine : c₀.core.engine = .sequential) (fifo : c₀.core.frontier.base.order = .fifo)
    (changes : List (Change (Layered Queue) σ)) (additions : ∀ ch ∈ changes, ch.isAddition = true)
    (made : c₀.changeAll changes = .ok c) (world world' : σ) (fuel : Nat) (result : StartResult)
    (started : c.start world fuel = (result, c', world'))
    (unhurt : ∀ message, result ≠ .panicked message) :
    ∃ events, Elapsed c₀.core c'.core events ∧
      ∀ before e r after, events = before ++ e :: after → e.entering = [r] →
        ∃ s, Replays c₀.core.frontier before s ∧ Replays s (e :: after) c'.core.frontier ∧
          (result = .finished → s.base.pending.length < (Event.polled after).length) ∧
          (s.base.pending.length < (Event.polled after).length →
            (Event.polled after).take (s.base.pending.length + 1) = s.base.pending ++ [r]) := by
  obtain ⟨drained, seeds, segments, closed, ended, lapse⟩ :=
    lapse_of_started initial engine additions made started unhurt
  refine ⟨_, lapse.elapsed, ?_⟩
  intro before e r after whole enters
  have replays := lapse.elapsed.frontier
  rw [whole] at replays
  obtain ⟨s, past, rest⟩ := replays.split
  obtain ⟨s', entrance, later⟩ := @Replays.split _ _ _ _ [e] _ rest
  have inLine : s.base.order = .fifo := past.order.trans fifo
  refine ⟨s, past, rest, ?_, entrance.turn inLine enters later⟩
  intro finished
  have through : drained = true := by
    cases drained with
    | false => cases ended.symm.trans finished
    | true => rfl
  obtain ⟨last, polled⟩ := lapse.dry through
  have dry : c'.core.frontier.base.pending = [] :=
    (ListedFrontier.pending_of_dry_poll polled).2
  exact entrance.turn_comes inLine enters later dry

/-- Of two seeds the first can be fetched at the third attempt only. -/
def circleFromBoth : Crawler (Layered Queue) (String → Nat) :=
  .prepared .sequential ((Layered.bare (.empty .fifo)).wrap .exact)
    (Conduct.circle.players Conduct.circleLinks) [.named "b", .named "a"]

def circleFromBothChanges : List (Change (Layered Queue) (String → Nat)) :=
  circleFromBoth.crew.downloaders.map .downloader ++
    circleFromBoth.crew.changes [.named "b", .named "a"]

/-- The failed request gets its turn again, behind those that were pending when it was given
back. -/
theorem hands_out_in_turn_of_circle :
    (Crawler.sequential ((Layered.bare (Queue.empty .fifo)).wrap .exact)).changeAll
        circleFromBothChanges = .ok circleFromBoth ∧
      (∀ ch ∈ circleFromBothChanges, ch.isAddition = true) ∧
      ∃ c' world', circleFromBoth.start Conduct.circle.failures 5 = (.finished, c', world') ∧
        ∃ before after r a s, Replays ((Layered.bare (Queue.empty .fifo)).wrap .exact) before s ∧
          Replays s (.did (.requeued r a) :: after) c'.core.frontier ∧
          (Event.polled after).take (s.base.pending.length + 1) = s.base.pending ++ [r] := by
  have made : (Crawler.sequential ((Layered.bare (Queue.empty .fifo)).wrap .exact)).changeAll
      circleFromBothChanges = .ok circleFromBoth := Crawler.sequential_changeAll _ _ _
  have additions : ∀ ch ∈ circleFromBothChanges, ch.isAddition = true := by decide
  have ran : (circleFromBoth.start Conduct.circle.failures 5).1.isFinished = true := by
    decide +kernel
  have returns : 0 < (circleFromBoth.start Conduct.circle.failures 5).2.1.core.journal.deeds.countP
      Deed.isReturn := by decide +kernel
  rcases started : circleFromBoth.start Conduct.circle.failures 5 with ⟨result, c', world'⟩
  rw [started] at ran returns
  cases StartResult.eq_finished ran
  obtain ⟨events, elapsed, turns⟩ := hands_out_in_turn _ circleFromBoth c' rfl rfl rfl
    circleFromBothChanges additions made Conduct.circle.failures world' 5 .finished started nofun
  have deeds : c'.core.journal.deeds = events.filterMap Event.deed? := elapsed.deeds
  rw [deeds, Event.countP_deeds] at returns
  obtain ⟨e, known, returned⟩ := List.countP_pos_iff.mp returns
  obtain ⟨before, after, whole⟩ := List.append_of_mem known
  obtain ⟨r, a, rfl, enters⟩ := Event.exists_requeued returned
  obtain ⟨s, past, rest, comes, turn⟩ := turns before _ r after whole enters
  exact ⟨made, additions, c', world', rfl, before, after, r, a, s, past, rest, turn (comes rfl)⟩

end Sequential

end WebCrawl
