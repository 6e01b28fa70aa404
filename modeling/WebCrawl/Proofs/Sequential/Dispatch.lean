import WebCrawl.Proofs.Crawl.Told
import WebCrawl.Proofs.Sequential.Accounting

/-!
# How a sequential crawl dispatches its requests

A sequential crawl calls its crew in segments, one for each request it polls. The grammar of a
segment says which calls follow on which answers; the deeds are held against the components, so the
calls of the grammar are those that were really made.
-/

namespace WebCrawl

namespace Sequential

open Working

variable {S σ α : Type} {crew : Crew σ}

theorem Asked.found {deed : Nat → Bool → Deed} {k : Nat} {all : List α} {events : List Event}
    {chosen : Option (Nat × α)} (asked : Asked deed k all events chosen) :
    ∀ i a, chosen = some (i, a) → ∃ j, i = k + j ∧ all[j]? = some a := by
  induction asked with
  | nobody k => exact nofun
  | yes k b rest =>
    rintro i a ⟨rfl, rfl⟩
    exact ⟨0, rfl, rfl⟩
  | no b later ih =>
    intro i a found
    obtain ⟨j, rfl, known⟩ := ih i a found
    exact ⟨j + 1, by omega, known⟩

theorem honest_firstSupporting {ask : α → Act σ Bool} {deed : Nat → Bool → Deed} {k : Nat}
    {all : List α} (callings : ∀ i a, all[i]? = some a → crew.Calling (ask a) (deed (k + i))) :
    Honest crew (firstSupporting ask deed k all : Working S σ (Option (Nat × α))) := by
  induction all generalizing k with
  | nil => exact .pure none
  | cons a rest ih =>
    refine .call (callings 0 a rfl) fun verdict => ?_
    cases verdict with
    | true => exact .pure _
    | false =>
      refine ih fun i b found => ?_
      rw [Nat.add_assoc, Nat.add_comm 1]
      exact callings (i + 1) b found

theorem honest_runPipelines {carrier : Carrier} {total k : Nat} {ps : List (Pipeline σ)}
    (enrolled : ∀ i p, ps[i]? = some p → crew.pipelines[k + i]? = some p) :
    Honest crew (runPipelines carrier total k ps : Working S σ Unit) := by
  induction ps generalizing k with
  | nil => exact .pure ()
  | cons p rest ih =>
    refine .andThen (.say _) fun _ => .call (.pipes carrier (enrolled 0 p rfl)) fun verdict => ?_
    cases verdict with
    | true =>
      refine ih fun i p' found => ?_
      rw [Nat.add_assoc, Nat.add_comm 1]
      exact enrolled (i + 1) p' found
    | false => exact .andThen (.say _) fun _ => .tally _

section engine

variable [Frontier S]

theorem honest_pushDiscovered (rs : List Request) :
    Honest crew (Working.update fun c => (c.pushDiscovered rs).2 : Working S σ Unit) :=
  .update _ (fun c => (Elapsed.pushDiscovered c rs).deeds) fun c =>
    Event.countP_deeds_offers (fun _ _ => rfl) rs (Frontier.pushAll c.frontier rs).1

theorem enrolled_of_firstSupporting {ask : α → Act σ Bool} {deed : Nat → Bool → Deed}
    (apart : ∀ i verdict, (deed i verdict).isFrontiers = false) {all : List α} {k : Nat} {a : α}
    {run run' : Run S σ} (h : firstSupporting ask deed 0 all run = (.ok (some (k, a)), run')) :
    all[k]? = some a := by
  obtain ⟨events, asked, -⟩ := asked_of_firstSupporting apart h
  obtain ⟨j, rfl, known⟩ := asked.found k a rfl
  rwa [Nat.zero_add]

theorem honest_handleResponse (response : Response) :
    Honest crew (handleResponse crew response : Working S σ Unit) := by
  refine .bind (honest_firstSupporting fun i p found => ?_) fun chosen run run' asked => ?_
  · rw [Nat.zero_add]
    exact .asksProcessor response found
  · cases chosen with
    | none => exact .andThen (.say _) fun _ => .andThen (.enter rfl) fun _ => .tally _
    | some chosen =>
      have enrolled := enrolled_of_firstSupporting (fun _ _ => rfl) asked
      refine .call (.processes response enrolled) fun carrier => ?_
      have piped : Honest crew (runPipelines carrier crew.pipelines.length 0 crew.pipelines :
          Working S σ Unit) := honest_runPipelines fun i p found => (Nat.zero_add i).symm ▸ found
      refine .andThen piped fun _ => .andThen (.enter rfl) fun _ => ?_
      exact .andThen (.tally _) fun _ => honest_pushDiscovered _

theorem honest_fetch {k : Nat} {d : Downloader σ} (enrolled : crew.downloaders[k]? = some d)
    (r : Request) : Honest crew (fetch crew k d r : Working S σ Unit) := by
  refine .andThen (.say _) fun _ => .andThen (.tally _) fun _ => ?_
  refine .call (.downloads r enrolled) fun result => ?_
  cases result with
  | error cause =>
    refine .andThen (.say _) fun _ => .andThen (.tally _) fun _ => ?_
    exact .update _ (fun c => c.deeds_requeue r) fun _ => rfl
  | ok response =>
    exact .andThen (.tally _) fun _ => .andThen (.tally _) fun _ =>
      honest_handleResponse response

theorem honest_serve (r : Request) : Honest crew (serve crew r : Working S σ Unit) := by
  refine .bind (honest_firstSupporting fun i d found => ?_) fun chosen run run' asked => ?_
  · rw [Nat.zero_add]
    exact .asksDownloader r found
  · cases chosen with
    | none => exact .andThen (.say _) fun _ => .tally _
    | some chosen => exact honest_fetch (enrolled_of_firstSupporting (fun _ _ => rfl) asked) r

theorem honest_pollNext : Honest crew (pollNext : Working S σ (Option Request)) := by
  intro run
  rcases answer : Frontier.poll run.core.frontier with ⟨found, s⟩
  simp only [pollNext, Core.poll, answer]
  cases found with
  | none => exact ⟨[], run.world, (List.append_nil _).symm, .nil _, rfl⟩
  | some r => exact ⟨[.polled r], run.world, Core.deeds_enter _ _, .silent rfl (.nil _), rfl⟩

theorem honest_crawl (crew : Crew σ) (fuel : Nat) :
    Honest crew (crawl crew fuel : Working S σ Bool) := by
  induction fuel with
  | zero => exact .pure false
  | succ fuel ih =>
    have stepped : Honest crew (step crew : Working S σ Bool) := by
      refine .andThen honest_pollNext fun found => ?_
      cases found with
      | none => exact .pure false
      | some r => exact .andThen (honest_serve r) fun _ => .pure true
    refine .andThen stepped fun more => ?_
    cases more with
    | true => exact ih
    | false => exact .pure true

theorem honest_runSequential (crew : Crew σ) (fuel : Nat) :
    Honest crew (Crawler.runSequential crew fuel : Working S σ Bool) := by
  refine .andThen (.say _) fun _ => .andThen (honest_crawl crew fuel) fun drained => ?_
  cases drained with
  | true => exact .andThen honest_conclude fun _ => .pure true
  | false => exact .pure false

end engine

/-- A request that was polled, and what was done about it. -/
structure Segment (crew : Crew σ) where
  request : Request
  served : List Event
  grammar : Served crew request served

namespace Segment

def events (s : Segment crew) : List Event := .did (.polled s.request) :: s.served

def isHeldBack (s : Segment crew) : Bool := s.served.any (Event.isDeed Deed.isHeldBack)

theorem countP_isHeldBack (s : Segment crew) :
    s.events.countP (Event.isDeed Deed.isHeldBack) = s.isHeldBack.toNat := by
  obtain ⟨polls, fetches, -, answers, -, -, -, completions, -, stops_le⟩ := s.grammar.account
  have alone : s.served.countP (Event.isDeed Deed.isPoll) = 0 := by
    refine List.countP_eq_zero.mpr (s.grammar.forall (fun d apart => ?_) fun _ => nofun)
    rw [Event.isDeed, apart]
    exact Bool.false_ne_true
  have once : s.served.countP (Event.isDeed Deed.isHeldBack) ≤ 1 := by
    simp only [Hand.empty] at polls answers stops_le
    omega
  have own : s.events.countP (Event.isDeed Deed.isHeldBack) =
      s.served.countP (Event.isDeed Deed.isHeldBack) := countP_cons_toNat _ _ _
  rw [own]
  cases held : s.isHeldBack with
  | true =>
    have some_held : 0 < s.served.countP (Event.isDeed Deed.isHeldBack) :=
      List.countP_pos_iff.mpr (List.any_eq_true.mp held)
    rw [Bool.toNat_true]
    omega
  | false =>
    exact List.countP_eq_zero.mpr (List.any_eq_false.mp held)

theorem countP_flatMap_isHeldBack (segments : List (Segment crew)) :
    (segments.flatMap events).countP (Event.isDeed Deed.isHeldBack) =
      segments.countP isHeldBack := by
  induction segments with
  | nil => rfl
  | cons s segments ih =>
    rw [List.flatMap_cons, List.countP_append, countP_cons_toNat, countP_isHeldBack, ih,
      Nat.add_comm]

end Segment

theorem Trace.segments {events : List Event} (trace : Trace crew events) :
    ∃ segments : List (Segment crew), events = segments.flatMap Segment.events := by
  induction trace with
  | nil => exact ⟨[], rfl⟩
  | @segment r served events this _ ih =>
    obtain ⟨segments, rfl⟩ := ih
    exact ⟨⟨r, served, this⟩ :: segments, rfl⟩

section start

variable [Frontier S] {c c' : Crawler S σ} {world world' : σ} {fuel : Nat} {result : StartResult}

theorem told_of_started (engine : c.core.engine = .sequential) {granted : Granted σ}
    (decided : (c.change .start).1 = .ok granted)
    (started : c.start world fuel = (result, c', world'))
    (unhurt : ∀ message, result ≠ .panicked message) :
    ∃ since, c'.core.journal.deeds = c.core.journal.deeds ++ since ∧
      c.crew.Told world since world' := by
  obtain ⟨initial, complete⟩ := Crawler.initializing_of_started decided
  obtain ⟨drained, run, ran, rfl, rfl, rfl⟩ :=
    Crawler.ran_of_started initial complete started unhurt
  rw [crawl_eq_runSequential engine] at ran
  have honest := honest_runSequential c.crew fuel ⟨{ c.core with phase := .running }, world⟩
  rw [ran] at honest
  obtain ⟨since, w, deeds, told, rfl⟩ := honest
  exact ⟨since, deeds, told⟩

theorem told_trace_of_started (engine : c.core.engine = .sequential)
    (started : c.start world fuel = (result, c', world'))
    (unhurt : ∀ message, result ≠ .panicked message) :
    ∃ events closed, Trace c.crew events ∧
      Elapsed c.core c'.core (events ++ closings closed) ∧
      c.crew.Told world ((events ++ closings closed).filterMap Event.deed?) world' := by
  rcases decided : (c.change .start).1 with e | granted
  · -- A refused start calls nobody.
    cases (Crawler.startBy_of_refused decided world _ fuel).symm.trans started
    exact ⟨[], [], .nil, .refl _, .nil _⟩
  · obtain ⟨drained, events, closed, -, trace, elapsed, -⟩ :=
      trace_of_started engine decided started unhurt
    obtain ⟨since, deeds, told⟩ := told_of_started engine decided started unhurt
    -- The trace and the calls were read off the same deeds.
    cases List.append_cancel_left (deeds.symm.trans elapsed.deeds)
    exact ⟨events, closed, trace, elapsed, told⟩

end start

/-- Whatever the components answer, the calls of a sequential crawl that no panic cuts short fall
into segments, one for each request in the order of the polls, and after them nothing is called but
to close the crew. As often as a segment ends with a carrier held back, the short circuits rise. -/
theorem dispatches_in_segments [Frontier S] (c c' : Crawler S σ)
    (engine : c.core.engine = .sequential) (world world' : σ) (fuel : Nat) (result : StartResult)
    (started : c.start world fuel = (result, c', world'))
    (unhurt : ∀ message, result ≠ .panicked message) :
    ∃ (segments : List (Segment c.crew)) (closed : List (ResourceKind × Nat)),
      let events := segments.flatMap Segment.events ++ closings closed
      Elapsed c.core c'.core events ∧
      c.crew.Told world (events.filterMap Event.deed?) world' ∧
      c'.core.stats.since c.core.stats .shortCircuits =
        .ofNat (segments.countP Segment.isHeldBack) := by
  obtain ⟨events, closed, trace, elapsed, told⟩ := told_trace_of_started engine started unhurt
  obtain ⟨segments, rfl⟩ := trace.segments
  refine ⟨segments, closed, elapsed, told, ?_⟩
  rw [elapsed.since_eq, List.countP_append, countP_raises_closings, Nat.add_zero,
    trace.account.stops, Segment.countP_flatMap_isHeldBack]

/-- Its world counts the questions it was asked; it says yes to every other one. -/
def moody : Act Nat Bool := .ofFn fun asked => (asked % 2 == 1, asked + 1)

/-- Of each kind of component one is moody and the other always willing. The first downloader never
gets a page. -/
def moodyCrew : Crew Nat where
  downloaders :=
    [⟨"moody", fun _ => moody, fun _ => .pure (.error (.described "no")), .pure (.ok ())⟩,
      ⟨"willing", fun _ => .pure true, fun r => .pure (.ok (.new r 200 [])), .pure (.ok ())⟩]
  processors :=
    [⟨fun _ => moody, fun response => .pure (.new response.request)⟩,
      ⟨fun _ => .pure true, fun response => .pure (.new response.request)⟩]
  pipelines :=
    [⟨"moody", fun _ => moody, .pure (.ok ())⟩, ⟨"willing", fun _ => .pure true, .pure (.ok ())⟩]

def moodyCrawler : Crawler (Layered Queue) Nat :=
  ⟨.new .sequential (.bare (.ofList [.named "a", .named "b"])), moodyCrew⟩

/-- The second page fails once, and both carriers are held back. -/
theorem dispatches_in_segments_of_moody :
    moodyCrawler.core.engine = .sequential ∧
      ∃ c' world', moodyCrawler.start 0 4 = (.finished, c', world') ∧
        ∃ (segments : List (Segment moodyCrew)) (closed : List (ResourceKind × Nat)),
          moodyCrew.Told 0 ((segments.flatMap Segment.events ++ closings closed).filterMap
            Event.deed?) world' ∧
          .ofNat (segments.countP Segment.isHeldBack) = (2 : UInt64) := by
  have ran : (moodyCrawler.start 0 4).1.isFinished = true := by decide +kernel
  have stops : (moodyCrawler.start 0 4).2.1.core.stats.since moodyCrawler.core.stats
      .shortCircuits = 2 := by decide +kernel
  rcases started : moodyCrawler.start 0 4 with ⟨result, c', world'⟩
  rw [started] at ran stops
  cases StartResult.eq_finished ran
  obtain ⟨segments, closed, -, told, counted⟩ :=
    dispatches_in_segments moodyCrawler c' rfl 0 world' 4 .finished started nofun
  exact ⟨rfl, c', world', rfl, segments, closed, told, counted.symm.trans stops⟩

end Sequential

end WebCrawl
