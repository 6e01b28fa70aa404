import WebCrawl.Proofs.Crawler.Ends
import WebCrawl.Proofs.Sequential.Trace
import WebCrawl.Proofs.Site.Player

/-!
# The accounts of a sequential crawl

The trace grammar fixes which events come with which, so the counters of a sequential crawl obey
exact equations. An account is kept of every stretch of a trace, with the requests and the responses
that are in hand where it begins and where it ends; the accounts of neighbouring stretches add up.
-/

namespace WebCrawl

namespace Deed

/-- A carrier that a pipeline would not pass on. -/
def isHeldBack : Deed → Bool
  | piped _ _ verdict => !verdict
  | _ => false

def discovered : Deed → List Request
  | completed c => c.discovered
  | _ => []

end Deed

namespace Event

def discovered : Event → List Request
  | did d => d.discovered
  | counted _ => []

theorem flatMap_discovered (events : List Event) :
    (events.filterMap deed?).flatMap Deed.discovered = events.flatMap discovered := by
  induction events with
  | nil => rfl
  | cons e events ih =>
    cases e with
    | did d => exact congrArg (d.discovered ++ ·) ih
    | counted n => exact ih

/-- Questions and calls that say nothing about how a request fared. -/
def isSilent : Event → Bool
  | did (.askedDownloader ..) => true
  | did (.askedProcessor ..) => true
  | did (.processed ..) => true
  | did (.piped _ _ verdict) => verdict
  | did (.closed ..) => true
  | _ => false

end Event

namespace StartResult

def isFinished : StartResult → Bool
  | finished => true
  | _ => false

theorem eq_finished {r : StartResult} (h : r.isFinished = true) : r = finished := by
  cases r with
  | finished => rfl
  | _ => cases h

end StartResult

namespace Sequential

open Working

variable {σ α : Type}

/-- What a crawl has begun and not finished. -/
structure Hand where
  requests : Nat
  responses : Nat
  discoveries : Nat
  heldBack : Nat

def Hand.empty : Hand := ⟨0, 0, 0, 0⟩

/-- The accounts of a stretch of a trace, from one hand to another. -/
structure Account (h : Hand) (events : List Event) (h' : Hand) : Prop where
  polls : events.countP (Event.isDeed Deed.isPoll) + h.requests =
    events.countP (Event.raises .unsupported) + events.countP (Event.raises .started) +
      h'.requests
  fetches : events.countP (Event.raises .started) =
    events.countP (Event.raises .succeeded) + events.countP (Event.raises .failed)
  failures : events.countP (Event.raises .failed) =
    events.countP (Event.isDeed Deed.isReturn) + events.countP (Event.isDeed Deed.isRefusal)
  answers : events.countP (Event.raises .succeeded) + h.responses =
    events.countP (Event.raises .processed) + events.countP (Event.raises .unprocessed) +
      h'.responses
  statuses : events.countP (Event.raises .succeeded) = events.countP (Event.raises .statuses)
  offers : (events.flatMap Event.discovered).length + h.discoveries =
    events.countP (Event.raises .enqueued) + events.countP (Event.raises .rejected) +
      h'.discoveries
  admissions : events.countP (Event.raises .enqueued) =
    events.countP (Event.isDeed Deed.isAdmission)
  completions : events.countP (Event.raises .processed) =
    events.countP (Event.isDeed Deed.isCompletion)
  stops : events.countP (Event.raises .shortCircuits) =
    events.countP (Event.isDeed Deed.isHeldBack)
  stops_le : events.countP (Event.isDeed Deed.isHeldBack) + h.heldBack ≤
    events.countP (Event.isDeed Deed.isCompletion) + h'.heldBack

namespace Account

variable {h h' h'' : Hand} {events events' : List Event}

theorem refl (h : Hand) : Account h [] h where
  polls := rfl
  fetches := rfl
  failures := rfl
  answers := rfl
  statuses := rfl
  offers := rfl
  admissions := rfl
  completions := rfl
  stops := rfl
  stops_le := Nat.le_refl _

theorem trans (a : Account h events h') (a' : Account h' events' h'') :
    Account h (events ++ events') h'' := by
  obtain ⟨h1, h2, h3, h4, h5, h6, h7, h8, h9, h10⟩ := a
  obtain ⟨h1', h2', h3', h4', h5', h6', h7', h8', h9', h10'⟩ := a'
  constructor <;>
    simp only [List.countP_append, List.flatMap_append, List.length_append] <;> omega

theorem cons_silent {e : Event} (silent : e.isSilent = true) (a : Account h events h') :
    Account h (e :: events) h' := by
  obtain ⟨h1, h2, h3, h4, h5, h6, h7, h8, h9, h10⟩ := a
  cases e with
  | counted n => cases silent
  | did d =>
    cases d with
    | askedDownloader | askedProcessor | processed | closed =>
      exact ⟨h1, h2, h3, h4, h5, h6, h7, h8, h9, h10⟩
    | piped k c verdict =>
      cases silent
      exact ⟨h1, h2, h3, h4, h5, h6, h7, h8, h9, h10⟩
    | _ => cases silent

theorem of_closings (closed : List (ResourceKind × Nat)) (h : Hand) :
    Account h (closings closed) h := by
  induction closed with
  | nil => exact refl h
  | cons c closed ih => exact cons_silent rfl ih

theorem of_offer (n : Nat) (r : Request) (a : Admission) :
    Account ⟨0, 0, n + 1, 0⟩ (Event.offer r a) ⟨0, 0, n, 0⟩ := by
  have admitted : 0 + (n + 1) = 1 + 0 + n := by omega
  have rejected : 0 + (n + 1) = 0 + 1 + n := by omega
  cases a with
  | queued => exact ⟨rfl, rfl, rfl, rfl, rfl, admitted, rfl, rfl, rfl, Nat.le_refl _⟩
  | _ => exact ⟨rfl, rfl, rfl, rfl, rfl, rejected, rfl, rfl, rfl, Nat.le_refl _⟩

theorem of_offers {rs : List Request} {as : List Admission} (same : as.length = rs.length) :
    Account ⟨0, 0, rs.length, 0⟩ (Event.offers rs as) .empty := by
  induction rs generalizing as with
  | nil => exact refl _
  | cons r rs ih =>
    cases as with
    | nil => cases same
    | cons a as => exact (of_offer rs.length r a).trans (ih (Nat.succ.inj same))

end Account

variable {crew : Crew σ} {events : List Event}

theorem Asked.account {deed : Nat → Bool → Deed} {k : Nat} {all : List α}
    {chosen : Option (Nat × α)} (asked : Asked deed k all events chosen)
    (silent : ∀ i verdict, (Event.did (deed i verdict)).isSilent = true) (h : Hand) :
    Account h events h := by
  induction asked with
  | nobody k => exact .refl h
  | yes k a rest => exact .cons_silent (silent k true) (.refl h)
  | no a later ih => exact .cons_silent (silent _ false) ih

theorem Piped.account {carrier : Carrier} {k : Nat} {ps : List (Pipeline σ)}
    (piped : Piped carrier k ps events) :
    ∃ heldBack ≤ 1, Account ⟨0, 1, 0, 0⟩ events ⟨0, 1, 0, heldBack⟩ := by
  induction piped with
  | through k => exact ⟨0, Nat.zero_le _, .refl _⟩
  | heldBack k p rest =>
    exact ⟨1, Nat.le_refl _, rfl, rfl, rfl, rfl, rfl, rfl, rfl, rfl, rfl, Nat.le_refl _⟩
  | passedOn p later ih =>
    obtain ⟨heldBack, le, account⟩ := ih
    exact ⟨heldBack, le, account.cons_silent rfl⟩

theorem Handled.account {response : Response} (handled : Handled crew response events) :
    Account ⟨0, 1, 0, 0⟩ events .empty := by
  cases handled with
  | drops nobody =>
    refine (nobody.account (fun _ _ => rfl) _).trans ?_
    exact ⟨rfl, rfl, rfl, rfl, rfl, rfl, rfl, rfl, rfl, Nat.le_refl _⟩
  | processes carrier admissions chosen along answered =>
    obtain ⟨heldBack, le, account⟩ := along.account
    have completed : Account ⟨0, 1, 0, heldBack⟩ [.did (.completed carrier), .counted .processed]
        ⟨0, 0, carrier.discovered.length, 0⟩ := by
      refine ⟨rfl, rfl, rfl, rfl, rfl, ?_, rfl, rfl, rfl, ?_⟩
      · simp [Event.discovered, Deed.discovered, Event.raises, Count.counter]
      · exact (Nat.zero_add heldBack).le.trans le
    exact (((chosen.account (fun _ _ => rfl) _).trans (account.cons_silent rfl)).trans
      completed).trans (.of_offers answered)

theorem Fetched.account {k : Nat} {r : Request} (fetched : Fetched crew k r events) :
    Account ⟨1, 0, 0, 0⟩ events .empty := by
  cases fetched with
  | fails cause a =>
    cases a with
    | _ => exact ⟨rfl, rfl, rfl, rfl, rfl, rfl, rfl, rfl, rfl, Nat.le_refl _⟩
  | answers response handled =>
    have answered : Account ⟨1, 0, 0, 0⟩ [.counted .started,
        .did (.downloaded k r (.ok response)), .counted .succeeded,
        .counted (.status response.status)] ⟨0, 1, 0, 0⟩ :=
      ⟨rfl, rfl, rfl, rfl, rfl, rfl, rfl, rfl, rfl, Nat.le_refl _⟩
    exact answered.trans handled.account

theorem Served.account {r : Request} (served : Served crew r events) :
    Account ⟨1, 0, 0, 0⟩ events .empty := by
  cases served with
  | unsupported nobody =>
    refine (nobody.account (fun _ _ => rfl) _).trans ?_
    exact ⟨rfl, rfl, rfl, rfl, rfl, rfl, rfl, rfl, rfl, Nat.le_refl _⟩
  | fetches chosen fetched =>
    exact (chosen.account (fun _ _ => rfl) _).trans fetched.account

theorem Trace.account (trace : Trace crew events) : Account .empty events .empty := by
  induction trace with
  | nil => exact .refl _
  | @segment r served events this rest ih =>
    have polled : Account .empty [.did (.polled r)] ⟨1, 0, 0, 0⟩ :=
      ⟨rfl, rfl, rfl, rfl, rfl, rfl, rfl, rfl, rfl, Nat.le_refl _⟩
    exact (polled.trans this.account).trans ih

variable {S : Type} [Frontier S]

theorem crawl_eq_runSequential {engine : Engine} (sequential : engine = .sequential)
    (crew : Crew σ) (schedule : Schedule S σ) (fuel : Nat) :
    Crawler.crawl engine crew schedule fuel = Crawler.runSequential crew fuel := by
  simp only [Crawler.crawl, sequential]

theorem trace_of_runSequential {crew : Crew σ} {run run' : Run S σ} {fuel : Nat} {drained : Bool}
    (ran : Crawler.runSequential crew fuel run = (.ok drained, run')) :
    ∃ events closed, Trace crew events ∧
      Elapsed run.core run'.core (events ++ closings closed) ∧
      (drained = true → ∃ s, Frontier.poll s = (none, run'.core.frontier)) ∧
      (drained = false → fuel ≤ events.countP (Event.isDeed Deed.isPoll)) := by
  obtain ⟨dry, last, crawled, ran⟩ := bind_eq_ok (update_bind_eq_ok ran)
  obtain ⟨events, trace, elapsed, drains, spent⟩ := trace_of_crawl crawled
  have announced := (Elapsed.say run.core (.startingSequential crew.downloaders.length
    crew.processors.length crew.pipelines.length)).trans elapsed
  cases dry with
  | false =>
    cases ran
    exact ⟨events, [], trace, announced.trans (.refl _), nofun, spent⟩
  | true =>
    obtain ⟨_, run'', concluded, ran⟩ := bind_eq_ok ran
    cases ran
    obtain ⟨closed, released⟩ := elapsed_of_conclude concluded
    refine ⟨events, closed, trace, announced.trans released, ?_, nofun⟩
    rw [(released_of_conclude concluded).frontier]
    exact drains

section start

variable {c c' : Crawler S σ} {world world' : σ} {fuel : Nat}

/-- A start that was granted and that no panic has cut short has served requests, all there were or
as many as it had fuel for. -/
theorem trace_of_started (engine : c.core.engine = .sequential) {granted : Granted σ}
    (decided : (c.change .start).1 = .ok granted) {result : StartResult}
    (started : c.start world fuel = (result, c', world'))
    (unhurt : ∀ message, result ≠ .panicked message) :
    ∃ drained events closed, result = (if drained then .finished else .unfinished) ∧
      Trace c.crew events ∧ Elapsed c.core c'.core (events ++ closings closed) ∧
      (drained = true → ∃ s, Frontier.poll s = (none, c'.core.frontier)) ∧
      (drained = false → fuel ≤ events.countP (Event.isDeed Deed.isPoll)) := by
  obtain ⟨initial, complete⟩ := Crawler.initializing_of_started decided
  obtain ⟨drained, run, ran, rfl, rfl, rfl⟩ :=
    Crawler.ran_of_started initial complete started unhurt
  rw [crawl_eq_runSequential engine] at ran
  obtain ⟨events, closed, trace, elapsed, drains, spent⟩ := trace_of_runSequential ran
  have began : Elapsed c.core { c.core with phase := .running } [] := .of_same rfl rfl rfl
  exact ⟨drained, events, closed, rfl, trace, began.trans elapsed, drains, spent⟩

theorem trace_of_finished (engine : c.core.engine = .sequential)
    (finished : c.start world fuel = (.finished, c', world')) :
    ∃ events closed, Trace c.crew events ∧
      Elapsed c.core c'.core (events ++ closings closed) ∧
      ∃ s, Frontier.poll s = (none, c'.core.frontier) := by
  rcases decided : (c.change .start).1 with e | granted
  · cases (Crawler.startBy_of_refused decided world _ fuel).symm.trans finished
  · obtain ⟨drained, events, closed, ended, trace, elapsed, drains, -⟩ :=
      trace_of_started engine decided finished nofun
    cases drained with
    | true => exact ⟨events, closed, trace, elapsed, drains rfl⟩
    | false => cases ended

end start

/-- A sequential crawl that returned has left nothing pending, and the counters of the run obey
these equations, whatever the components answered and whatever the frontier accepted. -/
theorem accounts_of_finished (c c' : Crawler (Layered Store) σ)
    (engine : c.core.engine = .sequential) (world world' : σ) (fuel : Nat)
    (finished : c.start world fuel = (.finished, c', world')) :
    c'.core.frontier.base.queue.pending = [] ∧
      ∃ since, c'.core.journal.deeds = c.core.journal.deeds ++ since ∧
        let risen := c'.core.stats.since c.core.stats
        risen .started = risen .succeeded + risen .failed ∧
        risen .succeeded = risen .processed + risen .unprocessed ∧
        risen .succeeded = risen .statuses ∧
        risen .enqueued + risen .rejected = .ofNat (since.flatMap Deed.discovered).length ∧
        (risen .shortCircuits = .ofNat (since.countP Deed.isHeldBack) ∧
          risen .processed = .ofNat (since.countP Deed.isCompletion) ∧
          since.countP Deed.isHeldBack ≤ since.countP Deed.isCompletion) ∧
        .ofNat c.core.frontier.base.queue.pending.length + risen .enqueued =
          risen .unsupported + risen .succeeded + .ofNat (since.countP Deed.isRefusal) := by
  obtain ⟨events, closed, trace, elapsed, s, dry⟩ := trace_of_finished engine finished
  have account := trace.account.trans (.of_closings closed .empty)
  have size := elapsed.frontier.size
  have pending : c'.core.frontier.base.queue.pending = [] :=
    (ListedFrontier.pending_of_dry_poll dry).2
  have empty : Frontier.size c'.core.frontier = 0 := congrArg List.length pending
  have opened : Frontier.size c.core.frontier = c.core.frontier.base.queue.pending.length := rfl
  refine ⟨pending, _, elapsed.deeds, ?_⟩
  simp only [elapsed.since_eq, ← UInt64.ofNat_add, Event.countP_deeds, Event.flatMap_discovered]
  obtain ⟨polls, fetches, failures, answers, statuses, offers, admissions, completions, stops,
    stops_le⟩ := account
  simp only [Hand.empty, Nat.add_zero] at polls answers offers stops_le
  refine ⟨congrArg _ fetches, congrArg _ answers, congrArg _ statuses, congrArg _ offers.symm,
    ⟨congrArg _ stops, congrArg _ completions, stops_le⟩, congrArg _ ?_⟩
  omega

/-- The circle over a queue that has room for one request and takes no failed request back. -/
def narrowCircle : Crawler (Layered Store) (String → Nat) :=
  .prepared .sequential ((Layered.bare ⟨.empty .lifo, some 1, true⟩).wrap .exact)
    (Conduct.circle.players Conduct.circleLinks) [.named "a"]

theorem accounts_of_circle :
    narrowCircle.core.engine = .sequential ∧
      ∃ c' world', narrowCircle.start Conduct.circle.failures 3 = (.finished, c', world') ∧
        c'.core.frontier.base.queue.pending = [] ∧
        ∃ since, c'.core.journal.deeds = narrowCircle.core.journal.deeds ++ since ∧
          let risen := c'.core.stats.since narrowCircle.core.stats
          .ofNat narrowCircle.core.frontier.base.queue.pending.length + risen .enqueued =
            risen .unsupported + risen .succeeded + .ofNat (since.countP Deed.isRefusal) := by
  have ran : (narrowCircle.start Conduct.circle.failures 3).1.isFinished = true := by
    decide +kernel
  rcases started : narrowCircle.start Conduct.circle.failures 3 with ⟨result, c', world'⟩
  rw [started] at ran
  cases StartResult.eq_finished ran
  obtain ⟨pending, since, deeds, -, -, -, -, -, balance⟩ :=
    accounts_of_finished narrowCircle c' rfl _ world' 3 started
  exact ⟨rfl, c', world', rfl, pending, since, deeds, balance⟩

end Sequential

end WebCrawl
