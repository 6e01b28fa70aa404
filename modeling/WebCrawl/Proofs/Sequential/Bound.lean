import WebCrawl.Proofs.Crawl.Admissions
import WebCrawl.Proofs.Crawl.Calm
import WebCrawl.Proofs.Sequential.Accounting

/-!
# How long a sequential crawl lasts

The queue may grow in every round, and a failed request comes back past the filter, so no round is
sure to bring the end closer. What bounds a crawl is its past: each poll takes out a request that
was either accepted, which happens to a fingerprint once, or given back after a failed download.
-/

namespace WebCrawl

namespace Deed

def isFailure : Deed → Bool
  | downloaded _ _ (.error _) => true
  | _ => false

/-- A failed download, or what follows it. -/
def isMishap : Deed → Bool
  | downloaded _ _ (.error _) => true
  | requeued .. => true
  | _ => false

/-- Anything but an offer. -/
def isWork : Deed → Bool
  | pushed .. => false
  | _ => true

end Deed

namespace Event

/-- No download failed. -/
def Plain (events : List Event) : Prop := ∀ e ∈ events, e.isDeed Deed.isMishap = false

/-- Each failed request was offered to the frontier again. -/
def GivenBack (events : List Event) : Prop :=
  events.countP (isDeed Deed.isFailure) =
    events.countP (isDeed Deed.isReturn) + events.countP (isDeed Deed.isRefusal)

namespace GivenBack

variable {events events' : List Event}

theorem append (h : GivenBack events) (h' : GivenBack events') : GivenBack (events ++ events') := by
  unfold GivenBack at *
  simp only [List.countP_append]
  omega

theorem of_plain (plain : Plain events) : GivenBack events := by
  have silent : ∀ kind, (∀ d, Deed.isMishap d = false → kind d = false) →
      events.countP (isDeed kind) = 0 := by
    intro kind part
    apply List.countP_eq_zero.mpr
    intro e he
    rw [isDeed_eq_false part (plain e he)]
    exact Bool.false_ne_true
  unfold GivenBack
  rw [silent Deed.isFailure, silent Deed.isReturn, silent Deed.isRefusal]
  · intro d plain
    cases d <;> first | rfl | cases plain
  · intro d plain
    cases d <;> first | rfl | cases plain
  · intro d plain
    cases d with
    | downloaded k r result => cases result <;> first | rfl | cases plain
    | _ => rfl

end GivenBack

/-- Nothing was done but to offer requests. -/
def Idle (events : List Event) : Prop := ∀ e ∈ events, e.isDeed Deed.isWork = false

theorem Idle.append {events events' : List Event} (h : Idle events) (h' : Idle events') :
    Idle (events ++ events') :=
  List.forall_mem_append.mpr ⟨h, h'⟩

theorem Idle.plain {events : List Event} (h : Idle events) : Plain events := by
  intro e he
  refine isDeed_eq_false ?_ (h e he)
  intro d idle
  cases d <;> first | rfl | cases idle

theorem idle_nil : Idle [] := List.forall_mem_nil _

theorem idle_offer (r : Request) (a : Admission) : Idle (offer r a) :=
  List.forall_mem_cons.mpr ⟨rfl, List.forall_mem_singleton.mpr rfl⟩

end Event

namespace Working

theorem plain_closings (closed : List (ResourceKind × Nat)) : Event.Plain (closings closed) :=
  forall_closings (fun _ _ => rfl) closed

end Working

namespace Sequential

open Working

variable {σ α : Type} {crew : Crew σ} {events : List Event}

theorem Handled.plain {response : Response} (handled : Handled crew response events) :
    Event.Plain events := by
  refine handled.forall ?_ fun _ => rfl
  intro d handling
  cases d <;> first | rfl | cases handling

theorem Fetched.givenBack {k : Nat} {r : Request} (fetched : Fetched crew k r events) :
    Event.GivenBack events := by
  cases fetched with
  | fails cause a =>
    cases a with
    | _ => rfl
  | answers response handled =>
    refine .append ?_ (.of_plain handled.plain)
    rfl

theorem Served.givenBack {r : Request} (served : Served crew r events) :
    Event.GivenBack events := by
  cases served with
  | unsupported nobody => exact .append (.of_plain (nobody.forall fun _ _ => rfl)) rfl
  | fetches chosen fetched =>
    exact .append (.of_plain (chosen.forall fun _ _ => rfl)) fetched.givenBack

theorem Trace.givenBack (trace : Trace crew events) : Event.GivenBack events := by
  induction trace with
  | nil => rfl
  | @segment r served events this rest ih =>
    have polled : Event.GivenBack [.did (.polled r)] := rfl
    exact (polled.append this.givenBack).append ih

end Sequential

/-- Gives a crawler a component or a seed; the frontier stays and nothing begins. -/
def Change.isAddition {S σ : Type} : Change S σ → Bool
  | frontier _ => false
  | start => false
  | _ => true

namespace Crawler

variable {S σ : Type} [Frontier S] {c c' : Crawler S σ}

/-- Additions were made to a crawler. -/
structure Extends (c c' : Crawler S σ) (events : List Event) : Prop where
  phase : c'.phase = c.phase
  engine : c'.core.engine = c.core.engine
  elapsed : Elapsed c.core c'.core events
  idle : Event.Idle events

theorem Extends.of_same (phase : c'.phase = c.phase) (core : c'.core = c.core) :
    c.Extends c' [] :=
  ⟨phase, congrArg Core.engine core, core ▸ .refl _, Event.idle_nil⟩

theorem extends_of_grants {ch : Change S σ} {g : Granted σ} (granted : ch.Grants c g c')
    (addition : ch.isAddition = true) : ∃ events, c.Extends c' events := by
  cases granted with
  | downloader | processor | pipeline => exact ⟨[], .of_same rfl rfl⟩
  | seed r => exact ⟨_, Core.phase_push _ r, rfl, .push c.core r, Event.idle_offer _ _⟩
  | frontier | start => cases addition

theorem extends_of_changeAll {changes : List (Change S σ)}
    (additions : ∀ ch ∈ changes, ch.isAddition = true) (made : c.changeAll changes = .ok c') :
    ∃ events, c.Extends c' events := by
  induction changes generalizing c with
  | nil =>
    cases made
    exact ⟨[], .of_same rfl rfl⟩
  | cons ch changes ih =>
    obtain ⟨first, others⟩ := List.forall_mem_cons.mp additions
    obtain ⟨next, changed, made⟩ := changed_of_changeAll made
    obtain ⟨g, granted⟩ := grants_of_changed changed
    obtain ⟨events, h⟩ := extends_of_grants granted first
    obtain ⟨events', h'⟩ := ih others made
    exact ⟨events ++ events', h'.phase.trans h.phase, h'.engine.trans h.engine,
      h.elapsed.trans h'.elapsed, h.idle.append h'.idle⟩

end Crawler

namespace Sequential

open Working

variable {σ : Type}

/-- What a queue under filters has gone through since it was empty comes out even: each poll took
out a request that was accepted or whose download had failed. -/
theorem polls_of_replays {opened s : Layered Queue} {events : List Event}
    (h : Replays opened events s) (empty : opened.base.pending = [])
    (givenBack : Event.GivenBack events) :
    events.countP (Event.isDeed Deed.isPoll) + s.base.pending.length =
      events.countP (Event.isDeed Deed.isAdmission) +
        events.countP (Event.isDeed Deed.isFailure) := by
  have size : s.base.pending.length + events.countP (Event.isDeed Deed.isPoll) =
      opened.base.pending.length + events.countP (Event.isDeed Deed.isAdmission) +
        events.countP (Event.isDeed Deed.isReturn) := h.size
  -- A queue takes everything back, so each failed download is followed by a return.
  have taken := h.countP_isRefusal fun _ _ => rfl
  rw [empty, List.length_nil] at size
  unfold Event.GivenBack at givenBack
  omega

section start

variable {S : Type} [Frontier S] {c₀ c : Crawler S σ}

/-- What a sequential crawl was that no panic has cut short, from the additions before it to its end
or to the end of the fuel. -/
structure Lapse (c₀ c : Crawler S σ) (fuel : Nat) (drained : Bool) (c' : Crawler S σ)
    (seeds segments : List Event) (closed : List (ResourceKind × Nat)) : Prop where
  elapsed : Elapsed c₀.core c'.core (seeds ++ segments ++ closings closed)
  seeds : Event.Idle seeds
  trace : Trace c.crew segments
  dry : drained = true → ∃ s, Frontier.poll s = (none, c'.core.frontier)
  spent : drained = false → fuel ≤ segments.countP (Event.isDeed Deed.isPoll)

theorem lapse_of_started (initial : c₀.phase = .initializing)
    (engine : c₀.core.engine = .sequential) {changes : List (Change S σ)}
    (additions : ∀ ch ∈ changes, ch.isAddition = true) (made : c₀.changeAll changes = .ok c)
    {world world' : σ} {fuel : Nat} {result : StartResult} {c' : Crawler S σ}
    (started : c.start world fuel = (result, c', world'))
    (unhurt : ∀ message, result ≠ .panicked message) :
    ∃ drained seeds segments closed, result = (if drained then .finished else .unfinished) ∧
      Lapse c₀ c fuel drained c' seeds segments closed := by
  obtain ⟨seeds, h⟩ := Crawler.extends_of_changeAll additions made
  have sequential := h.engine.trans engine
  have complete : c.checkCrew = .ok () := by rw [Crawler.checkCrew, sequential]
  have decided := congrArg Prod.fst (Crawler.change_start (h.phase.trans initial) complete)
  obtain ⟨drained, segments, closed, ended, trace, elapsed, dry, spent⟩ :=
    trace_of_started sequential decided started unhurt
  refine ⟨drained, seeds, segments, closed, ended, ?_, h.idle, trace, dry, spent⟩
  rw [List.append_assoc]
  exact h.elapsed.trans elapsed

theorem unhurt_of_calm {changes : List (Change S σ)} (engine : c₀.core.engine = .sequential)
    (initial : c₀.phase = .initializing)
    (additions : ∀ ch ∈ changes, ch.isAddition = true) (made : c₀.changeAll changes = .ok c)
    (calm : c.crew.Calm) (world : σ) (fuel : Nat) :
    ∀ message, (c.start world fuel).1 ≠ .panicked message := by
  obtain ⟨seeds, h⟩ := Crawler.extends_of_changeAll additions made
  have sequential := h.engine.trans engine
  have complete : c.checkCrew = .ok () := by rw [Crawler.checkCrew, sequential]
  obtain ⟨drained, run, ran, -⟩ :=
    Crawler.calm_runSequential calm fuel ⟨{ c.core with phase := .running }, world⟩
  rw [← crawl_eq_runSequential sequential c.crew (.fair fuel) fuel] at ran
  have started : c.start world fuel = _ :=
    Crawler.startBy_of_ok (h.phase.trans initial) complete ran
  rw [started]
  cases drained <;> exact nofun

namespace Lapse

variable {fuel : Nat} {drained : Bool} {c' : Crawler S σ} {seeds segments : List Event}
  {closed : List (ResourceKind × Nat)}

theorem givenBack (h : Lapse c₀ c fuel drained c' seeds segments closed) :
    Event.GivenBack (seeds ++ segments ++ closings closed) :=
  ((Event.GivenBack.of_plain h.seeds.plain).append h.trace.givenBack).append
    (.of_plain (plain_closings closed))

theorem fuel_le (h : Lapse c₀ c fuel drained c' seeds segments closed) (left : drained = false) :
    fuel ≤ (seeds ++ segments ++ closings closed).countP (Event.isDeed Deed.isPoll) := by
  have served := h.spent left
  rw [List.countP_append, List.countP_append]
  omega

end Lapse

end start

/-- A sequential crawl over a queue under one exact filter, whose crew does not panic, polls
requests that were accepted and requests whose download had failed, and nothing is left when it
ends. If all fingerprints that were ever offered are among finitely many, and no more than so many
downloads failed, then there are no more polls than these are together, and the crawl has ended if
it was given time for one more. -/
theorem ends_within (order : PollOrder) (c₀ c : Crawler (Layered Queue) σ)
    (initial : c₀.phase = .initializing) (engine : c₀.core.engine = .sequential)
    (fresh : c₀.core.frontier = (Layered.bare (.empty order)).wrap .exact)
    (changes : List (Change (Layered Queue) σ)) (additions : ∀ ch ∈ changes, ch.isAddition = true)
    (made : c₀.changeAll changes = .ok c) (calm : c.crew.Calm) (world : σ) (fuel : Nat) :
    ∃ result c' world' since, c.start world fuel = (result, c', world') ∧
      c'.core.journal.deeds = c₀.core.journal.deeds ++ since ∧
      since.countP Deed.isPoll + c'.core.frontier.base.pending.length =
        since.countP Deed.isAdmission + since.countP Deed.isFailure ∧
      (result = .finished → c'.core.frontier.base.pending = [] ∧
        since.countP Deed.isPoll = since.countP Deed.isAdmission + since.countP Deed.isFailure) ∧
      ∀ (U : Finset String) (K : Nat),
        (∀ r ∈ since.filterMap Deed.offered?, r.fingerprint ∈ U) →
        since.countP Deed.isFailure ≤ K →
          since.countP Deed.isPoll ≤ U.card + K ∧ (U.card + K < fuel → result = .finished) := by
  rcases started : c.start world fuel with ⟨result, c', world'⟩
  have unhurt : ∀ message, result ≠ .panicked message := by
    have calmly := unhurt_of_calm engine initial additions made calm world fuel
    rwa [started] at calmly
  obtain ⟨drained, seeds, segments, closed, rfl, lapse⟩ :=
    lapse_of_started initial engine additions made started unhurt
  have replays := lapse.elapsed.frontier
  rw [fresh] at replays
  have balance := polls_of_replays replays rfl lapse.givenBack
  refine ⟨_, _, _, _, rfl, lapse.elapsed.deeds, ?_⟩
  simp only [Event.countP_deeds]
  refine ⟨balance, ?_, ?_⟩
  · intro finished
    cases drained with
    | false => cases finished
    | true =>
      obtain ⟨s, polled⟩ := lapse.dry rfl
      have pending : c'.core.frontier.base.pending = [] :=
        (ListedFrontier.pending_of_dry_poll polled).2
      rw [pending] at balance
      exact ⟨pending, balance⟩
  · intro U K known failed
    have admitted := replays.countP_isAdmission_le known
    refine ⟨by omega, ?_⟩
    intro enough
    cases drained with
    | true => rfl
    | false =>
      -- There were more rounds than there can be polls.
      have served := lapse.fuel_le rfl
      omega

theorem calm_players (b : Conduct) (discovered : String → List Request) :
    (b.players discovered).Calm where
  downloader_supports d known r := by
    rw [List.mem_singleton.mp known]
    exact Act.calm_pure _
  downloads d known r := by
    rw [List.mem_singleton.mp known]
    intro view left
    by_cases none_left : left r.fingerprint = 0
    · exact ⟨_, congrArg Call.outcome (Conduct.download_played_of_eq r view none_left)⟩
    · exact ⟨_, congrArg Call.outcome (Conduct.download_played_of_ne r view none_left)⟩
  processor_supports p known response := by
    rw [List.mem_singleton.mp known]
    exact Act.calm_pure _
  processes p known response := by
    rw [List.mem_singleton.mp known]
    exact Act.calm_pure _
  pipes p known carrier := by
    rw [List.mem_singleton.mp known]
    exact Act.calm_pure _
  downloaders_close d known := by
    rw [List.mem_singleton.mp known]
    exact Act.calm_pure _
  pipelines_close p known := by
    rw [List.mem_singleton.mp known]
    exact Act.calm_pure _

/-- The circle over a queue that is polled from its back. -/
def deepCircle : Crawler (Layered Queue) (String → Nat) :=
  .prepared .sequential ((Layered.bare (.empty .lifo)).wrap .exact)
    (Conduct.circle.players Conduct.circleLinks) [.named "a"]

def deepCircleChanges : List (Change (Layered Queue) (String → Nat)) :=
  deepCircle.crew.downloaders.map .downloader ++ deepCircle.crew.changes [.named "a"]

/-- Two fingerprints and two failures allow four polls, and the circle takes them all. -/
theorem ends_within_of_circle :
    (Crawler.sequential ((Layered.bare (Queue.empty .lifo)).wrap .exact)).changeAll
        deepCircleChanges = .ok deepCircle ∧
      (∀ ch ∈ deepCircleChanges, ch.isAddition = true) ∧ deepCircle.crew.Calm ∧
      ∃ c' world', deepCircle.start Conduct.circle.failures 5 = (.finished, c', world') ∧
        c'.core.frontier.base.pending = [] ∧
        c'.core.journal.deeds.countP Deed.isPoll = ({"a://", "b://"} : Finset String).card + 2 := by
  have made : (Crawler.sequential ((Layered.bare (Queue.empty .lifo)).wrap .exact)).changeAll
      deepCircleChanges = .ok deepCircle := Crawler.sequential_changeAll _ _ _
  have additions : ∀ ch ∈ deepCircleChanges, ch.isAddition = true := by decide
  have calm : deepCircle.crew.Calm := calm_players Conduct.circle Conduct.circleLinks
  obtain ⟨result, c', world', since, started, deeds, -, ended, bound⟩ :=
    ends_within .lifo _ deepCircle rfl rfl rfl deepCircleChanges additions made calm
      Conduct.circle.failures 5
  have past : since = (deepCircle.start Conduct.circle.failures 5).2.1.core.journal.deeds := by
    rw [started, deeds]
    rfl
  have known : ∀ r ∈ since.filterMap Deed.offered?,
      r.fingerprint ∈ ({"a://", "b://"} : Finset String) := by
    rw [past]
    decide +kernel
  have failed : since.countP Deed.isFailure ≤ 2 := by
    rw [past]
    decide +kernel
  have polls : since.countP Deed.isPoll = 4 := by
    rw [past]
    decide +kernel
  obtain ⟨-, enough⟩ := bound {"a://", "b://"} 2 known failed
  cases enough (by decide)
  obtain ⟨pending, -⟩ := ended rfl
  refine ⟨made, additions, calm, c', world', started, pending, ?_⟩
  rw [deeds]
  exact polls

end Sequential

end WebCrawl
