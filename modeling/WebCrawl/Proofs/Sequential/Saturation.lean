import WebCrawl.Proofs.Crawl.Turnover
import WebCrawl.Proofs.Frontier.Saturation
import WebCrawl.Proofs.Sequential.Bound
import WebCrawl.Simulation.Hashing

/-!
# Crawls of endless sites

Pages may link to ever new ones, so that no finite set of fingerprints bounds a crawl. Under a Bloom
filter it ends nonetheless, since the filter fills up: only so many offers are accepted as there are
bits. It also accepts no fingerprint twice, so none is fetched with success twice.
-/

namespace WebCrawl

namespace Deed

/-- The end of a download, with a response or with a return. -/
def isSettling : Deed → Bool
  | downloaded .. => true
  | requeued .. => true
  | _ => false

end Deed

namespace Event

/-- How often a request with this fingerprint was fetched with success or given back. -/
def settled (u : String) (events : List Event) : Nat :=
  events.countP (isDeed (Deed.fetches u)) + events.countP (isDeed (Deed.returns u))

theorem settled_append (u : String) (events events' : List Event) :
    settled u (events ++ events') = settled u events + settled u events' := by
  simp only [settled, List.countP_append]
  omega

theorem settled_eq_zero (u : String) {events : List Event}
    (unsettled : ∀ e ∈ events, e.isDeed Deed.isSettling = false) : settled u events = 0 := by
  have silent : ∀ kind, (∀ d, Deed.isSettling d = false → kind d = false) →
      events.countP (isDeed kind) = 0 := by
    intro kind part
    apply List.countP_eq_zero.mpr
    intro e he
    rw [isDeed_eq_false part (unsettled e he)]
    exact Bool.false_ne_true
  rw [settled, silent (Deed.fetches u), silent (Deed.returns u)]
  all_goals
    intro d unsettled
    cases d <;> first | rfl | cases unsettled

end Event

namespace Sequential

open Working

variable {σ : Type} {crew : Crew σ} {events : List Event}

theorem Handled.settled {response : Response} (handled : Handled crew response events)
    (u : String) : Event.settled u events = 0 := by
  refine Event.settled_eq_zero u (handled.forall ?_ fun _ => rfl)
  intro d handling
  cases d <;> first | rfl | cases handling

theorem Fetched.settled {k : Nat} {r : Request} (fetched : Fetched crew k r events)
    (u : String) : Event.settled u events = (r.fingerprint == u).toNat := by
  cases fetched with
  | fails cause a => cases same : r.fingerprint == u <;>
      simp [Event.settled, Event.isDeed, Deed.fetches, Deed.returns, same]
  | answers response handled =>
    rw [Event.settled_append, handled.settled u]
    cases same : r.fingerprint == u <;>
      simp [Event.settled, Event.isDeed, Deed.fetches, Deed.returns, same]

theorem Served.settled_le {r : Request} (served : Served crew r events) (u : String) :
    Event.settled u events ≤ (r.fingerprint == u).toNat := by
  cases served with
  | unsupported nobody =>
    have asked := Event.settled_eq_zero u (nobody.forall fun _ _ => rfl)
    rw [Event.settled_append, asked]
    exact Nat.zero_le _
  | fetches chosen fetched =>
    have asked := Event.settled_eq_zero u (chosen.forall fun _ _ => rfl)
    rw [Event.settled_append, asked, fetched.settled u, Nat.zero_add]

theorem Trace.settled_le (trace : Trace crew events) (u : String) :
    Event.settled u events ≤ (Event.polled events).countP (·.fingerprint == u) := by
  induction trace with
  | nil => exact Nat.le_refl 0
  | @segment r served events this rest ih =>
    have first := this.settled_le u
    have split : Event.settled u (.did (.polled r) :: served ++ events) =
        Event.settled u served + Event.settled u events :=
      Event.settled_append u (.did (.polled r) :: served) events
    have polled : Event.polled (.did (.polled r) :: served ++ events) =
        r :: (Event.polled served ++ Event.polled events) :=
      congrArg (r :: ·) (Event.polled_append served events)
    rw [split, polled, countP_cons_toNat, List.countP_append]
    omega

end Sequential

namespace Replays

open Layered

theorem saturates {m : Nat} {f : BloomFilter} {q : Queue} {s : Layered Queue}
    {events : List Event}
    (h : Replays ((bare q).estimating f Request.fingerprint) events s) (within : f.Within m) :
    (f.setBits m).card + events.countP (Event.isDeed Deed.isAdmission) ≤ m ∧
      (Event.admitted events).Nodup ∧ ∀ i ∈ Event.admitted events, f.isNew i = true := by
  -- Only pushes touch the filter, and the queue behind it may be any.
  generalize start : (bare q).estimating f Request.fingerprint = opened at h
  induction h generalizing f q with
  | done => exact ⟨BloomFilter.card_setBits_le m f, List.nodup_nil, nofun⟩
  | @push s s' s'' r a events answer rest ih =>
    subst start
    cases fresh : f.isNew r.fingerprint with
    | false =>
      have seen : Frontier.push ((bare q).estimating f Request.fingerprint) r =
          (.duplicate r.fingerprint, (bare q).estimating f Request.fingerprint) :=
        push_wrap_of_seen fresh
      rw [seen] at answer
      cases answer
      exact ih within rfl
    | true =>
      have pushed : Frontier.push ((bare q).estimating f Request.fingerprint) r =
          (.queued, (bare (q.push r)).estimating (f.record r.fingerprint) Request.fingerprint) :=
        push_wrap_of_new fresh
      rw [pushed] at answer
      cases answer
      obtain ⟨filled, nodup, later⟩ := ih (within.record _) rfl
      have more := BloomFilter.card_setBits_lt_record within fresh
      refine ⟨?_, ?_, ?_⟩
      · have first : Event.isDeed Deed.isAdmission (.did (.pushed r .queued)) = true := rfl
        rw [List.countP_cons_of_pos first]
        omega
      · refine List.nodup_cons.mpr ⟨?_, nodup⟩
        intro twice
        have again := later _ twice
        rw [BloomFilter.isNew_record_self] at again
        cases again
      · intro i member
        rcases List.mem_cons.mp member with rfl | member
        · exact fresh
        · by_contra seen
          have old := BloomFilter.isNew_record_of_seen (Bool.eq_false_iff.mpr seen) r.fingerprint
          rw [later i member] at old
          cases old
  | poll answer rest ih =>
    subst start
    obtain ⟨-, rfl⟩ := Prod.mk.inj answer
    exact ih (q := q.poll.2) within rfl
  | dryPoll answer rest ih =>
    subst start
    obtain ⟨-, rfl⟩ := Prod.mk.inj answer
    exact ih (q := q.poll.2) within rfl
  | @requeue s s' s'' r a events answer rest ih =>
    subst start
    obtain ⟨-, rfl⟩ := Prod.mk.inj answer
    exact ih (q := q.push r) within rfl
  | @skip s s'' e events apart rest ih =>
    subst start
    obtain ⟨filled, nodup, new⟩ := ih within rfl
    have silent : e.isDeed Deed.isAdmission = false := by
      refine Event.isDeed_eq_false ?_ apart
      intro d apart
      cases d <;> first | rfl | cases apart
    have unadmitted : e.admitted? = none := by
      cases e with
      | did d => cases d <;> first | rfl | cases apart
      | counted n => rfl
    rw [List.countP_cons_of_neg (by rw [silent]; exact Bool.false_ne_true), Event.admitted,
      List.filterMap_cons_none unadmitted]
    exact ⟨filled, nodup, new⟩

end Replays

namespace Sequential

open Working Layered

variable {σ : Type} {m : Nat} {f : BloomFilter} {c₀ c c' : Crawler (Layered Queue) σ} {fuel : Nat}
  {drained : Bool} {seeds segments : List Event} {closed : List (ResourceKind × Nat)}

theorem Lapse.fetches_le {order : PollOrder}
    (h : Lapse c₀ c fuel drained c' seeds segments closed)
    (fresh : c₀.core.frontier = (bare (.empty order)).wrap (.bloom f)) (within : f.Within m)
    (u : String) :
    (seeds ++ segments ++ closings closed).countP (Event.isDeed (Deed.fetches u)) ≤ 1 := by
  have replays := h.elapsed.frontier
  rw [fresh] at replays
  obtain ⟨-, nodup, -⟩ := replays.saturates within
  have once := List.nodup_iff_count_le_one.mp nodup u
  rw [Event.count_admitted] at once
  have turned := replays.turnover.countP_eq (·.fingerprint == u)
  have came := Event.countP_entered_le u (seeds ++ segments ++ closings closed)
  have settled := h.trace.settled_le u
  -- Nothing is fetched or given back before the first poll, nor in the release.
  have idle : Event.settled u seeds = 0 := by
    refine Event.settled_eq_zero u fun e he => Event.isDeed_eq_false ?_ (h.seeds e he)
    intro d idle
    cases d <;> first | rfl | cases idle
  have released : Event.settled u (closings closed) = 0 :=
    Event.settled_eq_zero u (forall_closings (fun _ _ => rfl) closed)
  have all : Event.settled u (seeds ++ segments ++ closings closed) = Event.settled u segments := by
    rw [Event.settled_append, Event.settled_append, idle, released]
    omega
  have nothing : ListedFrontier.pending ((bare (Queue.empty order)).wrap (.bloom f)) = [] := rfl
  rw [nothing, List.nil_append, List.countP_append, Event.polled_append, Event.polled_append,
    List.countP_append, List.countP_append] at turned
  rw [Event.settled] at all
  omega

/-- A Bloom filter whose bitmap has `m` bits lets at most `m` pushes through to any frontier, not
counting those that are forced. A sequential crawl over an empty queue under such a filter fetches
no fingerprint with success twice, whatever the pages link to. If no component panics and at most
`K` downloads fail, it polls at most `m + K` requests and has ended if it was given time for one
more. -/
theorem ends_saturated (within : f.Within m) :
    (∀ (S : Type) [Frontier S] (inner : S) (identity : Request → String) (ops : List Operation),
      Saturates identity f m inner ops
        (((bare (Metered.mk inner 0)).estimating f identity).operateAll ops)) ∧
    ∀ (σ : Type) (order : PollOrder) (c₀ c : Crawler (Layered Queue) σ),
      c₀.phase = .initializing → c₀.core.engine = .sequential →
      c₀.core.frontier = (bare (.empty order)).wrap (.bloom f) →
      ∀ changes : List (Change (Layered Queue) σ), (∀ ch ∈ changes, ch.isAddition = true) →
      c₀.changeAll changes = .ok c →
      ∀ (world world' : σ) (fuel : Nat) (result : StartResult) (c' : Crawler (Layered Queue) σ),
      c.start world fuel = (result, c', world') → (∀ message, result ≠ .panicked message) →
      ∃ since, c'.core.journal.deeds = c₀.core.journal.deeds ++ since ∧
        ((since.filterMap Deed.success?).map Prod.fst).Nodup ∧
        ∀ K, since.countP Deed.isFailure ≤ K →
          since.countP Deed.isPoll ≤ m + K ∧ (m + K < fuel → result = .finished) := by
  refine ⟨fun S _ inner identity ops => saturates within identity inner ops, ?_⟩
  intro σ order c₀ c initial engine fresh changes additions made world world' fuel result c'
    started unhurt
  obtain ⟨drained, seeds, segments, closed, rfl, lapse⟩ :=
    lapse_of_started initial engine additions made started unhurt
  have replays := lapse.elapsed.frontier
  rw [fresh] at replays
  obtain ⟨admitted, -, -⟩ := replays.saturates within
  have balance := polls_of_replays replays rfl lapse.givenBack
  refine ⟨_, lapse.elapsed.deeds, ?_, ?_⟩
  · rw [List.nodup_iff_count_le_one]
    intro u
    rw [Event.count_successes]
    exact lapse.fetches_le fresh within u
  · simp only [Event.countP_deeds]
    intro K failed
    refine ⟨by omega, ?_⟩
    intro enough
    cases drained with
    | true => rfl
    | false =>
      -- There were more rounds than there can be polls.
      have served := lapse.fuel_le rfl
      omega

/-- Every page links to a page that nobody has seen. -/
def endlessLinks (u : String) : List Request := [.named (u ++ "a")]

/-- A byte of bits, and two positions for each fingerprint. -/
def smallLayout : BloomLayout := (Simulation.BloomSize.mk 8 2 (by decide)).layout

def smallFilter : BloomFilter := .blank 4 0.5 smallLayout.positions

def endlessCrawler : Crawler (Layered Queue) (String → Nat) :=
  .prepared .sequential ((bare (.empty .fifo)).wrap (.bloom smallFilter))
    (Conduct.circle.players endlessLinks) [.named "a"]

def endlessChanges : List (Change (Layered Queue) (String → Nat)) :=
  endlessCrawler.crew.downloaders.map .downloader ++ endlessCrawler.crew.changes [.named "a"]

/-- The download of the first page fails once. -/
def endlessFailures (u : String) : Nat := if u = "a://" then 1 else 0

theorem ends_saturated_of_endless :
    smallFilter.Within 8 ∧
      (let ops := ["a", "b", "c", "d", "e", "f", "g", "h", "i", "j"].map fun u => .push (.named u)
      (((bare (Metered.mk (Queue.empty .lifo) 0)).estimating smallFilter
        Request.fingerprint).operateAll ops).2.base.pushes ≤ 8) ∧
      (Crawler.sequential ((bare (Queue.empty .fifo)).wrap (.bloom smallFilter))).changeAll
        endlessChanges = .ok endlessCrawler ∧
      (∀ ch ∈ endlessChanges, ch.isAddition = true) ∧
      ∃ c' world', endlessCrawler.start endlessFailures 10 = (.finished, c', world') ∧
        ((c'.core.journal.deeds.filterMap Deed.success?).map Prod.fst).Nodup ∧
        c'.core.journal.deeds.countP Deed.isFailure = 1 ∧
        c'.core.journal.deeds.countP Deed.isPoll ≤ 8 + 1 := by
  have within : smallFilter.Within 8 := smallLayout.positions_lt
  obtain ⟨saturates, ends⟩ := ends_saturated within
  have made : (Crawler.sequential ((bare (Queue.empty .fifo)).wrap (.bloom smallFilter))).changeAll
      endlessChanges = .ok endlessCrawler := Crawler.sequential_changeAll _ _ _
  have additions : ∀ ch ∈ endlessChanges, ch.isAddition = true := by decide
  refine ⟨within, (saturates Queue _ _ _).pushes_le, made, additions, ?_⟩
  rcases started : endlessCrawler.start endlessFailures 10 with ⟨result, c', world'⟩
  have unhurt : ∀ message, result ≠ .panicked message := by
    have calm := unhurt_of_calm rfl rfl additions made (calm_players _ _) endlessFailures 10
    rwa [started] at calm
  obtain ⟨since, deeds, once, bound⟩ := ends _ .fifo _ endlessCrawler rfl rfl rfl endlessChanges
    additions made endlessFailures world' 10 result c' started unhurt
  have past : since = (endlessCrawler.start endlessFailures 10).2.1.core.journal.deeds := by
    rw [started, deeds]
    rfl
  have failed : since.countP Deed.isFailure = 1 := by
    rw [past]
    decide +kernel
  obtain ⟨polls, enough⟩ := bound 1 failed.le
  cases enough (by decide)
  have all : c'.core.journal.deeds = since := deeds
  refine ⟨c', world', rfl, ?_⟩
  rw [all]
  exact ⟨once, failed, polls⟩

end Sequential

end WebCrawl
