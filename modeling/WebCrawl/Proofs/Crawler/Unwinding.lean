import WebCrawl.Proofs.Crawler.Release
import WebCrawl.Proofs.Sequential.Dispatch

/-!
# How a sequential crawl is left

A sequential crawl runs on the thread of its caller. When there is nothing left to poll, the
lifecycle ends and the crew is released. A component that panics unwinds the start from within its
call, and nothing is done after that. So the crew is released just when the start returns.
-/

namespace WebCrawl

theorem Crew.countP_closings {σ : Type} (crew : Crew σ) :
    crew.closings.countP Deed.isClosing = crew.closings.length := by
  rw [← crew.map_closed_resources, List.countP_map, List.length_map]
  exact List.countP_eq_length.mpr fun _ _ => rfl

namespace Working

variable {S σ : Type} {run run' : Run S σ} {p : Panic}

theorem deeds_of_closeOne_error {kind : ResourceKind} {index : Nat} {name : String}
    {close : Act σ (Except CloseError Unit)}
    (h : closeOne kind index name close run = (.error p, run')) :
    run'.core.journal.deeds = run.core.journal.deeds := by
  rcases bind_eq_error h with called | ⟨result, next, -, noted⟩
  · rcases hp : run.perform close with ⟨outcome, next⟩
    cases outcome with
    | returned result =>
      rw [perform_of_returned hp] at called
      cases called
    | panicked message =>
      rw [perform_of_panicked hp] at called
      cases called
      have same := run.deeds_perform close
      rwa [hp] at same
  · cases result with
    | ok => cases noted
    | error e => cases noted

theorem closings_lt_of_closeAll {rs : List (Resource σ)}
    (h : closeAll rs run = (.error p, run')) :
    ∃ since, run'.core.journal.deeds = run.core.journal.deeds ++ since ∧
      since.countP Deed.isClosing < rs.length := by
  induction rs generalizing run with
  | nil => cases h
  | cons r rs ih =>
    rcases bind_eq_error h with first | ⟨_, next, first, rest⟩
    · refine ⟨[], ?_, Nat.succ_pos _⟩
      rw [deeds_of_closeOne_error first, List.append_nil]
    · obtain ⟨since, deeds, fewer⟩ := ih rest
      refine ⟨.closed r.kind r.index :: since, ?_, ?_⟩
      · rw [deeds, (closes_of_closeOne first).deeds, List.append_assoc, List.singleton_append]
      · rw [countP_cons_toNat, List.length_cons]
        exact Nat.succ_lt_succ fewer

theorem closings_lt_of_conclude {crew : Crew σ} (running : run.core.phase = .running)
    (h : conclude crew run = (.error p, run')) :
    ∃ since, run'.core.journal.deeds = run.core.journal.deeds ++ since ∧
      since.countP Deed.isClosing < crew.closings.length := by
  obtain ⟨⟨phase, frontier, stats, engine, stops, journal⟩, w⟩ := run
  cases running
  rcases bind_eq_error h with left | ⟨_, _, left, h⟩
  · cases left
  rcases bind_eq_error h with told | ⟨_, opened, told, h⟩
  · cases told
  rcases bind_eq_error h with closed | ⟨_, _, -, last⟩
  · rw [release_eq] at closed
    obtain ⟨since, deeds, fewer⟩ := closings_lt_of_closeAll closed
    cases left
    cases told
    rw [← crew.map_closed_resources, List.length_map]
    refine ⟨since, deeds.trans ?_, fewer⟩
    rw [Run.core_update, Core.deeds_say]
    rfl
  · cases last

end Working

namespace Crawler

variable {S σ : Type}

/-- The lifecycle has ended, and after all else each resource was closed once. -/
structure Settled (c c' : Crawler S σ) (world world' : σ) : Prop where
  phase : c'.phase = .ended
  released : ∃ since w,
    c'.core.journal.deeds = c.core.journal.deeds ++ since ++ c.crew.closings ∧
    since.countP Deed.isClosing = 0 ∧ c.crew.Told world since w ∧
    CalledInTurn .ended w c.crew.closes world'

theorem Settled.not_running {c c' : Crawler S σ} {world world' : σ}
    (h : c.Settled c' world world') : c'.phase ≠ .running := by
  rw [h.phase]
  exact nofun

/-- The call that panicked was the last of all, the crawler counts as running, and nothing was
closed. -/
structure Stranded (c c' : Crawler S σ) (message : String) (world world' : σ) : Prop where
  phase : c'.phase = .running
  unreleased : ∃ since w, c'.core.journal.deeds = c.core.journal.deeds ++ since ∧
    since.countP Deed.isClosing = 0 ∧ c.crew.Told world since w ∧
    c.crew.Panics message w world'

variable [Frontier S] {c : Crawler S σ} {world : σ} {fuel : Nat} {last run : Run S σ} {p : Panic}

/-- How the rounds of a sequential start end, and what they leave. -/
def rounds (c : Crawler S σ) (world : σ) (fuel : Nat) : Except Panic Bool × Run S σ :=
  Sequential.crawl c.crew fuel (opened ⟨{ c.core with phase := .running }, world⟩ c.crew)

theorem told_of_rounds {worked : Except Panic Bool}
    (crawled : c.rounds world fuel = (worked, run)) :
    run.core.phase = .running ∧ ∃ since w,
      run.core.journal.deeds = c.core.journal.deeds ++ since ∧
      since.countP Deed.isClosing = 0 ∧ c.crew.Told world since w ∧
      c.crew.Leaves worked w run.world := by
  have open_still := Sequential.staysOpen_crawl c.crew fuel
    (opened ⟨{ c.core with phase := .running }, world⟩ c.crew)
  have honest := Sequential.honest_crawl c.crew fuel
    (opened ⟨{ c.core with phase := .running }, world⟩ c.crew)
  rw [rounds] at crawled
  rw [crawled] at open_still honest
  obtain ⟨since, deeds, unclosed⟩ := open_still.deeds
  obtain ⟨told, w, entered, tells, left⟩ := honest
  cases List.append_cancel_left (entered.symm.trans deeds)
  refine ⟨open_still.phase, since, w, deeds.trans ?_, unclosed, tells, left⟩
  rw [opened, Run.core_update, Core.deeds_say]

inductive Leaving (c : Crawler S σ) (world : σ) (fuel : Nat) : StartResult → Run S σ → Prop where
  | cut {p : Panic} {run : Run S σ} (crawled : c.rounds world fuel = (.error p, run)) :
      Leaving c world fuel (.panicked p.message) run
  | spent {run : Run S σ} (crawled : c.rounds world fuel = (.ok false, run)) :
      Leaving c world fuel .unfinished run
  | cutClosing {p : Panic} {last run : Run S σ} (crawled : c.rounds world fuel = (.ok true, last))
      (closing : Working.conclude c.crew last = (.error p, run)) :
      Leaving c world fuel (.panicked p.message) run
  | concluded {last run : Run S σ} (crawled : c.rounds world fuel = (.ok true, last))
      (closing : Working.conclude c.crew last = (.ok (), run)) :
      Leaving c world fuel .finished run

theorem leaving_of_start {granted : Granted σ} (engine : c.core.engine = .sequential)
    (started : (c.change .start).1 = .ok granted) {result : StartResult} {c' : Crawler S σ}
    {world' : σ} (left : c.start world fuel = (result, c', world')) :
    ∃ run, c.Leaving world fuel result run ∧ c' = ⟨run.core, .empty⟩ ∧ world' = run.world := by
  obtain ⟨initial, complete⟩ := initializing_of_started started
  have ends : ∀ {ended : Except Panic Bool} {run : Run S σ}, runSequential c.crew fuel
      ⟨{ c.core with phase := .running }, world⟩ = (ended, run) →
        result = .ofEnd ended ∧ c' = ⟨run.core, .empty⟩ ∧ world' = run.world := by
    intro ended run ran
    rw [← Sequential.crawl_eq_runSequential engine c.crew (.fair fuel) fuel] at ran
    cases left.symm.trans (startBy_eq initial complete ran)
    exact ⟨rfl, rfl, rfl⟩
  rcases crawled : c.rounds world fuel with ⟨worked, last⟩
  rcases worked with p | drained
  · obtain ⟨rfl, same⟩ := ends ((Working.bind_of_ok rfl).trans (Working.bind_of_error crawled))
    exact ⟨last, .cut crawled, same⟩
  cases drained with
  | false =>
    obtain ⟨rfl, same⟩ := ends ((Working.bind_of_ok rfl).trans (Working.bind_of_ok crawled))
    exact ⟨last, .spent crawled, same⟩
  | true =>
    rcases closing : Working.conclude c.crew last with ⟨closed, run⟩
    cases closed with
    | error p =>
      obtain ⟨rfl, same⟩ := ends ((Working.bind_of_ok rfl).trans
        ((Working.bind_of_ok crawled).trans (Working.bind_of_error closing)))
      exact ⟨run, .cutClosing crawled closing, same⟩
    | ok =>
      obtain ⟨rfl, same⟩ := ends ((Working.bind_of_ok rfl).trans
        ((Working.bind_of_ok crawled).trans (Working.bind_of_ok closing)))
      exact ⟨run, .concluded crawled closing, same⟩

theorem settled_of_concluded (crawled : c.rounds world fuel = (.ok true, last))
    (closing : Working.conclude c.crew last = (.ok (), run)) :
    c.Settled ⟨run.core, .empty⟩ world run.world := by
  obtain ⟨running, since, w, deeds, unclosed, told, rfl⟩ := told_of_rounds crawled
  have closes := Working.closes_of_conclude running closing
  refine ⟨closes.phase, since, last.world, ?_, unclosed, told, closes.called⟩
  rw [← deeds]
  exact closes.deeds

theorem not_settled_of_cutClosing (crawled : c.rounds world fuel = (.ok true, last))
    (closing : Working.conclude c.crew last = (.error p, run)) :
    ¬ c.Settled ⟨run.core, .empty⟩ world run.world := by
  rintro ⟨-, since', w, whole, unclosed', -⟩
  obtain ⟨running, since, -, deeds, unclosed, -⟩ := told_of_rounds crawled
  obtain ⟨some_closed, entered, fewer⟩ := Working.closings_lt_of_conclude running closing
  -- The two ways to read the journal differ in how many closings they count.
  rw [deeds, List.append_assoc] at entered
  rw [List.append_assoc] at whole
  have same := List.append_cancel_left (entered.symm.trans whole)
  have counted := congrArg (List.countP Deed.isClosing) same
  rw [List.countP_append, List.countP_append, unclosed, unclosed', c.crew.countP_closings]
    at counted
  omega

theorem stranded_of_cut (crawled : c.rounds world fuel = (.error p, run)) :
    c.Stranded ⟨run.core, .empty⟩ p.message world run.world := by
  obtain ⟨running, since, w, deeds, unclosed, told, broken⟩ := told_of_rounds crawled
  exact ⟨running, since, w, deeds, unclosed, told, broken⟩

/-- A sequential start that was granted ends the lifecycle and closes every downloader and every
pipeline once just when it finishes. When a component panics on the way, the start unwinds from that
call: the crawler is left running, and nothing is closed. -/
theorem settled_iff_finished (c c' : Crawler S σ) (engine : c.core.engine = .sequential)
    (granted : Granted σ) (started : (c.change .start).1 = .ok granted) (world world' : σ)
    (fuel : Nat) (result : StartResult) (left : c.start world fuel = (result, c', world')) :
    (c.Settled c' world world' ↔ result = .finished) ∧
      ∀ message, result = .panicked message → (∀ close ∈ c.crew.closes, close.Returns) →
        c.Stranded c' message world world' := by
  obtain ⟨run, leaving, rfl, rfl⟩ := leaving_of_start engine started left
  cases leaving with
  | cut crawled =>
    have stranded := stranded_of_cut crawled
    refine ⟨⟨fun settled => absurd stranded.phase settled.not_running, nofun⟩, ?_⟩
    rintro message ⟨rfl⟩ -
    exact stranded
  | spent crawled =>
    obtain ⟨running, -⟩ := told_of_rounds crawled
    exact ⟨⟨fun settled => absurd running settled.not_running, nofun⟩, nofun⟩
  | cutClosing crawled closing =>
    refine ⟨⟨fun settled => absurd settled (not_settled_of_cutClosing crawled closing), nofun⟩, ?_⟩
    intro message _ returns
    -- A release in which every close returns is not cut short.
    obtain ⟨running, -⟩ := told_of_rounds crawled
    obtain ⟨_, _, concluded, -⟩ := Working.closes_conclude returns running
    cases closing.symm.trans concluded
  | concluded crawled closing =>
    exact ⟨⟨fun _ => rfl, fun _ => settled_of_concluded crawled closing⟩, nofun⟩

/-- One page, and a processor that panics at it. -/
def frailSite : Crawler (Layered Queue) Unit :=
  ⟨.new .sequential (.bare (.ofList [default])), frailCrew⟩

/-- The moody crew gets to the end of its crawl and is released, the frail one is not. -/
theorem settled_iff_finished_of_frailSite :
    (∃ c' world', Sequential.moodyCrawler.start 0 4 = (.finished, c', world') ∧
      Sequential.moodyCrawler.Settled c' 0 world') ∧
    (∀ close ∈ frailSite.crew.closes, close.Returns) ∧
      ∃ c' world', frailSite.start () 1 = (.panicked "broken", c', world') ∧
        frailSite.Stranded c' "broken" () world' := by
  constructor
  · have ran : (Sequential.moodyCrawler.start 0 4).1.isFinished = true := by decide +kernel
    rcases left : Sequential.moodyCrawler.start 0 4 with ⟨result, c', world'⟩
    rw [left] at ran
    cases StartResult.eq_finished ran
    obtain ⟨finished, -⟩ := settled_iff_finished Sequential.moodyCrawler c' rfl
      (.begun Sequential.moodyCrew) rfl 0 world' 4 .finished left
    exact ⟨c', world', rfl, finished.mpr rfl⟩
  · obtain ⟨-, panicked⟩ := settled_iff_finished frailSite _ rfl (.begun frailCrew) rfl () _ 1 _ rfl
    exact ⟨returns_frailCrew, _, _, rfl, panicked "broken" rfl returns_frailCrew⟩

/-- The processor panics, and after that the crawler says it is running, and nothing is closed. -/
theorem unreleased_of_frailSite :
    frailSite.core.engine = .sequential ∧ (frailSite.change .start).1 = .ok (.begun frailCrew) ∧
      (∀ close ∈ frailSite.crew.closes, close.Returns) ∧
      ∃ c' world', frailSite.start () 1 = (.panicked "broken", c', world') ∧
        c'.phase = .running ∧ c'.core.journal.deeds.countP Deed.isClosing = 0 ∧
        ¬ frailSite.Settled c' () world' := by
  refine ⟨rfl, rfl, returns_frailCrew, _, _, rfl, rfl, rfl, ?_⟩
  intro settled
  exact settled.not_running rfl

end Crawler

end WebCrawl
