import Mathlib.Data.List.Basic
import WebCrawl.Crawler.Callers
import WebCrawl.Proofs.Crawler.Changes
import WebCrawl.Proofs.Frontier.Listed

/-!
# Configuration and start are atomic

Callers change a crawler under one lock, and each of them reads the lifecycle before it makes its
change. Nobody can leave the initializing phase in between, since that takes the lock as well. So
however the callers take turns, their changes are made one after the other. The answers then tell,
in the order in which they were given, what the crawler is: before the start that begins the crawl
it has what was granted and nothing else, and after it nothing is granted.

An answer to a start says whether the crawl begins; how it goes on is not part of it.
-/

namespace WebCrawl

namespace Answer

variable {S σ : Type}

def isError (a : Answer S σ) : Bool :=
  match a.result with
  | .ok _ => false
  | .error _ => true

/-- A start that got past the lifecycle. -/
def begins (a : Answer S σ) : Bool :=
  match a.result with
  | .ok (.begun _) => true
  | _ => false

def downloader? : Answer S σ → Option (Downloader σ)
  | ⟨.downloader d, .ok _⟩ => some d
  | _ => none

def processor? : Answer S σ → Option (Processor σ)
  | ⟨.processor p, .ok _⟩ => some p
  | _ => none

def pipeline? : Answer S σ → Option (Pipeline σ)
  | ⟨.pipeline p, .ok _⟩ => some p
  | _ => none

def frontier? : Answer S σ → Option S
  | ⟨.frontier f, .ok _⟩ => some f
  | _ => none

def seed? : Answer S σ → Option Request
  | ⟨.seed r, .ok _⟩ => some r
  | _ => none

def admitted? : Answer S σ → Option Request
  | ⟨.seed r, .ok (.admitted true)⟩ => some r
  | _ => none

end Answer

/-- The frontier that was set last is `f`, and `later` are the answers given since. -/
inductive LastSet {S σ : Type} (initial : S) :
    List (Answer S σ) → S → List (Answer S σ) → Prop where
  | never {answers : List (Answer S σ)} (kept : ∀ a ∈ answers, a.frontier? = none) :
      LastSet initial answers initial answers
  | set {before later : List (Answer S σ)} {f : S} {g : Granted σ}
      (kept : ∀ a ∈ later, a.frontier? = none) :
      LastSet initial (before ++ ⟨.frontier f, .ok g⟩ :: later) f later

/-- The crew has grown, kind by kind and in order, by what was granted. -/
structure Enrolled {S σ : Type} (crew : Crew σ) (answers : List (Answer S σ)) (crew' : Crew σ) :
    Prop where
  downloaders : crew'.downloaders = crew.downloaders ++ answers.filterMap Answer.downloader?
  processors : crew'.processors = crew.processors ++ answers.filterMap Answer.processor?
  pipelines : crew'.pipelines = crew.pipelines ++ answers.filterMap Answer.pipeline?

/-- The frontier is the one that was set last, with the seeds that were offered to it since. -/
def Seeded {S σ : Type} [Frontier S] [ListedFrontier S] (initial : S)
    (answers : List (Answer S σ)) (s : S) : Prop :=
  ∃ f later, LastSet initial answers f later ∧
    s = (Frontier.pushAll f (later.filterMap Answer.seed?)).2 ∧
    ListedFrontier.pending s =
      ListedFrontier.pending f ++ later.filterMap Answer.admitted?

section answers

variable {S σ : Type} {initial f : S} {answers later : List (Answer S σ)} {a : Answer S σ}
  {crew crew' crew'' : Crew σ}

theorem Answer.filterMap_concat {α : Type} (kind : Answer S σ → Option α)
    (answers : List (Answer S σ)) (a : Answer S σ) :
    (answers ++ [a]).filterMap kind = answers.filterMap kind ++ (kind a).toList := by
  rw [List.filterMap_append]
  cases h : kind a <;> simp [h]

theorem LastSet.append (h : LastSet initial answers f later) (kept : a.frontier? = none) :
    LastSet initial (answers ++ [a]) f (later ++ [a]) := by
  have last : ∀ x ∈ [a], x.frontier? = none := List.forall_mem_singleton.mpr kept
  cases h with
  | never before => exact .never (List.forall_mem_append.mpr ⟨before, last⟩)
  | set before =>
    rw [List.append_assoc, List.cons_append]
    exact .set (List.forall_mem_append.mpr ⟨before, last⟩)

namespace Enrolled

theorem refl (crew : Crew σ) : Enrolled (S := S) crew [] crew :=
  ⟨(List.append_nil _).symm, (List.append_nil _).symm, (List.append_nil _).symm⟩

theorem append (h : Enrolled crew answers crew')
    (downloaders : crew''.downloaders = crew'.downloaders ++ a.downloader?.toList)
    (processors : crew''.processors = crew'.processors ++ a.processor?.toList)
    (pipelines : crew''.pipelines = crew'.pipelines ++ a.pipeline?.toList) :
    Enrolled crew (answers ++ [a]) crew'' := by
  constructor
  · rw [downloaders, h.downloaders, Answer.filterMap_concat, List.append_assoc]
  · rw [processors, h.processors, Answer.filterMap_concat, List.append_assoc]
  · rw [pipelines, h.pipelines, Answer.filterMap_concat, List.append_assoc]

end Enrolled

variable [Frontier S] [ListedFrontier S] {s : S}

namespace Seeded

theorem refl (s : S) : Seeded (σ := σ) s [] s :=
  ⟨s, [], .never (List.forall_mem_nil _), rfl, (List.append_nil _).symm⟩

theorem set (f : S) (g : Granted σ) :
    Seeded initial (answers ++ [⟨.frontier f, .ok g⟩]) f :=
  ⟨f, [], .set (List.forall_mem_nil _), rfl, (List.append_nil _).symm⟩

variable (h : Seeded initial answers s)
include h

theorem append (kept : a.frontier? = none) (no_seed : a.seed? = none)
    (none_admitted : a.admitted? = none) : Seeded initial (answers ++ [a]) s := by
  obtain ⟨f, later, last, pushed, pending⟩ := h
  refine ⟨f, later ++ [a], last.append kept, ?_, ?_⟩
  · rw [Answer.filterMap_concat, no_seed, Option.toList_none, List.append_nil]
    exact pushed
  · rw [Answer.filterMap_concat, none_admitted, Option.toList_none, List.append_nil]
    exact pending

theorem push (r : Request) : Seeded initial
    (answers ++ [⟨.seed r, .ok (.admitted (Frontier.push s r).1.accepted)⟩])
    (Frontier.push s r).2 := by
  obtain ⟨f, later, last, pushed, pending⟩ := h
  refine ⟨f, later ++ [_], last.append rfl, ?_, ?_⟩
  · rw [Answer.filterMap_concat, Frontier.snd_pushAll_append, ← pushed]
    rfl
  · rw [ListedFrontier.pending_push, pending, Answer.filterMap_concat, List.append_assoc]
    congr 2
    cases (Frontier.push s r).1 <;> rfl

end Seeded

end answers

namespace Crawler

variable {S σ : Type} [Frontier S]

/-- Changes are made one after the other, and in between the crawl under way goes on. -/
inductive Serial (c : Crawler S σ) : List (Answer S σ) → Crawler S σ → Prop where
  | nothing : Serial c [] c
  | change {answers : List (Answer S σ)} {now now' : Crawler S σ} {ch : Change S σ}
      {result : Except CrawlError (Granted σ)} (before : Serial c answers now)
      (changed : now.change ch = (result, now')) :
      Serial c (answers ++ [⟨ch, result⟩]) now'
  | crawl {answers : List (Answer S σ)} {now : Crawler S σ} {core : Core S}
      (before : Serial c answers now) (running : now.phase = .running)
      (forward : Phase.running.rank ≤ core.phase.rank) :
      Serial c answers { now with core }

end Crawler

/-- The answers given up to some moment: if a start has got past the lifecycle, then it took along
who was enrolled before it, and whoever came later was refused. -/
inductive History {S σ : Type} (crew : Crew σ) : List (Answer S σ) → Prop where
  | pending {answers : List (Answer S σ)} (unbegun : ∀ a ∈ answers, a.begins = false) :
      History crew answers
  | begun {before after : List (Answer S σ)} {frozen : Crew σ}
      (unbegun : ∀ a ∈ before, a.begins = false) (enrolled : Enrolled crew before frozen)
      (refused : ∀ a ∈ after, a.isError = true) :
      History crew (before ++ ⟨.start, .ok (.begun frozen)⟩ :: after)

namespace History

variable {S σ : Type} {crew : Crew σ} {answers : List (Answer S σ)}

theorem refuse (h : History crew answers) (ch : Change S σ) (e : CrawlError) :
    History crew (answers ++ [⟨ch, .error e⟩]) := by
  cases h with
  | pending unbegun =>
    exact .pending (List.forall_mem_append.mpr ⟨unbegun, List.forall_mem_singleton.mpr rfl⟩)
  | begun unbegun enrolled refused =>
    rw [List.append_assoc, List.cons_append]
    exact .begun unbegun enrolled
      (List.forall_mem_append.mpr ⟨refused, List.forall_mem_singleton.mpr rfl⟩)

theorem begins_of_isError {a : Answer S σ} (h : a.isError = true) : a.begins = false := by
  obtain ⟨ch, _ | g⟩ := a
  · rfl
  · cases h

theorem countP_begins_eq_zero (unbegun : ∀ a ∈ answers, a.begins = false) :
    answers.countP Answer.begins = 0 :=
  List.countP_eq_zero.mpr fun a ha => Bool.eq_false_iff.mp (unbegun a ha)

theorem countP_begins_le (h : History crew answers) : answers.countP Answer.begins ≤ 1 := by
  cases h with
  | pending unbegun =>
    rw [countP_begins_eq_zero unbegun]
    exact Nat.zero_le 1
  | begun unbegun enrolled refused =>
    have unbegun_after := fun a ha => begins_of_isError (refused a ha)
    rw [List.countP_append, List.countP_cons, countP_begins_eq_zero unbegun,
      countP_begins_eq_zero unbegun_after]
    exact Nat.le_refl 1

theorem frozen_of_begun (h : History crew answers) {before after : List (Answer S σ)}
    {frozen : Crew σ} (split : answers = before ++ ⟨.start, .ok (.begun frozen)⟩ :: after) :
    Enrolled crew before frozen ∧ ∀ a ∈ after, a.isError = true := by
  cases h with
  | pending unbegun =>
    have here : (⟨.start, .ok (.begun frozen)⟩ : Answer S σ) ∈ answers := by
      rw [split]
      exact List.mem_append_right _ List.mem_cons_self
    cases unbegun _ here
  | begun unbegun enrolled refused =>
    obtain ⟨rfl, same, rfl⟩ := (List.append_cons_inj_of_notMem
      (fun here => Bool.noConfusion (unbegun _ here))
      (fun here => Bool.noConfusion (refused _ here))).mp split
    cases same
    exact ⟨enrolled, refused⟩

end History

/-- As long as the crawler `now` initializes, it is what the answers have made of it. -/
structure Configured {S σ : Type} [Frontier S] [ListedFrontier S] (c : Crawler S σ)
    (answers : List (Answer S σ)) (now : Crawler S σ) : Prop where
  unbegun : ∀ a ∈ answers, a.begins = false
  enrolled : Enrolled c.crew answers now.crew
  seeded : Seeded c.core.frontier answers now.core.frontier

namespace Configured

variable {S σ : Type} [Frontier S] [ListedFrontier S] {c now now' : Crawler S σ}
  {answers : List (Answer S σ)} {ch : Change S σ} {g : Granted σ}

theorem refl (c : Crawler S σ) : Configured c [] c :=
  ⟨List.forall_mem_nil _, .refl c.crew, .refl c.core.frontier⟩

variable (h : Configured c answers now)
include h

theorem refuse (ch : Change S σ) (e : CrawlError) :
    Configured c (answers ++ [⟨ch, .error e⟩]) now := by
  obtain ⟨unbegun, enrolled, seeded⟩ := h
  refine ⟨List.forall_mem_append.mpr ⟨unbegun, List.forall_mem_singleton.mpr rfl⟩, ?_, ?_⟩
  · cases ch <;> exact enrolled.append (List.append_nil _).symm (List.append_nil _).symm
      (List.append_nil _).symm
  · cases ch <;> exact seeded.append rfl rfl rfl

theorem grant (granted : ch.Grants now g now') (initializing : now'.phase = .initializing) :
    Configured c (answers ++ [⟨ch, .ok g⟩]) now' := by
  obtain ⟨unbegun, enrolled, seeded⟩ := h
  have still (new : Answer.begins (⟨ch, .ok g⟩ : Answer S σ) = false) :
      ∀ a ∈ answers ++ [⟨ch, .ok g⟩], a.begins = false :=
    List.forall_mem_append.mpr ⟨unbegun, List.forall_mem_singleton.mpr new⟩
  have same {α : Type} (l : List α) : l = l ++ [] := (List.append_nil l).symm
  cases granted with
  | downloader d =>
    exact ⟨still rfl, enrolled.append rfl (same _) (same _), seeded.append rfl rfl rfl⟩
  | processor p =>
    exact ⟨still rfl, enrolled.append (same _) rfl (same _), seeded.append rfl rfl rfl⟩
  | pipeline p =>
    exact ⟨still rfl, enrolled.append (same _) (same _) rfl, seeded.append rfl rfl rfl⟩
  | seed r =>
    refine ⟨still rfl, enrolled.append (same _) (same _) (same _), ?_⟩
    rw [Core.fst_push]
    exact Core.frontier_push now.core r ▸ seeded.push r
  | frontier f =>
    exact ⟨still rfl, enrolled.append (same _) (same _) (same _), .set f .done⟩
  | start => cases initializing

end Configured

namespace Crawler

variable {S σ : Type} [Frontier S] [ListedFrontier S] {c now : Crawler S σ}
  {answers : List (Answer S σ)}

theorem Serial.told (h : c.Serial answers now) : History c.crew answers ∧
    (now.phase = .initializing → Configured c answers now) := by
  induction h with
  | nothing => exact ⟨.pending (List.forall_mem_nil _), fun _ => .refl c⟩
  | @change answers now now' ch result before changed ih =>
    obtain ⟨history, configured⟩ := ih
    cases result with
    | error e =>
      obtain rfl := snd_change_of_error changed
      exact ⟨history.refuse ch e, fun initializing => (configured initializing).refuse ch e⟩
    | ok g =>
      obtain ⟨initializing, granted⟩ := grants_of_change changed
      have configured := configured initializing
      refine ⟨?_, configured.grant granted⟩
      cases granted with
      | start => exact .begun configured.unbegun configured.enrolled (List.forall_mem_nil _)
      | _ =>
        exact .pending (List.forall_mem_append.mpr
          ⟨configured.unbegun, List.forall_mem_singleton.mpr rfl⟩)
  | @crawl answers now core before running forward ih =>
    refine ⟨ih.1, ?_⟩
    intro initializing
    have back : core.phase = .initializing := initializing
    rw [back] at forward
    exact absurd forward (by decide)

end Crawler

namespace Desk

variable {S σ : Type} [Frontier S] {c : Crawler S σ} {d d' : Desk S σ} {turn : Turn S}

/-- Nobody but possibly the caller with the given index is inside the lock. -/
def OnlyInside (callers : List (Caller S σ)) (index : Nat) : Prop :=
  ∀ j who, callers[j]? = some who → who.stage ≠ .outside → j = index

section lock

omit [Frontier S]

variable {callers : List (Caller S σ)} {index : Nat}

theorem onlyInside_of_free (free : ∀ who ∈ callers, who.stage = .outside) (index : Nat) :
    OnlyInside callers index := by
  intro j who here inside
  exact absurd (free who (List.mem_of_getElem? here)) inside

theorem OnlyInside.set (h : OnlyInside callers index) (who : Caller S σ) :
    OnlyInside (callers.set index who) index := by
  intro j other here inside
  by_cases same : index = j
  · exact same.symm
  · rw [List.getElem?_set_ne same] at here
    exact h j other here inside

theorem OnlyInside.leave (h : OnlyInside callers index) (rest : List (Change S σ)) :
    ∀ who ∈ callers.set index ⟨rest, .outside⟩, who.stage = .outside := by
  intro who mem
  obtain ⟨j, here⟩ := List.mem_iff_getElem?.mp mem
  by_contra inside
  obtain rfl : j = index := h.set _ j who here inside
  rw [List.getElem?_set_self'] at here
  obtain ⟨_, -, rfl⟩ := Option.map_eq_some_iff.mp here
  exact inside rfl

end lock

/-- Whoever was allowed to make its change still is. -/
def Permitted (d : Desk S σ) : Prop :=
  ∀ who ∈ d.callers, who.stage = .allowed → d.crawler.phase = .initializing

/-- What a turn can do: a caller who is answered makes the whole change at once. -/
inductive Step (d : Desk S σ) : Turn S → Desk S σ → Prop where
  | takes {index : Nat} {who : Caller S σ} (here : d.callers[index]? = some who)
      (free : d.lockFree = true) : Step d (.caller index) (d.setStage index who .holding)
  | passes {index : Nat} {who : Caller S σ} (here : d.callers[index]? = some who)
      (holding : who.stage = .holding) (initializing : d.crawler.phase = .initializing) :
      Step d (.caller index) (d.setStage index who .allowed)
  | answers {index : Nat} {who : Caller S σ} {ch : Change S σ} {rest : List (Change S σ)}
      {result : Except CrawlError (Granted σ)} {crawler : Crawler S σ}
      (here : d.callers[index]? = some who) (next : who.todo = ch :: rest)
      (inside : who.stage ≠ .outside) (changed : d.crawler.change ch = (result, crawler)) :
      Step d (.caller index) ({ d with crawler }.answer index ch rest result)
  | crawls {core : Core S} (running : d.crawler.phase = .running)
      (forward : Phase.running.rank ≤ core.phase.rank) :
      Step d (.crawl core) { d with crawler := { d.crawler with core } }

theorem step_of_moveCaller {index : Nat} {who : Caller S σ} (permitted : d.Permitted)
    (here : d.callers[index]? = some who) (h : d.moveCaller index who = some d') :
    Step d (.caller index) d' := by
  obtain ⟨todo, stage⟩ := who
  unfold moveCaller at h
  cases todo with
  | nil => cases h
  | cons ch rest =>
    cases stage with
    | outside =>
      dsimp only at h
      by_cases free : d.lockFree = true
      · rw [if_pos free] at h
        cases h
        exact .takes here free
      · rw [if_neg free] at h
        cases h
    | holding =>
      dsimp only at h
      by_cases initializing : d.crawler.phase = .initializing
      · rw [Phase.ensureInitializing, Phase.ensure, if_pos initializing] at h
        cases h
        exact .passes here rfl initializing
      · have refused := Crawler.change_of_ne initializing ch
        rw [Phase.ensureInitializing, Phase.ensure, if_neg initializing] at h
        cases h
        exact .answers here rfl Stage.noConfusion refused
    | allowed =>
      dsimp only at h
      -- The lifecycle is as the caller has read it, so its change is made in full.
      have initializing := permitted _ (List.mem_of_getElem? here) rfl
      rcases applied : ch.apply d.crawler with e | ⟨g, crawler⟩
      · rw [applied] at h
        cases h
        exact .answers here rfl Stage.noConfusion (Crawler.change_of_error initializing applied)
      · rw [applied] at h
        cases h
        exact .answers here rfl Stage.noConfusion (Crawler.change_of_ok initializing applied)

theorem step_of_advance (permitted : d.Permitted) (h : d.advance turn = some d') :
    Step d turn d' := by
  cases turn with
  | caller index =>
    obtain ⟨who, here, moved⟩ := Option.bind_eq_some_iff.mp h
    exact step_of_moveCaller permitted here moved
  | crawl core =>
    unfold advance at h
    dsimp only at h
    by_cases live : d.crawler.phase.rank ≤ core.phase.rank ∧ d.crawler.phase = .running
    · rw [if_pos live] at h
      cases h
      obtain ⟨forward, running⟩ := live
      rw [running] at forward
      exact .crawls running forward
    · rw [if_neg live] at h
      cases h

/-- What every desk at which callers of `c` are served is like. -/
structure Orderly (c : Crawler S σ) (d : Desk S σ) : Prop where
  alone : ∃ index, OnlyInside d.callers index
  permitted : d.Permitted
  serial : c.Serial d.answers d.crawler

namespace Orderly

theorem of_free (free : ∀ who ∈ d.callers, who.stage = .outside)
    (serial : c.Serial d.answers d.crawler) : Orderly c d := by
  refine ⟨⟨0, onlyInside_of_free free 0⟩, ?_, serial⟩
  intro who mem allowed
  cases allowed.symm.trans (free who mem)

theorem ofCrawler (c : Crawler S σ) (todos : List (List (Change S σ))) :
    Orderly c (ofCrawler c todos) := by
  refine of_free ?_ .nothing
  intro who mem
  obtain ⟨todo, -, rfl⟩ := List.mem_map.mp mem
  rfl

theorem step (h : Orderly c d) (s : Step d turn d') : Orderly c d' := by
  obtain ⟨i, only⟩ := h.alone
  cases s with
  | @takes index who here free =>
    have outside : ∀ other ∈ d.callers, other.stage = .outside := by
      intro other mem
      exact eq_of_beq (List.all_eq_true.mp free other mem)
    refine ⟨⟨index, (onlyInside_of_free outside index).set _⟩, ?_, h.serial⟩
    intro other mem allowed
    rcases List.mem_or_eq_of_mem_set mem with mem | rfl
    · exact h.permitted other mem allowed
    · cases allowed
  | @passes index who here holding initializing =>
    obtain rfl := only index who here (holding ▸ Stage.noConfusion)
    exact ⟨⟨index, only.set _⟩, fun _ _ _ => initializing, h.serial⟩
  | @answers index who ch rest result crawler here next inside changed =>
    obtain rfl := only index who here inside
    exact of_free (only.leave rest) (.change h.serial changed)
  | @crawls core running forward =>
    refine ⟨h.alone, ?_, .crawl h.serial running forward⟩
    intro who mem allowed
    cases (h.permitted who mem allowed).symm.trans running

theorem run (h : Orderly c d) {turns : List (Turn S)} (run : d.advanceAll turns = some d') :
    Orderly c d' := by
  induction turns generalizing d with
  | nil =>
    cases run
    exact h
  | cons turn turns ih =>
    obtain ⟨next, moved, rest⟩ := Option.bind_eq_some_iff.mp run
    exact ih (h.step (step_of_advance h.permitted moved)) rest

end Orderly

theorem granted_or_same {index : Nat} (s : Step d (.caller index) d') :
    (∃ ch g, d'.answers = d.answers ++ [⟨ch, .ok g⟩]) ∨ d'.crawler = d.crawler := by
  cases s with
  | @answers _ who ch rest result crawler here next inside changed =>
    cases result with
    | error e => exact .inr (Crawler.snd_change_of_error changed)
    | ok g => exact .inl ⟨ch, g, rfl⟩
  | _ => exact .inr rfl

theorem begun_of_answer [ListedFrontier S] (h : Orderly c d) (s : Step d turn d') {crew : Crew σ}
    (begun : d'.answers = d.answers ++ [⟨.start, .ok (.begun crew)⟩]) :
    d'.crawler.phase = .running ∧ Seeded c.core.frontier d.answers d'.crawler.core.frontier := by
  cases s with
  | @answers index who ch rest result crawler here next inside changed =>
    have answer := List.append_cancel_left begun
    cases answer
    obtain ⟨initializing, granted⟩ := Crawler.grants_of_change changed
    have configured := h.serial.told.2 initializing
    cases granted
    exact ⟨rfl, configured.seeded⟩
  | _ => cases List.self_eq_append_right.mp begun

/-- However callers take turns, one of them at a time is inside the lock, and what they get is what
they would get one after the other. At most one start gets past the lifecycle. It takes along
exactly who was enrolled before it, in order, and nothing is granted after it. The crawl begins with
the frontier that was set last and the seeds that this one has accepted since. A turn in which
nothing is granted leaves the crawler as it was. -/
theorem starts_atomically [ListedFrontier S] (c : Crawler S σ) (todos : List (List (Change S σ)))
    (turns : List (Turn S)) (d : Desk S σ)
    (run : (ofCrawler c todos).advanceAll turns = some d) :
    (∃ index, OnlyInside d.callers index) ∧
    c.Serial d.answers d.crawler ∧
    d.answers.countP Answer.begins ≤ 1 ∧
    (∀ before crew after, d.answers = before ++ ⟨.start, .ok (.begun crew)⟩ :: after →
      Enrolled c.crew before crew ∧ ∀ a ∈ after, a.isError = true) ∧
    (∀ turn d' crew, d.advance turn = some d' →
      d'.answers = d.answers ++ [⟨.start, .ok (.begun crew)⟩] →
      d'.crawler.phase = .running ∧
        Seeded c.core.frontier d.answers d'.crawler.core.frontier) ∧
    ∀ index d', d.advance (.caller index) = some d' →
      (∃ ch g, d'.answers = d.answers ++ [⟨ch, .ok g⟩]) ∨ d'.crawler = d.crawler := by
  have orderly := (Orderly.ofCrawler c todos).run run
  have history := orderly.serial.told.1
  refine ⟨orderly.alone, orderly.serial, history.countP_begins_le, ?_, ?_, ?_⟩
  · intro before crew after split
    exact history.frozen_of_begun split
  · intro turn d' crew moved begun
    exact begun_of_answer orderly (step_of_advance orderly.permitted moved) begun
  · intro index d' moved
    exact granted_or_same (step_of_advance orderly.permitted moved)

def sink : Pipeline Unit := ⟨"sink", fun _ => .pure true, .pure (.ok ())⟩

/-- Both callers want to start the crawler. One of them brings a frontier that takes only one of
the seeds. -/
def rivals : List (List (Change Store Unit)) :=
  [[.pipeline sink, .start],
    [.seed default, .frontier ⟨.empty .fifo, some 1, false⟩, .seed default, .seed default, .start]]

/-- The turns up to the start of the first caller, who is inside the lock already. -/
def rivalTurns : List (Turn Store) :=
  (List.replicate 6 1 ++ List.replicate 3 0 ++ List.replicate 6 1 ++ List.replicate 2 0).map
    Turn.caller

theorem starts_atomically_of_rivals :
    ∃ (d d' d'' : Desk Store Unit),
      (ofCrawler (.sequential (.ofQueue (.empty .lifo))) rivals).advanceAll rivalTurns = some d ∧
      d.advance (.caller 0) = some d' ∧
      d'.crawler.phase = .running ∧
      Seeded (.ofQueue (.empty .lifo)) d.answers d'.crawler.core.frontier ∧
      (ofCrawler (.sequential (.ofQueue (.empty .lifo))) rivals).advanceAll
        (rivalTurns ++ [.caller 0, .caller 1, .caller 1]) = some d'' ∧
      ∃ refused, d''.answers = d.answers ++ ⟨.start, .ok (.begun ⟨[], [], [sink]⟩)⟩ :: [refused] ∧
        Enrolled .empty d.answers ⟨[], [], [sink]⟩ ∧ refused.isError = true := by
  have early : ((ofCrawler (.sequential (.ofQueue (.empty .lifo))) rivals).advanceAll
      rivalTurns).isSome = true := rfl
  have late : ((ofCrawler (.sequential (.ofQueue (.empty .lifo))) rivals).advanceAll
      (rivalTurns ++ [.caller 0, .caller 1, .caller 1])).isSome = true := rfl
  obtain ⟨-, -, -, -, begins, -⟩ :=
    starts_atomically _ _ _ (Option.get _ early) (Option.some_get early).symm
  obtain ⟨-, -, -, frozen, -⟩ :=
    starts_atomically _ _ _ (Option.get _ late) (Option.some_get late).symm
  obtain ⟨phase, seeded⟩ := begins (.caller 0) _ ⟨[], [], [sink]⟩ rfl rfl
  obtain ⟨enrolled, refused⟩ := frozen (Option.get _ early).answers ⟨[], [], [sink]⟩ [_] rfl
  exact ⟨_, _, _, (Option.some_get early).symm, rfl, phase, seeded, (Option.some_get late).symm,
    _, rfl, enrolled, refused _ List.mem_cons_self⟩

end Desk

end WebCrawl
