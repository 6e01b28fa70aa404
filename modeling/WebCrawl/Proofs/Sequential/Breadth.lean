import WebCrawl.Proofs.Crawl.Turnover
import WebCrawl.Proofs.Sequential.Bound
import WebCrawl.Proofs.Sequential.Closure
import WebCrawl.Proofs.Site.Levels

/-!
# Crawls that go level by level

Between two rounds of a crawl over a queue that is polled from its front, the polled requests and
the pending ones are those that were accepted, in the order of their acceptance. If no download
fails, then the books say which ones these are: the seeds, and what was discovered on the pages
polled so far. So every round is one step of an exploration that goes level by level.
-/

namespace WebCrawl

def Mark.failed? : Mark → Option String
  | failed u => some u
  | _ => none

theorem Conduct.failed_full (b : Conduct) (u : String) :
    (b.full u).filterMap Mark.failed? = 0 := by
  unfold full serving reply handling
  cases b.downloader u with
  | none => rfl
  | some k =>
    cases b.processor u with
    | none => rfl
    | some j =>
      have shown := b.filterMap_shows (f := Mark.failed?) (fun _ _ _ => rfl) (fun _ => rfl) u 0
      have offered := filterMap_offers (f := Mark.failed?) (fun _ => rfl) (fun _ => rfl)
      simp [Multiset.filterMap_cons, Multiset.filterMap_add, offered, shown, Mark.failed?,
        finishing, filterMap_singleton, Multiset.insert_eq_cons]

namespace Books

variable {b : Conduct} {seeds seen : List String} {left : String → Nat} {M D : Multiset Mark}

theorem failed_eq_zero (h : Books b seeds seen left M D) (smooth : ∀ u, b.failures u = 0) :
    M.filterMap Mark.failed? = 0 := by
  have whole : ∀ u, (b.whole u).filterMap Mark.failed? = 0 := by
    intro u
    have due : b.due b.failures u = 0 := by
      rw [Conduct.due, smooth u, zero_nsmul, ite_self]
    rw [Conduct.whole, Multiset.filterMap_add, Multiset.filterMap_add, b.failed_full, due]
    rfl
  have offered := Conduct.filterMap_offers (f := Mark.failed?) (fun _ => rfl) (fun _ => rfl) seeds
  have nothing : (seen.map fun _ => (0 : Multiset String)).sum = 0 := by
    rw [List.map_const', List.sum_replicate, nsmul_zero]
  have balance := congrArg (Multiset.filterMap Mark.failed?) h.balance
  simp only [Multiset.filterMap_add, Conduct.filterMap_sum, List.map_map, Function.comp_def, whole,
    offered, nothing, add_zero] at balance
  apply Multiset.le_zero.mp
  rw [← balance]
  exact (Multiset.le_add_right _ _).trans (Multiset.le_add_right _ _)

variable {served : List String} {pending : List Request}

/-- What has left a mark of some kind was served; what is pending will leave it yet. -/
theorem balance_of_served (h : Books b seeds seen left M (b.pendingDebt pending))
    (split : seen.Perm (served ++ pending.map Request.fingerprint)) {f : Mark → Option String}
    (failures : ∀ u, (Conduct.attempt u).filterMap f = 0) (counts : ∀ c, f (.counted c) = none) :
    M.filterMap f = (Conduct.offers seeds).filterMap f +
      (served.map fun u => (b.full u).filterMap f).sum := by
  have balance := h.balance_of failures counts
  rw [Conduct.pendingDebt, Conduct.filterMap_sum, List.map_map, (split.map _).sum_eq,
    List.map_append, List.sum_append, List.map_map, ← add_assoc] at balance
  exact add_right_cancel balance

theorem mem_seen_of_served (h : Books b seeds seen left M (b.pendingDebt pending))
    (split : seen.Perm (served ++ pending.map Request.fingerprint)) (v : String) :
    v ∈ seen ↔ v ∈ seeds ∨ ∃ u ∈ served, v ∈ b.discoveries u := by
  rw [h.offered v, h.balance_of_served split (fun _ => rfl) (fun _ => rfl), Multiset.mem_add,
    mem_sum_map, Conduct.offered_offers]
  simp only [Conduct.offered_full, Multiset.mem_coe]

theorem fetched_of_served (h : Books b seeds seen left M (b.pendingDebt pending))
    (split : seen.Perm (served ++ pending.map Request.fingerprint)) :
    M.filterMap Mark.fetched? = (served.filter fun u => (b.downloader u).isSome : List String) := by
  rw [h.balance_of_served split (fun _ => rfl) (fun _ => rfl),
    Conduct.filterMap_offers (fun _ => rfl) (fun _ => rfl), zero_add, sum_fetched]

end Books

theorem seen_of_exactly_eq {seen seen' : List String} {q q' : Queue}
    (same : exactly seen q = exactly seen' q') : seen = seen' := by
  injection same with layers _
  injection layers with layer _
  injection layer with filter _
  injection filter with filter
  injection filter

namespace Event

def visited (events : List Event) : List String := (polled events).map Request.fingerprint

def fetched? : Event → Option String
  | did (.downloaded _ r (.ok _)) => some r.fingerprint
  | _ => none

def fetched (events : List Event) : List String := events.filterMap fetched?

theorem visited_append (events events' : List Event) :
    visited (events ++ events') = visited events ++ visited events' := by
  rw [visited, polled_append, List.map_append, visited, visited]

theorem fetched_append (events events' : List Event) :
    fetched (events ++ events') = fetched events ++ fetched events' :=
  List.filterMap_append

theorem map_successes (events : List Event) :
    ((events.filterMap deed?).filterMap Deed.success?).map Prod.fst = fetched events := by
  rw [List.map_filterMap, List.filterMap_filterMap, fetched]
  congr 1
  funext e
  cases e with
  | counted n => rfl
  | did d =>
    cases d with
    | downloaded k r result => cases result <;> rfl
    | _ => rfl

end Event

def Core.waiting (c : Core (Layered Queue)) : List String :=
  c.frontier.base.pending.map Request.fingerprint

theorem Recorded.no_failures {S : Type} {core : Core S} {M : Multiset Mark} (h : Recorded core M)
    (none_failed : M.filterMap Mark.failed? = 0) :
    core.journal.deeds.countP Deed.isFailure = 0 := by
  rw [h.marks fun _ => rfl] at none_failed
  have unmarked := List.filterMap_eq_nil_iff.mp ((Multiset.coe_eq_zero _).mp none_failed)
  apply List.countP_eq_zero.mpr
  intro d member failed
  have no_mark := unmarked d member
  cases d with
  | downloaded k r result =>
    cases result with
    | ok response => cases failed
    | error cause => cases no_mark
  | _ => cases failed

namespace Sequential

open Working

variable {σ : Type} {crew : Crew σ} {b : Conduct} {rd : Reading σ} {seeds : List String}
  {run : Run (Layered Queue) σ} {before segments : List Event}

theorem Served.polled {r : Request} {events : List Event} (served : Served crew r events) :
    Event.polled events = [] :=
  Event.polled_eq_nil (served.forall (fun _ other => other) fun _ => rfl)

theorem Served.visited {r : Request} {served : List Event} (this : Served crew r served) :
    Event.visited (.did (.polled r) :: served) = [r.fingerprint] := by
  have own : Event.polled (.did (.polled r) :: served) = r :: Event.polled served := rfl
  rw [Event.visited, own, this.polled]
  rfl

theorem Served.fetched_sublist {r : Request} {events : List Event} (served : Served crew r events) :
    (Event.fetched events).Sublist [r.fingerprint] := by
  cases served with
  | unsupported nobody =>
    have asked : Event.fetched _ = [] :=
      List.filterMap_eq_nil_iff.mpr (nobody.forall fun _ _ => rfl)
    rw [Event.fetched_append, asked]
    exact List.nil_sublist _
  | fetches chosen fetched =>
    have asked : Event.fetched _ = [] :=
      List.filterMap_eq_nil_iff.mpr (chosen.forall fun _ _ => rfl)
    rw [Event.fetched_append, asked, List.nil_append]
    cases fetched with
    | fails cause a => exact List.nil_sublist _
    | answers response handled =>
      have handling : ∀ d : Deed, d.isHandling = true → (Event.did d).fetched? = none := by
        intro d handling
        cases d <;> first | rfl | cases handling
      have nothing : Event.fetched _ = [] :=
        List.filterMap_eq_nil_iff.mpr (handled.forall handling fun _ => rfl)
      rw [Event.fetched_append, nothing, List.append_nil]
      exact .refl _

theorem Trace.fetched_sublist {events : List Event} (trace : Trace crew events) :
    (Event.fetched events).Sublist (Event.visited events) := by
  induction trace with
  | nil => exact .refl _
  | @segment r served events this rest ih =>
    have own : Event.fetched (.did (.polled r) :: served) = Event.fetched served := rfl
    rw [Event.fetched_append, Event.visited_append, own, this.visited]
    exact this.fetched_sublist.append ih

def frontFirst : Layered Queue := (Layered.bare (.empty .fifo)).wrap .exact

/-- A crawl between two rounds. Since the frontier was empty, seeds were offered and then requests
were served. -/
structure Paused (crew : Crew σ) (b : Conduct) (rd : Reading σ) (seeds : List String)
    (before segments : List Event) (run : Run (Layered Queue) σ) : Prop where
  ledger : InOrder b rd seeds run 0
  running : run.core.phase = .running
  elapsed : Elapsed (.new .sequential frontFirst) run.core (before ++ segments)
  idle : Event.Idle before
  trace : Trace crew segments

namespace Paused

theorem visited (h : Paused crew b rd seeds before segments run) :
    Event.visited (before ++ segments) = Event.visited segments := by
  have none_before : Event.polled before = [] := by
    apply Event.polled_eq_nil
    intro e he
    refine Event.isDeed_eq_false ?_ (h.idle e he)
    intro d idle
    cases d <;> first | rfl | cases idle
  rw [Event.visited_append, Event.visited, none_before, List.map_nil, List.nil_append]

theorem fetched (h : Paused crew b rd seeds before segments run) :
    Event.fetched (before ++ segments) = Event.fetched segments := by
  have none_before : Event.fetched before = [] := by
    apply List.filterMap_eq_nil_iff.mpr
    intro e he
    have idle := h.idle e he
    cases e with
    | did d => cases d <;> first | rfl | cases idle
    | counted n => rfl
  rw [Event.fetched_append, none_before, List.nil_append]

theorem deeds (h : Paused crew b rd seeds before segments run) :
    run.core.journal.deeds = (before ++ segments).filterMap Event.deed? :=
  h.elapsed.deeds

theorem say (h : Paused crew b rd seeds before segments run) (n : Note) :
    Paused crew b rd seeds before segments (run.update (·.say n)) := by
  have said := h.elapsed.trans (.say run.core n)
  rw [List.append_nil] at said
  exact ⟨h.ledger.say n, h.running, said, h.idle, h.trace⟩

theorem none_back (h : Paused crew b rd seeds before segments run)
    (smooth : ∀ u, b.failures u = 0) :
    (before ++ segments).countP (Event.isDeed Deed.isReturn) = 0 := by
  obtain ⟨seen, q, left, M, standing⟩ := h.ledger
  have succeeded := standing.record.no_failures (standing.books.failed_eq_zero smooth)
  rw [h.deeds, Event.countP_deeds] at succeeded
  have givenBack : Event.GivenBack (before ++ segments) :=
    (Event.GivenBack.of_plain h.idle.plain).append h.trace.givenBack
  unfold Event.GivenBack at givenBack
  omega

/-- The filter has seen what was polled and what is pending, and nothing twice. -/
theorem split (h : Paused crew b rd seeds before segments run) (smooth : ∀ u, b.failures u = 0) :
    ∃ seen left M, Recorded run.core M ∧
      Books b seeds seen left M (b.pendingDebt run.core.frontier.base.pending) ∧
      seen.Perm (Event.visited segments ++ run.core.waiting) := by
  obtain ⟨seen, q, left, M, standing⟩ := h.ledger
  have replays := h.elapsed.frontier
  obtain ⟨q', same, -⟩ := Replays.remembered (q := .empty .fifo) replays List.nodup_nil
  rw [standing.frontier] at same
  have pending : run.core.frontier.base.pending = q.pending := by
    rw [standing.frontier]
    rfl
  have books := standing.books
  rw [add_zero, ← pending] at books
  refine ⟨seen, left, M, standing.record, books, ?_⟩
  have all : Event.visited segments ++ run.core.waiting =
      Event.admitted (before ++ segments) := by
    have in_line := replays.line rfl
    rw [← h.visited, Event.visited, Core.waiting, ← List.map_append, in_line]
    exact Event.map_entered (h.none_back smooth)
  rw [all, seen_of_exactly_eq same, List.append_nil]
  exact List.reverse_perm _

theorem explored (h : Paused crew b rd seeds before segments run)
    (smooth : ∀ u, b.failures u = 0) :
    b.Explored seeds (Event.visited segments) run.core.waiting := by
  obtain ⟨seen, left, M, -, books, split⟩ := h.split smooth
  refine ⟨split.nodup_iff.mp books.nodup, ?_, ?_⟩
  · intro v
    rw [← split.mem_iff]
    exact books.mem_seen_of_served split v
  · intro v known
    exact books.reachable v (split.mem_iff.mpr known)

theorem mem_fetched (h : Paused crew b rd seeds before segments run)
    (smooth : ∀ u, b.failures u = 0) (u : String) :
    u ∈ Event.fetched segments ↔ u ∈ Event.visited segments ∧ (b.downloader u).isSome = true := by
  obtain ⟨seen, left, M, record, books, split⟩ := h.split smooth
  have fetched := books.fetched_of_served split
  rw [record.fetched, h.deeds, Event.map_successes, h.fetched] at fetched
  rw [(Multiset.coe_eq_coe.mp fetched).mem_iff, List.mem_filter]

end Paused

/-- A round finds nothing to poll, or it serves the first request in line, and what is new goes to
the end of the line. -/
theorem ensures_round (follows : crew.Follows b rd)
    (h : Paused crew b rd seeds before segments run) :
    Ensures (step crew) run fun more run' =>
      (more = false ∧ run.core.waiting = [] ∧ run'.core.waiting = [] ∧
        Paused crew b rd seeds before segments run') ∨
      (more = true ∧ ∃ r served new rest, Served crew r served ∧
        run.core.waiting = r.fingerprint :: rest ∧ run'.core.waiting = rest ++ new ∧
        Paused crew b rd seeds before (segments ++ .did (.polled r) :: served) run') := by
  have first := Layered.pending_of_poll_fifo (h.elapsed.frontier.order.trans rfl)
  have underWay : UnderWay b rd seeds run run [] 0 := ⟨h.ledger, .refl run⟩
  obtain ⟨more, run', ran, post⟩ := ensures_step follows underWay
  refine ⟨more, run', ran, ?_⟩
  rcases segment_of_step ran with ⟨rfl, s, dry, rfl⟩ | ⟨rfl, r, s, served, found, this, elapsed⟩
  · rcases post with ⟨-, pending, after⟩ | ⟨impossible, -⟩
    · left
      have polled := h.elapsed.trans (.dryPoll dry)
      rw [List.append_nil] at polled
      have dry_now : (run.update fun c => { c with frontier := s }).core.waiting = [] := by
        rw [Core.waiting, pending, List.map_nil]
      rw [dry, Option.toList_none, List.nil_append] at first
      refine ⟨rfl, ?_, dry_now, after.ledger, after.progress.phase.trans h.running, polled, h.idle,
        h.trace⟩
      rw [Core.waiting, ← first]
      exact dry_now
    · cases impossible
  · rcases post with ⟨impossible, -⟩ | ⟨-, r', served', -, after⟩
    · cases impossible
    · right
      have in_line := elapsed.frontier.line h.elapsed.frontier.order
      have own : Event.polled (.did (.polled r) :: served) = r :: Event.polled served := rfl
      have none_entered : Event.entered (.did (.polled r) :: served) = Event.entered served := rfl
      rw [found, Option.toList_some, List.singleton_append] at first
      rw [own, this.polled, none_entered, ← first, List.cons_append, List.cons_append,
        List.nil_append, List.cons.injEq] at in_line
      have served_all := h.elapsed.trans elapsed
      rw [List.append_assoc] at served_all
      refine ⟨rfl, r, served, (Event.entered served).map Request.fingerprint,
        s.base.pending.map Request.fingerprint, this, ?_, ?_, after.ledger,
        after.progress.phase.trans h.running, served_all, h.idle, h.trace.concat this⟩
      · rw [Core.waiting, ← first, List.map_cons]
      · rw [Core.waiting, in_line.2, List.map_append]

theorem ensures_levels (follows : crew.Follows b rd) (smooth : ∀ u, b.failures u = 0) (fuel : Nat)
    (h : Paused crew b rd seeds before segments run)
    (levels : b.Levels seeds (Event.visited segments) run.core.waiting) :
    Ensures (crawl crew fuel) run fun drained run' => ∃ segments',
      Paused crew b rd seeds before segments' run' ∧
      b.Levels seeds (Event.visited segments') run'.core.waiting ∧
      (drained = true → run'.core.waiting = []) ∧
      (drained = false → (Event.visited segments').length =
        (Event.visited segments).length + fuel) := by
  induction fuel generalizing segments run with
  | zero =>
    refine .pure ⟨segments, h, levels, ?_, fun _ => rfl⟩
    intro impossible
    cases impossible
  | succ fuel ih =>
    rw [crawl]
    refine Ensures.bind (ensures_round follows h) ?_
    rintro more run' (⟨rfl, before, dry, h'⟩ | ⟨rfl, r, served, new, rest, this, first, last, h'⟩)
    · rw [before, ← dry] at levels
      refine .pure ⟨segments, h', levels, fun _ => dry, ?_⟩
      intro impossible
      cases impossible
    · -- What was served and what is in line now is explored again, so this was one step of it.
      have next := h'.explored smooth
      rw [first] at levels
      rw [Event.visited_append, this.visited, last] at next
      have served_next := levels.serve next
      rw [← last, ← this.visited, ← Event.visited_append] at served_next
      obtain ⟨drained, run'', ran, segments', h'', levels', dry, spent⟩ := ih h' served_next
      refine ⟨drained, run'', ran, segments', h'', levels', dry, ?_⟩
      intro left
      rw [spent left, Event.visited_append, this.visited, List.length_append, List.length_singleton]
      omega

theorem ensures_runSequential_levels (follows : crew.Follows b rd)
    (smooth : ∀ u, b.failures u = 0) (fuel : Nat)
    (h : Paused crew b rd seeds before segments run)
    (levels : b.Levels seeds (Event.visited segments) run.core.waiting) :
    Ensures (Crawler.runSequential crew fuel) run fun drained run' => ∃ segments' closed last,
      Paused crew b rd seeds before segments' last ∧
      b.Levels seeds (Event.visited segments') last.core.waiting ∧
      Elapsed last.core run'.core (closings closed) ∧
      (drained = true → last.core.waiting = []) ∧
      (drained = false → (Event.visited segments').length =
        (Event.visited segments).length + fuel) := by
  have announced := h.say (.startingSequential crew.downloaders.length crew.processors.length
    crew.pipelines.length)
  rw [Crawler.runSequential]
  refine Ensures.bind_update (Ensures.bind (ensures_levels follows smooth fuel announced levels) ?_)
  rintro drained last ⟨segments', h', levels', dry, spent⟩
  cases drained with
  | false => exact .pure ⟨segments', [], last, h', levels', .refl _, dry, spent⟩
  | true =>
    obtain ⟨seen, q, left, M, standing⟩ := h'.ledger
    obtain ⟨_, run', concluded, -⟩ := ensures_conclude follows h'.running standing.world
    obtain ⟨closed, elapsed⟩ := elapsed_of_conclude concluded
    exact .bind_ok concluded (.pure ⟨segments', closed, last, h', levels', elapsed, dry, spent⟩)

end Sequential

def Change.seed? {S σ : Type} : Change S σ → Option Request
  | seed r => some r
  | _ => none

def Change.seeds {S σ : Type} (changes : List (Change S σ)) : List String :=
  (changes.filterMap seed?).map Request.fingerprint

namespace Sequential

open Working

variable {σ : Type} {b : Conduct} {rd : Reading σ} {c c' : Crawler (Layered Queue) σ}

theorem inOrder_of_changeAll {seeds : List String} {world : σ} {D : Multiset Mark}
    {changes : List (Change (Layered Queue) σ)}
    (additions : ∀ ch ∈ changes, ch.isAddition = true) (made : c.changeAll changes = .ok c')
    (h : InOrder b rd seeds ⟨c.core, world⟩ (Conduct.offers (Change.seeds changes) + D)) :
    InOrder b rd seeds ⟨c'.core, world⟩ D := by
  induction changes generalizing c with
  | nil =>
    cases made
    exact zero_add D ▸ h
  | cons ch changes ih =>
    obtain ⟨first, others⟩ := List.forall_mem_cons.mp additions
    obtain ⟨next, changed, made⟩ := Crawler.changed_of_changeAll made
    obtain ⟨g, granted⟩ := Crawler.grants_of_changed changed
    refine ih others made ?_
    cases granted with
    | downloader | processor | pipeline => exact h
    | seed r =>
      have seeds_cons : Change.seeds (Change.seed r :: changes) =
          r.fingerprint :: Change.seeds changes := rfl
      rw [seeds_cons, Conduct.offers_cons, add_assoc] at h
      exact h.push
    | frontier | start => cases first

theorem paused_of_changeAll {changes : List (Change (Layered Queue) σ)}
    (additions : ∀ ch ∈ changes, ch.isAddition = true)
    (made : (Crawler.sequential frontFirst).changeAll changes = .ok c) {world : σ}
    (fresh : rd.left b.failures world) :
    ∃ before, Paused c.crew b rd (Change.seeds changes) before []
      ⟨{ c.core with phase := .running }, world⟩ := by
  obtain ⟨before, extended⟩ := Crawler.extends_of_changeAll additions made
  have opened : InOrder b rd (Change.seeds changes)
      ⟨(Crawler.sequential frontFirst : Crawler (Layered Queue) σ).core, world⟩
      (Conduct.offers (Change.seeds changes) + 0) := by
    refine ⟨[], .empty .fifo, b.failures, 0, rfl, fresh, ⟨0, rfl, rfl⟩, ?_⟩
    rw [add_zero, Queue.empty, Conduct.pendingDebt, List.map_nil, List.sum_nil, zero_add]
    exact .opening b _
  have ledger : InOrder b rd (Change.seeds changes) ⟨{ c.core with phase := .running }, world⟩ 0 :=
    (inOrder_of_changeAll additions made opened).of_same rfl rfl rfl rfl
  refine ⟨before, ledger, rfl, ?_, extended.idle, .nil⟩
  have began : Elapsed c.core { c.core with phase := .running } [] := .of_same rfl rfl rfl
  exact extended.elapsed.trans began

/-- Pages were fetched level by level: the distances from the seeds never fall, and whatever is
nearer than a page that was fetched was fetched itself. -/
structure LevelByLevel (b : Conduct) (seeds fetched : List String) : Prop where
  sorted : (fetched.map (b.distance seeds)).Pairwise (· ≤ ·)
  nodup : fetched.Nodup
  wanted : ∀ u ∈ fetched, b.Reachable seeds u ∧ (b.downloader u).isSome = true
  complete : ∀ u ∈ fetched, ∀ v, b.Reachable seeds v → (b.downloader v).isSome = true →
    b.distance seeds v < b.distance seeds u → v ∈ fetched

theorem Paused.levelByLevel {crew : Crew σ} {seeds : List String} {before segments : List Event}
    {run : Run (Layered Queue) σ} (h : Paused crew b rd seeds before segments run)
    (smooth : ∀ u, b.failures u = 0)
    (levels : b.Levels seeds (Event.visited segments) run.core.waiting) :
    LevelByLevel b seeds (Event.fetched segments) := by
  have part := h.trace.fetched_sublist
  obtain ⟨sorted, -, -⟩ := List.pairwise_append.mp levels.sorted
  obtain ⟨nodup, -, -⟩ := List.nodup_append.mp levels.explored.nodup
  refine ⟨List.pairwise_map.mpr (sorted.sublist part), nodup.sublist part, ?_, ?_⟩
  · intro u fetched
    obtain ⟨visited, supported⟩ := (h.mem_fetched smooth u).mp fetched
    exact ⟨levels.explored.reachable u (List.mem_append_left _ visited), supported⟩
  · intro u fetched v reachable supported nearer
    obtain ⟨visited, -⟩ := (h.mem_fetched smooth u).mp fetched
    exact (h.mem_fetched smooth v).mpr ⟨levels.mem_served visited reachable nearer, supported⟩

/-- A sequential crawl over a queue that is polled from its front, under one exact filter, whose
crew goes by the fingerprint and never fails, fetches pages level by level, however long it goes on
and whatever the pages link to. It ends when all is fetched that can be reached and is supported;
until then each round polls one request. -/
theorem goes_level_by_level (changes : List (Change (Layered Queue) σ))
    (additions : ∀ ch ∈ changes, ch.isAddition = true)
    (made : (Crawler.sequential ((Layered.bare (.empty .fifo)).wrap .exact)).changeAll changes =
      .ok c)
    (follows : c.crew.Follows b rd) (smooth : ∀ u, b.failures u = 0) (world : σ)
    (fresh : rd.left b.failures world) (fuel : Nat) :
    ∃ drained c' world', c.start world fuel =
        (if drained then .finished else .unfinished, c', world') ∧
      LevelByLevel b (Change.seeds changes)
        ((c'.core.journal.deeds.filterMap Deed.success?).map Prod.fst) ∧
      (drained = true → ∀ u, b.Reachable (Change.seeds changes) u →
        (b.downloader u).isSome = true →
          u ∈ (c'.core.journal.deeds.filterMap Deed.success?).map Prod.fst) ∧
      (drained = false → c'.core.journal.deeds.countP Deed.isPoll = fuel) := by
  obtain ⟨before, paused⟩ := paused_of_changeAll additions made fresh
  obtain ⟨_, extended⟩ := Crawler.extends_of_changeAll additions made
  have engine : c.core.engine = .sequential := extended.engine
  have complete : c.checkCrew = .ok () := by rw [Crawler.checkCrew, engine]
  obtain ⟨drained, run, ran, segments, closed, last, paused', levels, elapsed, dry, spent⟩ :=
    ensures_runSequential_levels follows smooth fuel paused (.opening (paused.explored smooth))
  rw [← crawl_eq_runSequential engine c.crew (.fair fuel) fuel] at ran
  have whole := paused'.elapsed.trans elapsed
  have deeds : run.core.journal.deeds =
      (before ++ segments ++ closings closed).filterMap Event.deed? := whole.deeds
  have silent : Event.fetched (closings closed) = [] :=
    List.filterMap_eq_nil_iff.mpr (forall_closings (fun _ _ => rfl) closed)
  have fetched : (run.core.journal.deeds.filterMap Deed.success?).map Prod.fst =
      Event.fetched segments := by
    rw [deeds, Event.map_successes, Event.fetched_append, paused'.fetched, silent, List.append_nil]
  refine ⟨drained, ⟨run.core, .empty⟩, run.world,
    Crawler.startBy_of_ok extended.phase complete ran, ?_, ?_, ?_⟩
  · rw [fetched]
    exact paused'.levelByLevel smooth levels
  · rw [fetched]
    intro ended u reachable supported
    rw [dry ended] at levels
    exact (paused'.mem_fetched smooth u).mpr ⟨levels.mem_served_of_dry reachable, supported⟩
  · intro left
    have unpolled : Event.polled (closings closed) = [] :=
      Event.polled_eq_nil (forall_closings (fun _ _ => rfl) closed)
    have polls := congrArg List.length paused'.visited
    rw [spent left, Event.visited, List.length_map, Event.length_polled] at polls
    rw [deeds, Event.countP_deeds, List.countP_append, ← Event.length_polled (closings closed),
      unpolled, List.length_nil, Nat.add_zero, polls]
    exact Nat.zero_add fuel

/-- Each page links to two new ones, and back to the first. -/
def branchingLinks (u : String) : List Request :=
  [.named (u ++ "a"), .named (u ++ "b"), .named "a"]

/-- A site without end, on which no download fails. -/
def branching : Conduct :=
  { Conduct.circle with
    failures := fun _ => 0
    links := fun u => (branchingLinks u).map Request.fingerprint }

def branchingCrawler : Crawler (Layered Queue) (String → Nat) :=
  .prepared .sequential frontFirst (branching.players branchingLinks) [.named "a"]

def branchingChanges : List (Change (Layered Queue) (String → Nat)) :=
  branchingCrawler.crew.downloaders.map .downloader ++ branchingCrawler.crew.changes [.named "a"]

theorem playable_branching : branching.Playable branchingLinks where
  downloader _ _ h := (Option.some.inj h).symm
  processor _ _ h := (Option.some.inj h).symm
  subject _ := rfl
  links _ := rfl
  stages := rfl

theorem goes_level_by_level_of_branching :
    (Crawler.sequential ((Layered.bare (Queue.empty .fifo)).wrap .exact)).changeAll
        branchingChanges = .ok branchingCrawler ∧
      (∀ ch ∈ branchingChanges, ch.isAddition = true) ∧
      branchingCrawler.crew.Follows branching Conduct.playedReading ∧
      (∀ u, branching.failures u = 0) ∧
      Conduct.playedReading.left branching.failures branching.failures ∧
      ∃ c' world', branchingCrawler.start branching.failures 4 = (.unfinished, c', world') ∧
        LevelByLevel branching (Change.seeds branchingChanges)
          ["a://", "a://a://", "a://b://", "a://a://a://"] ∧
        c'.core.journal.deeds.countP Deed.isPoll = 4 := by
  have made : (Crawler.sequential ((Layered.bare (Queue.empty .fifo)).wrap .exact)).changeAll
      branchingChanges = .ok branchingCrawler := Crawler.sequential_changeAll _ _ _
  have additions : ∀ ch ∈ branchingChanges, ch.isAddition = true := by decide
  have follows : branchingCrawler.crew.Follows branching Conduct.playedReading :=
    Conduct.follows_players playable_branching
  have smooth : ∀ u, branching.failures u = 0 := fun _ => rfl
  obtain ⟨drained, c', world', started, levels, -, spent⟩ :=
    goes_level_by_level branchingChanges additions made follows smooth branching.failures rfl 4
  have ended : (branchingCrawler.start branching.failures 4).1.isFinished = false := by
    decide +kernel
  have fetched : ((branchingCrawler.start branching.failures 4).2.1.core.journal.deeds.filterMap
      Deed.success?).map Prod.fst = ["a://", "a://a://", "a://b://", "a://a://a://"] := by
    decide +kernel
  rw [started] at ended fetched
  rw [fetched] at levels
  cases drained with
  | true => cases ended
  | false => exact ⟨made, additions, follows, smooth, rfl, c', world', started, levels, spent rfl⟩

end Sequential

end WebCrawl
