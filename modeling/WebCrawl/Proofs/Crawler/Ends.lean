import WebCrawl.Crawler.Start
import WebCrawl.Proofs.Crawl.Events
import WebCrawl.Proofs.Crawler.Changes
import WebCrawl.Proofs.Sequential.Serve

/-!
# Both ends of a crawl

A crawler that got its crew and its seeds has done nothing yet but offer the seeds, so the books are
in order. When a crawl is over and nothing is pending, the books are closed, and what was done can
be read off them.
-/

namespace WebCrawl

/-- The changes that give a crawler with downloaders the rest of its crew, and its seeds. -/
def Crew.changes {S σ : Type} (crew : Crew σ) (seeds : List Request) : List (Change S σ) :=
  crew.processors.map .processor ++ (crew.pipelines.map .pipeline ++ seeds.map .seed)

def StartResult.ofEnd : Except Panic Bool → StartResult
  | .error p => panicked p.message
  | .ok drained => if drained then finished else unfinished

namespace Crawler

variable {S σ : Type} [Frontier S]

def prepared (engine : Engine) (frontier : S) (crew : Crew σ) (seeds : List Request) :
    Crawler S σ :=
  ⟨((Core.new engine frontier).pushAll seeds).2, crew⟩

variable {c : Crawler S σ}

theorem changed_of_initializing (h : c.phase = .initializing) (ch : Change S σ) {c' : Crawler S σ}
    {granted : Granted σ} (applied : ch.apply c = .ok (granted, c')) : c.changed ch = .ok c' := by
  rw [changed, change_of_ok h applied]

theorem changeAll_append (xs ys : List (Change S σ)) :
    c.changeAll (xs ++ ys) = (c.changeAll xs).bind (·.changeAll ys) := by
  induction xs generalizing c with
  | nil => rfl
  | cons ch xs ih =>
    rw [List.cons_append, changeAll, changeAll]
    cases c.changed ch with
    | error e => rfl
    | ok c' => exact ih

theorem changeAll_downloaders (h : c.phase = .initializing) (engine : c.core.engine = .sequential)
    (ds : List (Downloader σ)) : c.changeAll (ds.map .downloader) =
      .ok { c with crew := { c.crew with downloaders := c.crew.downloaders ++ ds } } := by
  induction ds generalizing c with
  | nil =>
    rw [List.append_nil]
    rfl
  | cons d ds ih =>
    have room : c.checkRoom = .ok () := by simp only [checkRoom, engine]
    have added : (Change.downloader d).apply c =
        .ok (.done, { c with crew := c.crew.withDownloader d }) := by
      simp only [Change.apply, room, Except.map]
    rw [List.map_cons, changeAll, changed_of_initializing h _ added]
    refine (ih (c := { c with crew := c.crew.withDownloader d }) h engine).trans ?_
    rw [Crew.withDownloader, List.append_assoc, List.singleton_append]

theorem changeAll_processors (h : c.phase = .initializing) (ps : List (Processor σ)) :
    c.changeAll (ps.map .processor) =
      .ok { c with crew := { c.crew with processors := c.crew.processors ++ ps } } := by
  induction ps generalizing c with
  | nil =>
    rw [List.append_nil]
    rfl
  | cons p ps ih =>
    rw [List.map_cons, changeAll, changed_of_initializing h (.processor p) rfl]
    refine (ih (c := { c with crew := c.crew.withProcessor p }) h).trans ?_
    rw [Crew.withProcessor, List.append_assoc, List.singleton_append]

theorem changeAll_pipelines (h : c.phase = .initializing) (ps : List (Pipeline σ)) :
    c.changeAll (ps.map .pipeline) =
      .ok { c with crew := { c.crew with pipelines := c.crew.pipelines ++ ps } } := by
  induction ps generalizing c with
  | nil =>
    rw [List.append_nil]
    rfl
  | cons p ps ih =>
    rw [List.map_cons, changeAll, changed_of_initializing h (.pipeline p) rfl]
    refine (ih (c := { c with crew := c.crew.withPipeline p }) h).trans ?_
    rw [Crew.withPipeline, List.append_assoc, List.singleton_append]

theorem changeAll_seeds (h : c.phase = .initializing) (rs : List Request) :
    c.changeAll (rs.map .seed) = .ok { c with core := (c.core.pushAll rs).2 } := by
  induction rs generalizing c with
  | nil => rfl
  | cons r rs ih =>
    rw [List.map_cons, changeAll, changed_of_initializing h (.seed r) rfl]
    exact ih (c := { c with core := (c.core.push r).2 }) ((Core.phase_push _ r).trans h)

theorem changeAll_changes {frontier : S} {engine : Engine} (crew : Crew σ)
    (seeds : List Request) : changeAll ⟨.new engine frontier, ⟨crew.downloaders, [], []⟩⟩
      (crew.changes seeds) = .ok (prepared engine frontier crew seeds) := by
  rw [Crew.changes, changeAll_append, changeAll_processors rfl]
  refine (changeAll_append (c := ⟨.new engine frontier, ⟨crew.downloaders, crew.processors, []⟩⟩)
    _ _).trans ?_
  rw [changeAll_pipelines rfl]
  exact changeAll_seeds (c := ⟨.new engine frontier, crew⟩) rfl seeds

theorem sequential_changeAll (frontier : S) (crew : Crew σ) (seeds : List Request) :
    (sequential frontier).changeAll (crew.downloaders.map .downloader ++ crew.changes seeds) =
      .ok (prepared .sequential frontier crew seeds) := by
  rw [changeAll_append, changeAll_downloaders rfl rfl]
  exact changeAll_changes crew seeds

theorem change_start (h : c.phase = .initializing) (complete : c.checkCrew = .ok ()) :
    c.change .start =
      (.ok (.begun c.crew), ⟨{ c.core with phase := .running }, .empty⟩) := by
  have begun : c.begin = .ok (c.crew, ⟨{ c.core with phase := .running }, .empty⟩) := by
    rw [begin, complete, h, Phase.begin_initializing]
  simp [change, h, Phase.ensureInitializing, Phase.ensure, Change.apply, begun, Except.map]

theorem eq_of_pooled {frontier : S} {d : Downloader σ} {sizes : PoolSizes}
    (made : pooled frontier d sizes = .ok c) :
    c = ⟨.new (.pooled sizes) frontier, ⟨[d], [], []⟩⟩ := by
  unfold pooled at made
  split at made
  · cases made
  · rw [changed_of_initializing rfl (.downloader d) rfl] at made
    exact (Except.ok.inj made).symm

theorem engine_pushAll (core : Core S) (rs : List Request) :
    (core.pushAll rs).2.engine = core.engine := by
  induction rs generalizing core with
  | nil => rfl
  | cons r rs ih => exact ih (core.push r).2

theorem startBy_eq (h : c.phase = .initializing) (complete : c.checkCrew = .ok ()) {world : σ}
    {schedule : Schedule S σ} {fuel : Nat} {ended : Except Panic Bool} {run : Run S σ}
    (ran : crawl c.core.engine c.crew schedule fuel ⟨{ c.core with phase := .running }, world⟩ =
      (ended, run)) :
    c.startBy world schedule fuel = (.ofEnd ended, ⟨run.core, .empty⟩, run.world) := by
  simp only [startBy, change_start h complete, Granted.crew, ran]
  cases ended with
  | error p => rfl
  | ok done => cases done <;> rfl

theorem startBy_of_ok (h : c.phase = .initializing) (complete : c.checkCrew = .ok ()) {world : σ}
    {schedule : Schedule S σ} {fuel : Nat} {done : Bool} {run : Run S σ}
    (ran : crawl c.core.engine c.crew schedule fuel ⟨{ c.core with phase := .running }, world⟩ =
      (.ok done, run)) :
    c.startBy world schedule fuel =
      (if done then .finished else .unfinished, ⟨run.core, .empty⟩, run.world) :=
  startBy_eq h complete ran

theorem ran_of_started (h : c.phase = .initializing) (complete : c.checkCrew = .ok ())
    {c' : Crawler S σ} {world world' : σ} {schedule : Schedule S σ} {fuel : Nat}
    {result : StartResult} (started : c.startBy world schedule fuel = (result, c', world'))
    (unhurt : ∀ message, result ≠ .panicked message) :
    ∃ drained run, crawl c.core.engine c.crew schedule fuel
        ⟨{ c.core with phase := .running }, world⟩ = (.ok drained, run) ∧
      result = (if drained then .finished else .unfinished) ∧ c' = ⟨run.core, .empty⟩ ∧
      world' = run.world := by
  rcases ran : crawl c.core.engine c.crew schedule fuel
    ⟨{ c.core with phase := .running }, world⟩ with ⟨ended, run⟩
  rw [startBy_eq h complete ran] at started
  cases started
  cases ended with
  | error p => exact absurd rfl (unhurt p.message)
  | ok drained => exact ⟨drained, run, rfl, rfl, rfl, rfl⟩

theorem startBy_of_ensures (h : c.phase = .initializing) (complete : c.checkCrew = .ok ())
    {world : σ} {schedule : Schedule S σ} {fuel : Nat} {P : Run S σ → Prop}
    (ensured : Working.Ensures (crawl c.core.engine c.crew schedule fuel)
      ⟨{ c.core with phase := .running }, world⟩ fun done run => done = true ∧ P run) :
    ∃ run, c.startBy world schedule fuel = (.finished, ⟨run.core, .empty⟩, run.world) ∧ P run := by
  obtain ⟨done, run, ran, rfl, post⟩ := ensured
  exact ⟨run, startBy_of_ok h complete ran, post⟩

theorem initializing_of_started {granted : Granted σ}
    (started : (c.change .start).1 = .ok granted) :
    c.phase = .initializing ∧ c.checkCrew = .ok () := by
  by_cases h : c.phase = .initializing
  · refine ⟨h, ?_⟩
    rcases complete : c.checkCrew with e | _
    · have refused : (c.change .start).1 = .error e := by
        simp [change, h, Phase.ensureInitializing, Phase.ensure, Change.apply, begin, complete,
          Except.map]
      rw [refused] at started
      cases started
    · rfl
  · rw [change_of_ne h] at started
    cases started

theorem startBy_of_refused {e : CrawlError} (refused : (c.change .start).1 = .error e) (world : σ)
    (schedule : Schedule S σ) (fuel : Nat) :
    c.startBy world schedule fuel = (.refused e, c, world) := by
  rcases h : c.change .start with ⟨decision, c'⟩
  rw [h] at refused
  cases refused
  cases snd_change_of_error h
  simp only [startBy, h]

theorem ran_of_finished {c' : Crawler S σ} {world world' : σ} {schedule : Schedule S σ}
    {fuel : Nat} (finished : c.startBy world schedule fuel = (.finished, c', world')) :
    c.phase = .initializing ∧ ∃ run, crawl c.core.engine c.crew schedule fuel
      ⟨{ c.core with phase := .running }, world⟩ = (.ok true, run) ∧ c'.core = run.core := by
  rcases decision : (c.change .start).1 with e | granted
  · rw [startBy_of_refused decision] at finished
    cases finished
  · obtain ⟨h, complete⟩ := initializing_of_started decision
    obtain ⟨drained, run, ran, ended, rfl, -⟩ := ran_of_started h complete finished nofun
    cases drained with
    | true => exact ⟨h, run, ran, rfl⟩
    | false => cases ended

end Crawler

variable {σ : Type} {b : Conduct} {rd : Reading σ}

theorem underWay_prepared (engine : Engine) (order : PollOrder) (crew : Crew σ)
    (seeds : List Request) {world : σ} (fresh : rd.left b.failures world) :
    UnderWay b rd (seeds.map Request.fingerprint)
      ⟨.new engine (exactly [] (.empty order)), world⟩
      ⟨(Crawler.prepared engine (exactly [] (.empty order)) crew seeds).core, world⟩ [] 0 := by
  have opened : InOrder b rd (seeds.map Request.fingerprint)
      ⟨.new engine (exactly [] (.empty order)), world⟩
      (Conduct.offers (seeds.map Request.fingerprint) + 0) := by
    refine ⟨[], .empty order, b.failures, 0, rfl, fresh, ⟨0, rfl, rfl⟩, ?_⟩
    rw [add_zero, Queue.empty, Conduct.pendingDebt, List.map_nil, List.sum_nil, zero_add]
    exact .opening b _
  exact ⟨opened.pushAll, (Progress.refl _).pushAll seeds⟩

theorem Working.Released.milestones {S σ : Type} {run run' : Run S σ} (h : Released run run') :
    run'.core.milestones = run.core.milestones := by
  obtain ⟨closed, deeds⟩ := h.deeds
  have plain : (closed.map fun c => Deed.closed c.1 c.2).filter Deed.isMilestone = [] := by
    apply List.filter_eq_nil_iff.mpr
    intro d hd
    obtain ⟨c, -, rfl⟩ := List.mem_map.mp hd
    exact Bool.false_ne_true
  rw [Core.milestones, deeds, List.filter_append, plain, List.append_nil, Core.milestones]

namespace Deed

/-- A successful download: the fingerprint of the request, and the response. -/
def success? : Deed → Option (String × Response)
  | downloaded _ r (.ok response) => some (r.fingerprint, response)
  | _ => none

def handled? : Deed → Option Response
  | processed _ response _ => some response
  | _ => none

def fetches (u : String) : Deed → Bool
  | downloaded _ r (.ok _) => r.fingerprint == u
  | _ => false

end Deed

theorem Event.count_successes (u : String) (events : List Event) :
    (((events.filterMap deed?).filterMap Deed.success?).map Prod.fst).count u =
      events.countP (isDeed (Deed.fetches u)) := by
  rw [List.count, List.countP_map, List.countP_filterMap, ← countP_deeds]
  congr 1
  funext d
  cases d with
  | downloaded k r result => cases result <;> rfl
  | _ => rfl

theorem Recorded.fetched {S : Type} {core : Core S} {M : Multiset Mark} (h : Recorded core M) :
    M.filterMap Mark.fetched? =
      ((core.journal.deeds.filterMap Deed.success?).map Prod.fst : List String) := by
  rw [h.marks (fun _ => rfl), List.map_filterMap]
  congr 1
  apply List.filterMap_congr
  intro d _
  cases d with
  | downloaded k r result => cases result <;> rfl
  | _ => rfl

/-- Nothing is pending any more, and the books come out even. -/
structure Closed (b : Conduct) (seeds : List String) (core : Core (Layered Queue))
    (M : Multiset Mark) : Prop where
  pending : core.frontier.base.pending = []
  record : Recorded core M
  books : ∃ seen left, Books b seeds seen left M 0

namespace Closed

variable {seeds : List String} {core core' : Core (Layered Queue)} {M M' : Multiset Mark}
  {run run' : Run (Layered Queue) σ}

theorem of_inOrder (h : InOrder b rd seeds run 0) (done : run.core.frontier.base.pending = []) :
    ∃ M, Closed b seeds run.core M := by
  obtain ⟨seen, left, M, record, books⟩ := h.closing done
  exact ⟨M, done, record, seen, left, books⟩

theorem of_released (h : Closed b seeds run.core M) (released : Working.Released run run') :
    Closed b seeds run'.core M := by
  obtain ⟨closed, deeds⟩ := released.deeds
  obtain ⟨counts, rfl, counted⟩ := h.record
  refine ⟨released.frontier ▸ h.pending, ⟨counts, ?_, released.stats.trans counted⟩, h.books⟩
  have silent : (closed.map fun c => Deed.closed c.1 c.2).filterMap Deed.mark? = [] := by
    apply List.filterMap_eq_nil_iff.mpr
    intro d hd
    obtain ⟨c, -, rfl⟩ := List.mem_map.mp hd
    rfl
  rw [deeds, List.filterMap_append, silent, List.append_nil]

theorem of_concluded (h : Closed b seeds run.core M)
    (released : Working.Released (run.update fun c => { c with phase := .ended }) run') :
    Closed b seeds run'.core M := by
  have ended : Closed b seeds (run.update fun c => { c with phase := .ended }).core M :=
    ⟨h.pending, h.record.of_same rfl rfl, h.books⟩
  exact ended.of_released released

theorem stats_eq (h : Closed b seeds core M) (h' : Closed b seeds core' M') :
    core.stats = core'.stats := by
  obtain ⟨seen, left, books⟩ := h.books
  obtain ⟨seen', left', books'⟩ := h'.books
  rw [h.record.stats, h'.record.stats, books.marks_unique books']

theorem successes (h : Closed b seeds core M) :
    ((core.journal.deeds.filterMap Deed.success?).map Prod.fst).Nodup ∧
      ∀ u, u ∈ (core.journal.deeds.filterMap Deed.success?).map Prod.fst ↔
        b.Reachable seeds u ∧ (b.downloader u).isSome = true := by
  obtain ⟨seen, left, books⟩ := h.books
  have same : (((core.journal.deeds.filterMap Deed.success?).map Prod.fst : List String) :
      Multiset String) = (seen.filter fun u => (b.downloader u).isSome : List String) := by
    rw [← h.record.fetched, books.fetched_eq]
  have perm := Multiset.coe_eq_coe.mp same
  refine ⟨perm.nodup_iff.mpr (books.nodup.filter _), ?_⟩
  intro u
  rw [perm.mem_iff, List.mem_filter, books.mem_seen_iff]

end Closed

end WebCrawl
