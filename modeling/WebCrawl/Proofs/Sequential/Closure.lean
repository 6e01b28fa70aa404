import WebCrawl.Proofs.Crawler.Ends
import WebCrawl.Proofs.Site.Player

/-!
# The sequential crawl computes reachability

A crawler with an exact filter over a queue serves what can be reached from the seeds, each
fingerprint once, and then ends. What it has done and counted is settled by the conduct of its crew,
so the order of the queue makes no difference to it.
-/

namespace WebCrawl

namespace Sequential

open Working

variable {σ : Type} {crew : Crew σ} {b : Conduct} {rd : Reading σ} {seeds : List String}
  {run run₀ : Run (Layered Queue) σ} {l : List Deed}

/-- The milestones of a crawl: polled requests, each with what was made of it. -/
inductive Crawled (b : Conduct) : List Deed → Prop where
  | nothing : Crawled b []
  | more {l served : List Deed} (r : Request) (before : Crawled b l) (serves : Serves b r served) :
      Crawled b (l ++ .polled r :: served)

theorem Crawled.handled (h : Crawled b l) : l.filterMap Deed.handled? =
    ((l.filterMap Deed.success?).filter fun s => (b.processor s.1).isSome).map Prod.snd := by
  induction h with
  | nothing => rfl
  | @more l served r before serves ih =>
    have last : served.filterMap Deed.handled? =
        ((served.filterMap Deed.success?).filter fun s => (b.processor s.1).isSome).map
          Prod.snd := by
      cases serves with
      | fetchesNothing => rfl
      | fetches k response handled handles =>
        cases handles with
        | drops unwanted => simp [List.filterMap_cons, Deed.handled?, Deed.success?, unwanted]
        | processes j c wanted => simp [List.filterMap_cons, Deed.handled?, Deed.success?, wanted]
    simp only [List.filterMap_append, List.filterMap_cons_none (rfl : (Deed.polled r).handled? = _),
      List.filterMap_cons_none (rfl : (Deed.polled r).success? = _), List.filter_append,
      List.map_append, ih, last]

theorem ensures_step (follows : crew.Follows b rd) (h : UnderWay b rd seeds run₀ run l 0) :
    Ensures (step crew) run fun more run' =>
      (more = false ∧ run'.core.frontier.base.pending = [] ∧
        UnderWay b rd seeds run₀ run' l 0) ∨
      (more = true ∧ ∃ r served, Serves b r served ∧
        UnderWay b rd seeds run₀ run' (l ++ .polled r :: served) 0) := by
  cases hpoll : Frontier.poll run.core.frontier with
  | mk found s =>
    cases found with
    | none =>
      have polled : (pollNext : Working (Layered Queue) σ _) run =
          (.ok none, run.update fun c => { c with frontier := s }) := by
        simp only [pollNext, Core.poll, hpoll]
        rfl
      obtain ⟨ledger, pending⟩ := h.ledger.poll_dry hpoll
      refine Ensures.bind_ok polled (Ensures.pure ?_)
      exact .inl ⟨rfl, pending, ledger, h.progress.of_same rfl rfl⟩
    | some r =>
      have polled : (pollNext : Working (Layered Queue) σ _) run = (.ok (some r),
          run.update fun c => { c with frontier := s }.enter (.polled r)) := by
        simp only [pollNext, Core.poll, hpoll]
        rfl
      have taken : Progress run₀ (run.update fun c => { c with frontier := s }) l :=
        h.progress.of_same rfl rfl
      have entered : UnderWay b rd seeds run₀ _ (l ++ [.polled r]) _ :=
        ⟨h.ledger.poll hpoll, taken.enter rfl⟩
      refine Ensures.bind_ok polled (Ensures.bind (ensures_serve follows entered) ?_)
      intro _ run' ⟨served, serves, h⟩
      rw [List.append_assoc, List.singleton_append] at h
      exact .pure (.inr ⟨rfl, r, served, serves, h⟩)

theorem ensures_crawl (follows : crew.Follows b rd) {bound : Nat}
    (bounded : ∀ run, InOrder b rd seeds run 0 → run.core.milestones.length ≤ bound)
    (fuel : Nat) (h : UnderWay b rd seeds run₀ run l 0) (crawled : Crawled b l)
    (enough : bound < run.core.milestones.length + fuel) :
    Ensures (crawl crew fuel) run fun drained run' =>
      drained = true ∧ run'.core.frontier.base.pending = [] ∧
        ∃ l', Crawled b l' ∧ UnderWay b rd seeds run₀ run' l' 0 := by
  induction fuel generalizing run l with
  | zero =>
    have := bounded run h.ledger
    omega
  | succ fuel ih =>
    rw [crawl]
    refine Ensures.bind (ensures_step follows h) ?_
    rintro more run' (⟨rfl, pending, h'⟩ | ⟨rfl, r, served, serves, h'⟩)
    · exact .pure ⟨rfl, pending, l, crawled, h'⟩
    · -- The round has passed its poll at least, so there is one milestone less to come.
      refine ih h' (crawled.more r serves) ?_
      have before := congrArg List.length h.progress.milestones
      have after := congrArg List.length h'.progress.milestones
      simp only [List.length_append, List.length_cons] at before after
      omega

theorem milestones_le {all : List String} (hall : ∀ u, b.Reachable seeds u → u ∈ all)
    {D : Multiset Mark} (h : InOrder b rd seeds run D) :
    run.core.milestones.length ≤ (Conduct.offers seeds + (all.map b.whole).sum).card := by
  obtain ⟨seen, q, left, M, h⟩ := h
  have marked : run.core.milestones.length ≤
      (run.core.journal.deeds.filterMap Deed.mark?).length := by
    rw [Core.milestones, ← List.countP_eq_length_filter, List.length_filterMap_eq_countP]
    apply List.countP_mono_left
    intro d _ milestone
    cases d with
    | downloaded k r result => cases result <;> rfl
    | _ => first | rfl | cases milestone
  obtain ⟨counts, rfl, -⟩ := h.record
  have bounded := Multiset.card_le_card (h.books.marks_le hall)
  rw [Multiset.card_add, Multiset.coe_card] at bounded
  omega

theorem exists_bound (rd : Reading σ) (finite : {u | b.Reachable seeds u}.Finite) :
    ∃ bound, ∀ run : Run (Layered Queue) σ, InOrder b rd seeds run 0 →
      run.core.milestones.length ≤ bound := by
  have hall : ∀ u, b.Reachable seeds u → u ∈ finite.toFinset.toList := by
    intro u hu
    exact Finset.mem_toList.mpr (finite.mem_toFinset.mpr hu)
  exact ⟨_, fun _ => milestones_le hall⟩

theorem ensures_runSequential (follows : crew.Follows b rd) {bound : Nat}
    (bounded : ∀ run, InOrder b rd seeds run 0 → run.core.milestones.length ≤ bound)
    {fuel : Nat} (enough : bound < fuel) (h : InOrder b rd seeds run 0)
    (fresh : run.core.milestones = []) (running : run.core.phase = .running) :
    Ensures (Crawler.runSequential crew fuel) run fun drained run' =>
      drained = true ∧ run'.core.phase = .ended ∧ (∃ M, Closed b seeds run'.core M) ∧
        Crawled b run'.core.milestones := by
  have underWay : UnderWay b rd seeds run run [] 0 := ⟨h, .refl run⟩
  have crawled := ensures_crawl follows bounded fuel
    (underWay.say (.startingSequential crew.downloaders.length crew.processors.length
      crew.pipelines.length)) .nothing (by omega)
  rw [Crawler.runSequential]
  refine Ensures.bind_update (Ensures.bind crawled ?_)
  rintro drained run' ⟨rfl, pending, l, crawled, h'⟩
  obtain ⟨M, closed⟩ := Closed.of_inOrder h'.ledger pending
  obtain ⟨seen, q, left, M', standing⟩ := h'.ledger
  have concluded := ensures_conclude follows (h'.progress.phase.trans running) standing.world
  rw [if_pos rfl]
  refine Ensures.bind concluded ?_
  intro _ run'' released
  refine .pure ⟨rfl, released.phase, ⟨M, closed.of_concluded released⟩, ?_⟩
  rw [released.milestones]
  have passed := h'.progress.milestones
  rw [fresh, List.nil_append] at passed
  exact passed ▸ crawled

/-- A sequential crawler over a queue under one exact filter, polled in this order. -/
def overQueue (order : PollOrder) (crew : Crew σ) (seeds : List Request) :
    Crawler (Layered Queue) σ :=
  .prepared .sequential ((Layered.bare (.empty order)).wrap .exact) crew seeds

theorem start_overQueue (follows : crew.Follows b rd) {requests : List Request} {bound : Nat}
    (bounded : ∀ run, InOrder b rd (requests.map Request.fingerprint) run 0 →
      run.core.milestones.length ≤ bound)
    {world : σ} (fresh : rd.left b.failures world) (order : PollOrder) {fuel : Nat}
    (enough : bound < fuel) :
    ∃ run : Run (Layered Queue) σ, (overQueue order crew requests).start world fuel =
        (.finished, ⟨run.core, .empty⟩, run.world) ∧ run.core.phase = .ended ∧
      (∃ M, Closed b (requests.map Request.fingerprint) run.core M) ∧
        Crawled b run.core.milestones := by
  have prepared := underWay_prepared .sequential order crew requests fresh
  have phase : (overQueue order crew requests).phase = .initializing := prepared.progress.phase
  have engine : (overQueue order crew requests).core.engine = .sequential :=
    Crawler.engine_pushAll _ requests
  have complete : (overQueue order crew requests).checkCrew = .ok () := by
    rw [Crawler.checkCrew, engine]
  refine Crawler.startBy_of_ensures phase complete ?_
  rw [engine]
  have started : InOrder b rd (requests.map Request.fingerprint)
      ⟨{ (overQueue order crew requests).core with phase := .running }, world⟩ 0 :=
    prepared.ledger.of_same rfl rfl rfl rfl
  exact ensures_runSequential follows bounded enough started prepared.progress.milestones rfl

theorem Crawled.deeds {core : Core (Layered Queue)} (h : Crawled b core.milestones) :
    core.journal.deeds.filterMap Deed.handled? =
      ((core.journal.deeds.filterMap Deed.success?).filter fun s =>
        (b.processor s.1).isSome).map Prod.snd := by
  have handled : ∀ d : Deed, d.isMilestone = false → d.handled? = none := by
    intro d plain
    cases d with
    | processed => cases plain
    | _ => rfl
  have success : ∀ d : Deed, d.isMilestone = false → d.success? = none := by
    intro d plain
    cases d with
    | downloaded k r result => cases result <;> first | rfl | cases plain
    | _ => rfl
  rw [← core.filterMap_milestones handled, ← core.filterMap_milestones success]
  exact h.handled

/-- A sequential crawl whose crew goes by the fingerprint, and which can reach finitely many of
them, ends with an empty frontier. Each fingerprint that can be reached and is supported is fetched
with success once and no other is, each such response is processed once if there is a processor for
it and no other is, and whether the queue is polled from its front or from its back makes no
difference to the statistics. -/
theorem computes_reachability (crew : Crew σ) (b : Conduct) (rd : Reading σ)
    (follows : crew.Follows b rd) (requests : List Request) (world : σ)
    (fresh : rd.left b.failures world)
    (finite : {u | b.Reachable (requests.map Request.fingerprint) u}.Finite) :
    ∃ total enough, ∀ order : PollOrder, ∃ c : Crawler (Layered Queue) σ,
      (Crawler.sequential ((Layered.bare (.empty order)).wrap .exact)).changeAll
          (crew.downloaders.map .downloader ++ crew.changes requests) = .ok c ∧
      ∀ fuel, enough < fuel → ∃ c' world', c.start world fuel = (.finished, c', world') ∧
        c'.phase = .ended ∧ c'.core.frontier.base.pending = [] ∧
        ((c'.core.journal.deeds.filterMap Deed.success?).map Prod.fst).Nodup ∧
        (∀ u, u ∈ (c'.core.journal.deeds.filterMap Deed.success?).map Prod.fst ↔
          b.Reachable (requests.map Request.fingerprint) u ∧ (b.downloader u).isSome = true) ∧
        c'.core.journal.deeds.filterMap Deed.handled? =
          ((c'.core.journal.deeds.filterMap Deed.success?).filter fun s =>
            (b.processor s.1).isSome).map Prod.snd ∧
        c'.stats = total := by
  obtain ⟨bound, bounded⟩ := exists_bound rd finite
  obtain ⟨fifo, -, -, ⟨M₀, closed₀⟩, -⟩ :=
    start_overQueue follows bounded fresh .fifo (Nat.lt_succ_self bound)
  refine ⟨fifo.core.stats, bound, fun order => ⟨overQueue order crew requests,
    Crawler.sequential_changeAll _ crew requests, ?_⟩⟩
  intro fuel enough
  obtain ⟨run, started, ended, ⟨M, closed⟩, crawled⟩ :=
    start_overQueue follows bounded fresh order enough
  obtain ⟨nodup, mem⟩ := closed.successes
  exact ⟨⟨run.core, .empty⟩, run.world, started, ended, closed.pending, nodup, mem,
    crawled.deeds, closed.stats_eq closed₀⟩

theorem computes_reachability_of_circle :
    ∃ total enough, ∀ order : PollOrder, ∃ c : Crawler (Layered Queue) (String → Nat),
      (Crawler.sequential ((Layered.bare (.empty order)).wrap .exact)).changeAll
          (([Conduct.circle.playedDownloader].map .downloader) ++
            (Conduct.circle.players Conduct.circleLinks).changes [.named "a"]) = .ok c ∧
      ∀ fuel, enough < fuel → ∃ c' world',
        c.start Conduct.circle.failures fuel = (.finished, c', world') ∧ c'.phase = .ended ∧
          "b://" ∈ (c'.core.journal.deeds.filterMap Deed.success?).map Prod.fst ∧
          c'.stats = total := by
  obtain ⟨total, enough, h⟩ := computes_reachability _ _ _
    (Conduct.follows_players Conduct.playable_circle) [.named "a"] Conduct.circle.failures rfl
    Conduct.finite_circle
  refine ⟨total, enough, fun order => ?_⟩
  obtain ⟨c, configured, h⟩ := h order
  refine ⟨c, configured, fun fuel hfuel => ?_⟩
  obtain ⟨c', world', started, ended, -, -, mem, -, counted⟩ := h fuel hfuel
  have first : Conduct.circle.Reachable ([Request.named "a"].map Request.fingerprint) "a://" :=
    .seed (by simp [Request.fingerprint_named])
  have second : "b://" ∈ Conduct.circle.links "a://" := by simp [Conduct.circle]
  exact ⟨c', world', started, ended, (mem "b://").mpr ⟨.link first rfl rfl second, rfl⟩, counted⟩

end Sequential

end WebCrawl
