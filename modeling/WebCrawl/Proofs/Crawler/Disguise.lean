import WebCrawl.Assembly
import WebCrawl.Crawler.Start
import WebCrawl.Proofs.Pool.Disguise

/-!
# A crawler in disguise

Whether a crawler is built, changed or started, it cannot tell its frontier from a disguise. The
default filter around a frontier that has one already is such a disguise.
-/

namespace WebCrawl

variable {S T σ α : Type} {φ : S → T}

/-- The same change; where it brings a frontier, the frontier is in disguise as well. -/
def Change.map (φ : S → T) : Change S σ → Change T σ
  | .downloader d => .downloader d
  | .processor p => .processor p
  | .pipeline p => .pipeline p
  | .seed r => .seed r
  | .frontier f => .frontier (φ f)
  | .start => .start

namespace Crawler

def map (φ : S → T) (c : Crawler S σ) : Crawler T σ := ⟨c.core.map φ, c.crew⟩

theorem map_begin (c : Crawler S σ) :
    (c.map φ).begin = c.begin.map fun p => (p.1, p.2.map φ) := by
  have complete : (c.map φ).checkCrew = c.checkCrew := rfl
  have phase : (c.map φ).phase = c.phase := rfl
  simp only [begin, complete, phase]
  rcases c.checkCrew with e | _
  · rfl
  · rcases c.phase.begin with ⟨e | _, phase⟩
    · rfl
    · rfl

variable [Frontier S] [Frontier T]

theorem map_apply (h : Frontier.Disguise φ) (c : Crawler S σ) (ch : Change S σ) :
    (ch.map φ).apply (c.map φ) = (ch.apply c).map fun p => (p.1, p.2.map φ) := by
  cases ch with
  | downloader d =>
    have room : (c.map φ).checkRoom = c.checkRoom := rfl
    simp only [Change.map, Change.apply, room]
    rcases c.checkRoom with e | _
    · rfl
    · rfl
  | seed r =>
    have pushed : (c.map φ).core.push r = ((c.core.push r).1, (c.core.push r).2.map φ) :=
      c.core.map_push h r
    simp only [Change.map, Change.apply, pushed]
    rfl
  | start =>
    simp only [Change.map, Change.apply, map_begin]
    rcases c.begin with e | p
    · rfl
    · rfl
  | _ => rfl

theorem map_change (h : Frontier.Disguise φ) (c : Crawler S σ) (ch : Change S σ) :
    (c.map φ).change (ch.map φ) = ((c.change ch).1, (c.change ch).2.map φ) := by
  have action : (ch.map φ).action = ch.action := by cases ch <;> rfl
  have phase : (c.map φ).phase = c.phase := rfl
  simp only [change, action, phase, map_apply h]
  rcases c.phase.ensureInitializing ch.action with e | _
  · rfl
  · rcases ch.apply c with e | p
    · rfl
    · rfl

theorem map_changed (h : Frontier.Disguise φ) (c : Crawler S σ) (ch : Change S σ) :
    (c.map φ).changed (ch.map φ) = (c.changed ch).map (map φ) := by
  simp only [changed, map_change h]
  rcases c.change ch with ⟨e | granted, c'⟩
  · rfl
  · rfl

theorem map_changeAll (h : Frontier.Disguise φ) (c : Crawler S σ) (changes : List (Change S σ)) :
    (c.map φ).changeAll (changes.map (Change.map φ)) = (c.changeAll changes).map (map φ) := by
  induction changes generalizing c with
  | nil => rfl
  | cons ch rest ih =>
    rw [List.map_cons, changeAll, changeAll, map_changed h]
    rcases c.changed ch with e | c'
    · rfl
    · exact ih c'

theorem map_pooled (h : Frontier.Disguise φ) (s : S) (d : Downloader σ) (sizes : PoolSizes) :
    pooled (φ s) d sizes = (pooled s d sizes).map (map φ) := by
  unfold pooled
  rcases checkSizes sizes with issue | _
  · rfl
  · exact (unconfigured s sizes).map_changed h (.downloader d)

theorem agree_work (h : Frontier.Disguise φ) (moves : List Move) (crew : Crew σ)
    (d : Downloader σ) (sizes : PoolSizes) :
    Working.Agree φ (work (.along moves) crew d sizes) (work (.along moves) crew d sizes) := by
  intro run
  have moved : Schedule.along moves crew d (Pool.ofRun (run.map φ) sizes) =
      (Schedule.along moves crew d (Pool.ofRun run sizes)).map φ := by
    have same : Pool.ofRun (run.map φ) sizes = (Pool.ofRun run sizes).map φ := rfl
    rw [Schedule.along, same, Pool.map_advanceAll h, Option.getD_map]
    rfl
  simp only [work, moved]
  rfl

theorem agree_crawl (h : Frontier.Disguise φ) (engine : Engine) (crew : Crew σ)
    (moves : List Move) (fuel : Nat) :
    Working.Agree φ (crawl engine crew (.along moves) fuel)
      (crawl engine crew (.along moves) fuel) := by
  cases engine with
  | sequential =>
    refine (Working.Agree.say _).bind fun _ =>
      (Sequential.agree_crawl h crew fuel).bind fun drained => ?_
    cases drained with
    | true => exact (Working.Agree.conclude crew).bind fun _ => .pure true
    | false => exact .pure false
  | pooled sizes =>
    obtain ⟨downloaders, processors, pipelines⟩ := crew
    cases downloaders with
    | nil => exact (Working.Agree.conclude _).bind fun _ => .pure true
    | cons d ds =>
      refine (Working.Agree.say _).bind fun _ => (agree_work h moves _ d sizes).bind fun left => ?_
      cases left with
      | true => exact (Working.Agree.conclude _).bind fun _ => .pure true
      | false => exact .pure false

/-- A crawl goes the same way, whichever moves are made, and leaves all but the frontier the
same. -/
theorem map_startBy (h : Frontier.Disguise φ) (c : Crawler S σ) (world : σ) (moves : List Move)
    (fuel : Nat) :
    (c.map φ).startBy world (.along moves) fuel =
      ((c.startBy world (.along moves) fuel).1,
        (c.startBy world (.along moves) fuel).2.1.map φ,
        (c.startBy world (.along moves) fuel).2.2) := by
  have begun : (c.map φ).change .start = ((c.change .start).1, (c.change .start).2.map φ) :=
    c.map_change h .start
  rcases started : c.change .start with ⟨e | granted, c'⟩
  · rw [started] at begun
    simp only [startBy, started, begun]
  · rw [started] at begun
    have crawled : crawl c'.core.engine granted.crew (.along moves) fuel ⟨c'.core.map φ, world⟩ =
        _ := agree_crawl h c'.core.engine granted.crew moves fuel ⟨c'.core, world⟩
    rcases ran : crawl c'.core.engine granted.crew (.along moves) fuel ⟨c'.core, world⟩
      with ⟨result, run⟩
    have other : crawl (c'.map φ).core.engine granted.crew (.along moves) fuel
        ⟨(c'.map φ).core, world⟩ = (result, run.map φ) := crawled.trans (by rw [ran])
    simp only [startBy, started, begun, ran, other]
    rcases result with p | drained
    · rfl
    · cases drained <;> rfl

end Crawler

namespace Assembly

variable {S σ : Type} [Frontier S] {φ : Layered S → Layered S}

theorem map_changeAll_map {α : Type} (h : Frontier.Disguise φ)
    (change : α → Change (Layered S) σ) (same : ∀ x, (change x).map φ = change x)
    (c : Crawler (Layered S) σ) (xs : List α) :
    (c.map φ).changeAll (xs.map change) = (c.changeAll (xs.map change)).map (Crawler.map φ) := by
  have changed := c.map_changeAll h (xs.map change)
  have plain : (xs.map change).map (Change.map φ) = xs.map change := by
    rw [List.map_map]
    exact List.map_congr_left fun x _ => same x
  rwa [plain] at changed

omit [Frontier S] in
theorem bind_map {x y : Except CrawlError (Crawler (Layered S) σ)}
    {k : Crawler (Layered S) σ → Except CrawlError (Crawler (Layered S) σ)}
    (first : y = x.map (Crawler.map φ)) (rest : ∀ c, k (c.map φ) = (k c).map (Crawler.map φ)) :
    y.bind k = (x.bind k).map (Crawler.map φ) := by
  rw [first]
  rcases x with e | c
  · rfl
  · exact rest c

theorem map_equip (h : Frontier.Disguise φ) (a : Assembly S σ) (fallback : Pipeline σ)
    (c : Crawler (Layered S) σ) :
    a.equip fallback (c.map φ) = (a.equip fallback c).map (Crawler.map φ) := by
  have pipelines : ∀ (c : Crawler (Layered S) σ) (ps : List (Pipeline σ)),
      (c.map φ).changeAll (ps.map .pipeline) =
        (c.changeAll (ps.map .pipeline)).map (Crawler.map φ) :=
    map_changeAll_map h .pipeline fun _ => rfl
  have seeds : ∀ c : Crawler (Layered S) σ, (c.map φ).changeAll (a.seeds.map .seed) =
      (c.changeAll (a.seeds.map .seed)).map (Crawler.map φ) :=
    fun c => map_changeAll_map h .seed (fun _ => rfl) c a.seeds
  refine bind_map (map_changeAll_map h .processor (fun _ => rfl) c _) fun c₁ => ?_
  cases a.crew.pipelines.isEmpty with
  | true => exact bind_map (pipelines { c₁ with core := c₁.core.say .defaultPipeline } _) seeds
  | false => exact bind_map (pipelines c₁ _) seeds

omit [Frontier S] in
theorem wrapped_of_distinct [BloomScheme] (a : Assembly S σ)
    (distinct : a.config.filter = .distinct) :
    a.wrapped = .ok (a.frontier.wrap .exact, .wrapping a.config.filter.dump) := by
  rw [wrapped, distinct]
  rfl

theorem buildSequential_wrapped [BloomScheme] (a : Assembly S σ)
    (distinct : a.config.filter = .distinct) (fallback : Pipeline σ) :
    (a.withFrontier (a.frontier.wrap .exact)).buildSequential fallback =
      (a.buildSequential fallback).map (Crawler.map Layered.doubled) := by
  have plain := a.wrapped_of_distinct distinct
  have twice := (a.withFrontier (a.frontier.wrap .exact)).wrapped_of_distinct distinct
  unfold buildSequential
  rw [plain, twice, withFrontier]
  rcases a.config.validate with issue | _
  · rfl
  · dsimp only
    rw [apply_ite (Except.map (Crawler.map Layered.doubled))]
    let fresh : Crawler (Layered S) σ := .sequential (a.frontier.wrap .exact)
    let noted := { fresh with core := fresh.core.say (.wrapping a.config.filter.dump) }
    have added := map_changeAll_map Layered.disguise_doubled .downloader (fun _ => rfl) noted
      a.crew.downloaders
    exact congrArg _ (bind_map added (map_equip Layered.disguise_doubled a fallback))

theorem buildPooled_wrapped [BloomScheme] (a : Assembly S σ)
    (distinct : a.config.filter = .distinct) (fallback : Pipeline σ) :
    (a.withFrontier (a.frontier.wrap .exact)).buildPooled fallback =
      (a.buildPooled fallback).map (Crawler.map Layered.doubled) := by
  have plain := a.wrapped_of_distinct distinct
  have twice := (a.withFrontier (a.frontier.wrap .exact)).wrapped_of_distinct distinct
  unfold buildPooled
  rw [plain, twice, withFrontier]
  rcases a.config.validate with issue | _
  · rfl
  · dsimp only
    rcases a.crew.downloaders with _ | ⟨d, _ | ⟨d', ds⟩⟩
    · rfl
    · let sizes : PoolSizes :=
        ⟨a.config.fetchWorkers, a.config.processWorkers, a.config.waitInterval⟩
      have made := Crawler.map_pooled Layered.disguise_doubled (a.frontier.wrap .exact) d sizes
      exact bind_map made fun c => map_equip Layered.disguise_doubled a fallback
        { c with core := c.core.say (.wrapping a.config.filter.dump) }
    · rfl

end Assembly

/-- A second exact filter around a first one is never noticed. Whatever is done with the frontier,
the answers are those of the single filter, and what both stand around is the same. So it makes no
difference to a crawler with the default filter whether the frontier it is built from has such a
filter already: it is built or refused in the same way, it can be changed in the same way, and
whichever moves are made, it crawls in the same way. -/
theorem second_filter_hidden [BloomScheme] {S σ : Type} [Frontier S] :
    (∀ (identity : Request → String) (base : S) (uses : List Frontier.Use),
      let layer := FilterLayer.exact.withIdentity identity
      let single := Frontier.useAll ((Layered.bare base).wrap layer) uses
      let double := Frontier.useAll (((Layered.bare base).wrap layer).wrap layer) uses
      double.1 = single.1 ∧ double.2.base = single.2.base) ∧
    (∀ (a : Assembly S σ) (fallback : Pipeline σ),
      let plain := a.withFilter .default
      let wrapped := plain.withFrontier (a.frontier.wrap .exact)
      wrapped.buildSequential fallback =
          (plain.buildSequential fallback).map (Crawler.map Layered.doubled) ∧
        wrapped.buildPooled fallback =
          (plain.buildPooled fallback).map (Crawler.map Layered.doubled)) ∧
    ∀ c : Crawler (Layered S) σ,
      (∀ ch : Change (Layered S) σ, (c.map Layered.doubled).change (ch.map Layered.doubled) =
        ((c.change ch).1, (c.change ch).2.map Layered.doubled)) ∧
      ∀ world moves fuel, (c.map Layered.doubled).startBy world (.along moves) fuel =
        ((c.startBy world (.along moves) fuel).1,
          (c.startBy world (.along moves) fuel).2.1.map Layered.doubled,
          (c.startBy world (.along moves) fuel).2.2) := by
  have hidden : Frontier.Disguise (Layered.doubled : Layered S → Layered S) :=
    Layered.disguise_doubled
  refine ⟨?_, ?_, ?_⟩
  · intro identity base uses layer single double
    have same : double = (single.1, single.2.doubled) :=
      hidden.useAll ((Layered.bare base).wrap layer) uses
    rw [same]
    exact ⟨rfl, single.2.base_doubled⟩
  · intro a fallback plain wrapped
    exact ⟨plain.buildSequential_wrapped rfl fallback, plain.buildPooled_wrapped rfl fallback⟩
  · intro c
    exact ⟨c.map_change hidden, c.map_startBy hidden⟩

end WebCrawl
