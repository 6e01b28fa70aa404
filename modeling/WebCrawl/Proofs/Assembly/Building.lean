import WebCrawl.Assembly
import WebCrawl.Proofs.Crawler.Ends
import WebCrawl.Proofs.Site.Player
import WebCrawl.Simulation.Hashing

/-!
# What is built from a configuration

A crawler is built from every valid configuration and from no other one. What the parts of a crawler
demand of their sizes when they are made is what the configuration has been checked for before, so
the later checks find nothing. An invalid configuration is refused with its own issue.
-/

namespace WebCrawl

namespace Duration

theorem isZero_ofMillis (n : UInt64) : (ofMillis n).isZero = decide (n = 0) := by
  by_cases zero : n = 0
  · subst zero
    rfl
  · have positive : n.toNat ≠ 0 := fun h => zero (UInt64.toNat_inj.mp h)
    rw [decide_eq_false zero, isZero, Bool.and_eq_false_iff, beq_eq_false_iff_ne,
      beq_eq_false_iff_ne]
    by_cases seconds : n / 1000 = 0
    · -- Less than a second, and then all of it is in the nanoseconds.
      right
      have small : n.toNat / 1000 = 0 := congrArg UInt64.toNat seconds
      have fits : n.toNat % 1000 * nanosPerMilli < UInt32.size := by
        simp only [nanosPerMilli, UInt32.size]
        omega
      intro none
      have nanos : n.toNat % 1000 * nanosPerMilli = 0 := by
        rw [← UInt32.toNat_ofNat_of_lt' fits]
        exact congrArg UInt32.toNat none
      simp only [nanosPerMilli] at nanos
      omega
    · exact .inl seconds

end Duration

namespace FilterKind

variable [BloomScheme]

theorem validate_bloom_iff (expected : UInt64) (rate : Float) :
    (bloom expected rate).validate = .ok () ↔
      ∃ f, BloomFilter.new expected.toNat rate = .ok f := by
  have zero : expected.toNat = 0 ↔ expected = 0 := UInt64.toNat_inj (b := 0)
  simp only [validate, BloomFilter.new, zero]
  split
  · exact ⟨nofun, nofun⟩
  · rename_i some_expected
    split
    · exact ⟨nofun, nofun⟩
    · rename_i inside
      obtain ⟨l, sized⟩ := BloomScheme.exists_layout expected.toNat rate (mt zero.mp some_expected)
        (by simpa using inside)
      rw [sized]
      exact ⟨fun _ => ⟨_, rfl⟩, fun _ => rfl⟩

theorem exists_wrap {S : Type} {k : FilterKind} (valid : k.validate = .ok ())
    (frontier : Layered S) : ∃ wrapped, k.wrap frontier = .ok wrapped := by
  cases k with
  | none => exact ⟨_, rfl⟩
  | distinct => exact ⟨_, rfl⟩
  | bloom expected rate =>
    obtain ⟨f, made⟩ := (validate_bloom_iff expected rate).mp valid
    refine ⟨frontier.wrap (.bloom f), ?_⟩
    rw [wrap, layer?, made]
    rfl

end FilterKind

namespace Config

/-- The pools a configuration asks for. -/
def poolSizes (c : Config) : PoolSizes := ⟨c.fetchWorkers, c.processWorkers, c.waitInterval⟩

theorem validate_eq_ok_iff (c : Config) : c.validate = .ok () ↔
    c.fetchWorkers ≠ 0 ∧ c.processWorkers ≠ 0 ∧ c.waitMillis ≠ 0 ∧ c.filter.validate = .ok () := by
  unfold validate
  split_ifs with fetchers processors wait
  · exact ⟨nofun, fun h => absurd fetchers h.1⟩
  · exact ⟨nofun, fun h => absurd processors h.2.1⟩
  · exact ⟨nofun, fun h => absurd wait h.2.2.1⟩
  · exact ⟨fun h => ⟨fetchers, processors, wait, h⟩, fun h => h.2.2.2⟩

theorem checkSizes_poolSizes {c : Config} (valid : c.validate = .ok ()) :
    Crawler.checkSizes c.poolSizes = .ok () := by
  obtain ⟨fetchers, processors, wait, -⟩ := c.validate_eq_ok_iff.mp valid
  have interval : c.waitInterval.isZero = false := by
    rw [waitInterval, Duration.isZero_ofMillis, decide_eq_false wait]
  rw [Crawler.checkSizes, poolSizes, if_neg fetchers, if_neg processors, interval]
  rfl

end Config

theorem Crawler.exists_pooled {S σ : Type} [Frontier S] (frontier : S) (d : Downloader σ)
    {sizes : PoolSizes} (checked : checkSizes sizes = .ok ()) :
    ∃ c, pooled frontier d sizes = .ok c := by
  rw [pooled, checked]
  exact ⟨_, changed_of_initializing rfl (.downloader d) rfl⟩

namespace Assembly

section

variable [BloomScheme] {S σ : Type} {a : Assembly S σ}

theorem exists_wrapped (valid : a.config.validate = .ok ()) :
    ∃ frontier, a.wrapped = .ok (frontier, .wrapping a.config.filter.dump) := by
  obtain ⟨-, -, -, filter⟩ := a.config.validate_eq_ok_iff.mp valid
  obtain ⟨frontier, made⟩ := FilterKind.exists_wrap filter a.frontier
  exact ⟨frontier, by rw [wrapped, made]⟩

variable [Frontier S] (fallback : Pipeline σ)

omit [BloomScheme] in
theorem exists_equip {c : Crawler (Layered S) σ} (initializing : c.phase = .initializing) :
    ∃ c', a.equip fallback c = .ok c' ∧ c'.core.engine = c.core.engine := by
  let processed : Crawler (Layered S) σ :=
    { c with crew := { c.crew with processors := c.crew.processors ++ a.crew.processors } }
  let noted := if a.crew.pipelines.isEmpty then
    { processed with core := processed.core.say .defaultPipeline } else processed
  let pipelines := if a.crew.pipelines.isEmpty then [fallback] else a.crew.pipelines
  have phase : noted.phase = .initializing := by
    unfold noted
    split <;> exact initializing
  have engine : noted.core.engine = c.core.engine := by
    unfold noted
    split <;> rfl
  let piped : Crawler (Layered S) σ :=
    { noted with crew := { noted.crew with pipelines := noted.crew.pipelines ++ pipelines } }
  have equipped : a.equip fallback c =
      ((c.changeAll (a.crew.processors.map .processor)).bind fun c =>
        ((if a.crew.pipelines.isEmpty then { c with core := c.core.say .defaultPipeline }
          else c).changeAll (pipelines.map .pipeline)).bind
            (·.changeAll (a.seeds.map .seed))) := rfl
  refine ⟨{ piped with core := (piped.core.pushAll a.seeds).2 }, ?_, ?_⟩
  · rw [equipped, Crawler.changeAll_processors initializing, Except.bind,
      Crawler.changeAll_pipelines phase]
    exact Crawler.changeAll_seeds (c := piped) phase a.seeds
  · exact (Crawler.engine_pushAll _ _).trans engine

theorem exists_buildPooled {d : Downloader σ} (valid : a.config.validate = .ok ())
    (single : a.crew.downloaders = [d]) :
    ∃ c, a.buildPooled fallback = .ok c ∧ c.poolSizes? = some a.config.poolSizes := by
  obtain ⟨frontier, wrapped⟩ := exists_wrapped valid
  obtain ⟨made, pooled⟩ := Crawler.exists_pooled frontier d (Config.checkSizes_poolSizes valid)
  obtain rfl := Crawler.eq_of_pooled pooled
  let core := (Core.new (.pooled a.config.poolSizes) frontier).say
    (.wrapping a.config.filter.dump)
  obtain ⟨c, equipped, engine⟩ := exists_equip (a := a) (c := ⟨core, ⟨[d], [], []⟩⟩) fallback rfl
  refine ⟨c, ?_, ?_⟩
  · rw [buildPooled, valid, single]
    dsimp only
    rw [wrapped, Except.bind]
    exact (congrArg (Except.bind · _) pooled).trans equipped
  · rw [Crawler.poolSizes?, engine]
    rfl

theorem exists_buildSequential (valid : a.config.validate = .ok ())
    (some_downloader : a.crew.downloaders ≠ []) : ∃ c, a.buildSequential fallback = .ok c := by
  obtain ⟨frontier, wrapped⟩ := exists_wrapped valid
  let plain : Crawler (Layered S) σ := .sequential frontier
  let noted := { plain with core := plain.core.say (.wrapping a.config.filter.dump) }
  let staffed := { noted with crew := { noted.crew with
    downloaders := noted.crew.downloaders ++ a.crew.downloaders } }
  obtain ⟨c, equipped, -⟩ := exists_equip (a := a) (c := staffed) fallback rfl
  refine ⟨c, ?_⟩
  have staffing := Crawler.changeAll_downloaders (c := noted) rfl rfl a.crew.downloaders
  rw [buildSequential, valid]
  dsimp only
  rw [if_neg (by simpa using some_downloader), wrapped, Except.bind]
  dsimp only
  rw [staffing, Except.bind]
  exact equipped

theorem buildPooled_of_invalid {issue : ConfigIssue} (invalid : a.config.validate = .error issue) :
    a.buildPooled fallback = .error (.configuration issue) := by
  rw [buildPooled, invalid]

theorem buildSequential_of_invalid {issue : ConfigIssue}
    (invalid : a.config.validate = .error issue) :
    a.buildSequential fallback = .error (.configuration issue) := by
  rw [buildSequential, invalid]

theorem buildPooled_iff_valid {d : Downloader σ} (single : a.crew.downloaders = [d]) :
    (∃ c, a.buildPooled fallback = .ok c) ↔ a.config.validate = .ok () := by
  constructor
  · rintro ⟨c, built⟩
    rcases checked : a.config.validate with issue | _
    · rw [buildPooled_of_invalid fallback checked] at built
      cases built
    · rfl
  · intro valid
    obtain ⟨c, built, -⟩ := exists_buildPooled fallback valid single
    exact ⟨c, built⟩

theorem buildSequential_iff_valid {d : Downloader σ} (single : a.crew.downloaders = [d]) :
    (∃ c, a.buildSequential fallback = .ok c) ↔ a.config.validate = .ok () := by
  constructor
  · rintro ⟨c, built⟩
    rcases checked : a.config.validate with issue | _
    · rw [buildSequential_of_invalid fallback checked] at built
      cases built
    · rfl
  · intro valid
    exact exists_buildSequential fallback valid (single ▸ List.cons_ne_nil d [])

/-- Validation and construction agree. From a configuration and components with one downloader a
crawler with pools is built, and a sequential one, if and only if the configuration is valid; an
invalid one is refused with its issue by both. So once the configuration has been found valid, no
later check of the pools or of the filter fails, and the sizes of a Bloom filter are refused in a
configuration, all else in it being valid, if and only if the filter itself refuses them. -/
theorem builds_iff_valid (parts : Assembly S σ) (c : Config) {d : Downloader σ}
    (single : parts.crew.downloaders = [d]) :
    ((∃ crawler, (parts.withConfig c).buildPooled fallback = .ok crawler) ↔
        c.validate = .ok ()) ∧
      ((∃ crawler, (parts.withConfig c).buildSequential fallback = .ok crawler) ↔
        c.validate = .ok ()) ∧
      (∀ issue, c.validate = .error issue →
        (parts.withConfig c).buildPooled fallback = .error (.configuration issue) ∧
          (parts.withConfig c).buildSequential fallback = .error (.configuration issue)) ∧
      (c.validate = .ok () →
        (∀ frontier : Layered S, ∃ crawler, Crawler.pooled frontier d c.poolSizes = .ok crawler) ∧
          ∀ expected rate, c.filter = .bloom expected rate →
            ∃ f, BloomFilter.new expected.toNat rate = .ok f) ∧
      ∀ expected rate, ({ c with filter := .none } : Config).validate = .ok () →
        ((∃ f, BloomFilter.new expected.toNat rate = .ok f) ↔
          ({ c with filter := .bloom expected rate } : Config).validate = .ok ()) := by
  refine ⟨buildPooled_iff_valid fallback (a := parts.withConfig c) single,
    buildSequential_iff_valid fallback (a := parts.withConfig c) single, ?_, ?_, ?_⟩
  · intro issue invalid
    exact ⟨buildPooled_of_invalid fallback invalid, buildSequential_of_invalid fallback invalid⟩
  · intro valid
    have sizes := Config.checkSizes_poolSizes valid
    refine ⟨fun frontier => Crawler.exists_pooled frontier d sizes, ?_⟩
    intro expected rate kind
    obtain ⟨-, -, -, filter⟩ := c.validate_eq_ok_iff.mp valid
    rw [kind] at filter
    exact (FilterKind.validate_bloom_iff expected rate).mp filter
  · intro expected rate otherwise
    obtain ⟨fetchers, processors, wait, -⟩ := (Config.validate_eq_ok_iff _).mp otherwise
    rw [← FilterKind.validate_bloom_iff, Config.validate_eq_ok_iff]
    exact ⟨fun filter => ⟨fetchers, processors, wait, filter⟩, fun h => h.2.2.2⟩

end

/-- A crew of three with one seed, and nothing said about the configuration. -/
def trio : Assembly Queue (String → Nat) :=
  ⟨.default, .bare (.empty .fifo), Conduct.circle.players Conduct.circleLinks, [.named "a"]⟩

/-- As large and as small as can be. -/
def tightest : Config := ⟨18446744073709551615, 1, 1, .bloom 1 0.9999999999999999⟩

theorem builds_iff_valid_of_trio : trio.crew.downloaders = [Conduct.circle.playedDownloader] ∧
    tightest.validate = .ok () ∧
    (∃ crawler, (trio.withConfig tightest).buildPooled Conduct.circle.playedPipeline =
      .ok crawler) ∧
    (trio.withConfig { tightest with filter := .bloom 1 (0.0 / 0.0) }).buildSequential
      Conduct.circle.playedPipeline = .error (.configuration (.rateOutside (0.0 / 0.0))) := by
  have tight := builds_iff_valid Conduct.circle.playedPipeline trio tightest rfl
  have odd := builds_iff_valid Conduct.circle.playedPipeline trio
    { tightest with filter := .bloom 1 (0.0 / 0.0) } rfl
  exact ⟨rfl, rfl, tight.1.mpr rfl, (odd.2.2.1 _ rfl).2⟩

end Assembly

end WebCrawl
