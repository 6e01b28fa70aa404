import WebCrawl.Proofs.Assembly.Building

/-!
# The interval that a built crawler waits

An assembly takes any duration for its interval and keeps the whole milliseconds of it in 64 bits.
An interval whose milliseconds fit is kept but for what is beyond the last of them. Of a longer one
only a remainder is kept, and if nothing remains, no crawler is built.
-/

namespace WebCrawl

namespace Duration

/-- The length in nanoseconds. -/
def span (d : Duration) : Nat := d.secs.toNat * 1000000000 + d.nanos.toNat

def second : Duration := ⟨1, 0, zero.nanos_lt⟩

def wholeMillis (d : Duration) : Nat := d.span / nanosPerMilli

/-- The second duration is the first one but for what is beyond its last whole millisecond. -/
structure RoundsDownTo (d e : Duration) : Prop where
  whole : nanosPerMilli ∣ e.span
  le : e.span ≤ d.span
  lt : d.span < e.span + nanosPerMilli

theorem toNat_toMillis (d : Duration) : d.toMillis.toNat = d.wholeMillis % UInt64.size := by
  have seconds : d.secs.toNat * 1000000000 = nanosPerMilli * (d.secs.toNat * 1000) := by
    simp only [nanosPerMilli]
    omega
  have millis : d.wholeMillis = d.secs.toNat * 1000 + d.nanos.toNat / nanosPerMilli := by
    rw [wholeMillis, span, seconds, Nat.mul_add_div (by decide)]
  rw [toMillis, ← millis]
  exact UInt64.toNat_ofNat

theorem span_ofMillis (n : UInt64) : (ofMillis n).span = n.toNat * nanosPerMilli := by
  have seconds : (n / 1000).toNat = n.toNat / 1000 := UInt64.toNat_div n 1000
  have fits : n.toNat % 1000 * nanosPerMilli < UInt32.size := by
    simp only [nanosPerMilli, UInt32.size]
    omega
  have nanos : (UInt32.ofNat (n.toNat % 1000 * nanosPerMilli)).toNat =
      n.toNat % 1000 * nanosPerMilli := UInt32.toNat_ofNat_of_lt' fits
  simp only [span, ofMillis]
  rw [seconds, nanos]
  simp only [nanosPerMilli]
  omega

theorem roundsDownTo_ofMillis_iff (d : Duration) (n : UInt64) :
    d.RoundsDownTo (ofMillis n) ↔ n.toNat = d.wholeMillis := by
  have length := span_ofMillis n
  constructor
  · rintro ⟨-, le, lt⟩
    rw [length] at le lt
    rw [wholeMillis]
    simp only [nanosPerMilli] at le lt ⊢
    omega
  · intro same
    refine ⟨⟨n.toNat, length.trans (Nat.mul_comm _ _)⟩, ?_, ?_⟩ <;>
      rw [length, same, wholeMillis] <;> simp only [nanosPerMilli] <;> omega

theorem one_le_wholeMillis_iff (d : Duration) : 1 ≤ d.wholeMillis ↔ nanosPerMilli ≤ d.span := by
  rw [wholeMillis, Nat.le_div_iff_mul_le (by decide), Nat.one_mul]

end Duration

namespace Assembly

section

variable [BloomScheme] {S σ : Type} [Frontier S]

/-- An interval is kept: a crawler is built if and only if the interval is at least a millisecond
long, and the crawler waits for it, rounded down to whole milliseconds. -/
structure KeepsInterval (a : Assembly S σ) (fallback : Pipeline σ) (d : Duration) : Prop where
  builds : (∃ c, (a.withWait d).buildPooled fallback = .ok c) ↔ Duration.nanosPerMilli ≤ d.span
  waits : ∀ c, (a.withWait d).buildPooled fallback = .ok c →
    ∃ sizes, c.poolSizes? = some sizes ∧ d.RoundsDownTo sizes.wait

variable {a : Assembly S σ} {d : Downloader σ} (fallback : Pipeline σ)

theorem builds_withWait_iff (single : a.crew.downloaders = [d])
    (otherwise : (a.withWait .second).config.validate = .ok ()) (interval : Duration) :
    (∃ c, (a.withWait interval).buildPooled fallback = .ok c) ↔
      interval.wholeMillis % UInt64.size ≠ 0 := by
  obtain ⟨fetchers, processors, -, filter⟩ := (Config.validate_eq_ok_iff _).mp otherwise
  have zero : interval.toMillis = 0 ↔ interval.wholeMillis % UInt64.size = 0 := by
    rw [← Duration.toNat_toMillis]
    exact (UInt64.toNat_inj (b := 0)).symm
  rw [buildPooled_iff_valid fallback (a := a.withWait interval) single, Config.validate_eq_ok_iff]
  constructor
  · rintro ⟨-, -, wait, -⟩
    exact fun none => wait (zero.mpr none)
  · exact fun left => ⟨fetchers, processors, fun wait => left (zero.mp wait), filter⟩

theorem waits_of_built (single : a.crew.downloaders = [d]) {interval : Duration}
    {c : Crawler (Layered S) σ} (built : (a.withWait interval).buildPooled fallback = .ok c) :
    ∃ sizes, c.poolSizes? = some sizes ∧ sizes.wait = .ofMillis interval.toMillis := by
  have valid : (a.withWait interval).config.validate = .ok () :=
    (buildPooled_iff_valid fallback (a := a.withWait interval) single).mp ⟨c, built⟩
  obtain ⟨c', built', sizes⟩ := exists_buildPooled fallback valid single
  obtain rfl : c = c' := Except.ok.inj (built.symm.trans built')
  exact ⟨_, sizes, rfl⟩

theorem keepsInterval_iff (single : a.crew.downloaders = [d])
    (otherwise : (a.withWait .second).config.validate = .ok ()) (interval : Duration) :
    a.KeepsInterval fallback interval ↔ interval.wholeMillis < UInt64.size := by
  have builds := builds_withWait_iff fallback single otherwise interval
  constructor
  · intro kept
    by_contra long
    have positive : 1 ≤ interval.wholeMillis := Nat.le_trans (by decide) (Nat.not_lt.mp long)
    have least := kept.builds.mpr ((Duration.one_le_wholeMillis_iff interval).mp positive)
    obtain ⟨c, built⟩ := least
    obtain ⟨sizes, pools, wait⟩ := waits_of_built fallback single built
    obtain ⟨sizes', pools', rounded⟩ := kept.waits c built
    obtain rfl : sizes = sizes' := Option.some.inj (pools.symm.trans pools')
    rw [wait, Duration.roundsDownTo_ofMillis_iff, Duration.toNat_toMillis] at rounded
    exact long (rounded ▸ Nat.mod_lt _ (by decide))
  · intro fits
    have all : interval.wholeMillis % UInt64.size = interval.wholeMillis := Nat.mod_eq_of_lt fits
    constructor
    · rw [builds, all, ← Nat.one_le_iff_ne_zero, Duration.one_le_wholeMillis_iff]
    · intro c built
      obtain ⟨sizes, pools, wait⟩ := waits_of_built fallback single built
      refine ⟨sizes, pools, ?_⟩
      rw [wait, Duration.roundsDownTo_ofMillis_iff, Duration.toNat_toMillis, all]

/-- Of the interval given to an assembly that is valid otherwise, 64 bits of the whole milliseconds
count: a crawler is built if they are not all zero, and it waits for as many milliseconds as they
say. So the interval is kept, rounded down to whole milliseconds, if and only if its milliseconds
fit in 64 bits. -/
theorem keeps_fitting_interval (single : a.crew.downloaders = [d])
    (otherwise : (a.withWait .second).config.validate = .ok ()) (interval : Duration) :
    ((∃ c, (a.withWait interval).buildPooled fallback = .ok c) ↔
        interval.wholeMillis % UInt64.size ≠ 0) ∧
      (∀ c, (a.withWait interval).buildPooled fallback = .ok c →
        ∃ sizes, c.poolSizes? = some sizes ∧
          sizes.wait.span = interval.wholeMillis % UInt64.size * Duration.nanosPerMilli) ∧
      (a.KeepsInterval fallback interval ↔ interval.wholeMillis < UInt64.size) := by
  refine ⟨builds_withWait_iff fallback single otherwise interval, ?_,
    keepsInterval_iff fallback single otherwise interval⟩
  intro c built
  obtain ⟨sizes, pools, wait⟩ := waits_of_built fallback single built
  refine ⟨sizes, pools, ?_⟩
  rw [wait, Duration.span_ofMillis, Duration.toNat_toMillis]

end

/-- The longest interval that is kept, and the part of a millisecond that is cut off. -/
def longestKept : Duration := ⟨18446744073709551, 615999999, by decide⟩

theorem keeps_fitting_interval_of_longest :
    trio.crew.downloaders = [Conduct.circle.playedDownloader] ∧
      (trio.withWait .second).config.validate = .ok () ∧
      trio.KeepsInterval Conduct.circle.playedPipeline longestKept :=
  ⟨rfl, rfl, (keeps_fitting_interval Conduct.circle.playedPipeline (a := trio) rfl rfl
    longestKept).2.2.mpr (by decide)⟩

/-- So many seconds that nothing remains of their milliseconds. -/
def vanishing : Duration := ⟨2305843009213693952, 0, Duration.zero.nanos_lt⟩

/-- An interval of many years is refused for being zero. -/
theorem refuses_vanishing_interval :
    trio.crew.downloaders = [Conduct.circle.playedDownloader] ∧
      (trio.withWait .second).config.validate = .ok () ∧
      Duration.nanosPerMilli ≤ vanishing.span ∧
      (trio.withWait vanishing).buildPooled Conduct.circle.playedPipeline =
        .error (.configuration .zeroWaitMillis) ∧
      ¬ trio.KeepsInterval Conduct.circle.playedPipeline vanishing := by
  have refused : (trio.withWait vanishing).buildPooled Conduct.circle.playedPipeline =
      .error (.configuration .zeroWaitMillis) := buildPooled_of_invalid _ rfl
  refine ⟨rfl, rfl, by decide, refused, fun kept => ?_⟩
  obtain ⟨c, built⟩ := kept.builds.mpr (by decide)
  rw [refused] at built
  cases built

end Assembly

end WebCrawl
