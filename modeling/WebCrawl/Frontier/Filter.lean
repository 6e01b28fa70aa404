import WebCrawl.Error

/-!
# Duplicate filters

A filter remembers identities. The exact one lists them; the Bloom filter keeps one bitmap, sets in
it the positions of every identity it records, and takes an identity for seen when all of its
positions are set. It never forgets, but may take a new identity for a seen one.
-/

namespace WebCrawl

/-- The identities recorded so far, each once. -/
structure ExactFilter where
  seen : List String
  deriving Repr, DecidableEq, Inhabited

namespace ExactFilter

def empty : ExactFilter := ⟨[]⟩

def isNew (f : ExactFilter) (identity : String) : Bool := !f.seen.contains identity

def record (f : ExactFilter) (identity : String) : ExactFilter :=
  if f.isNew identity then ⟨identity :: f.seen⟩ else f

def size (f : ExactFilter) : Nat := f.seen.length

theorem isNew_record (f : ExactFilter) (i j : String) :
    (f.record i).isNew j = (f.isNew j && i != j) := by
  by_cases hij : i = j
  · subst hij
    by_cases h : i ∈ f.seen <;> simp [record, isNew, h]
  · have hji : ¬ j = i := fun e => hij e.symm
    by_cases h : i ∈ f.seen <;> simp [record, isNew, h, hij, hji]

end ExactFilter

/-- A bitmap, and where in it every identity has its bits. -/
structure BloomLayout where
  bits : Nat
  positions : String → List Nat
  positions_lt : ∀ identity, ∀ p ∈ positions identity, p < bits

/-- The sizing and hashing of Bloom filters: a layout for the number of identities that are expected
and the rate at which a new one may be taken for seen, or why there is none. It is taken for granted
that there is one for every number but zero and every rate between zero and one. -/
class BloomScheme where
  layout : Nat → Float → Except String BloomLayout
  exists_layout : ∀ (expected : Nat) (rate : Float), expected ≠ 0 →
    (rate > 0.0 && rate < 1.0) = true → ∃ l, layout expected rate = .ok l

structure BloomFilter where
  expected : Nat
  rate : Float
  /-- Where an identity sets its bits. -/
  positions : String → List Nat
  bitmap : Nat
  /-- How often an identity was recorded, repetitions included. -/
  recorded : Nat
  deriving Inhabited

namespace BloomFilter

def defaultExpected : Nat := 500

def defaultRate : Float := 0.01

def setAll (bitmap : Nat) (positions : List Nat) : Nat :=
  positions.foldl (fun b p => b ||| (1 <<< p)) bitmap

def blank (expected : Nat) (rate : Float) (positions : String → List Nat) : BloomFilter :=
  ⟨expected, rate, positions, 0, 0⟩

def new [BloomScheme] (expected : Nat) (rate : Float) : Except ConfigIssue BloomFilter :=
  if expected = 0 then .error .filterZeroInsertions
  else if !(rate > 0.0 && rate < 1.0) then .error (.filterRateOutside rate)
  else
    match BloomScheme.layout expected rate with
    | .ok layout => .ok (.blank expected rate layout.positions)
    | .error cause => .error (.filterUnsized cause)

def isNew (f : BloomFilter) (identity : String) : Bool :=
  !(f.positions identity).all f.bitmap.testBit

def record (f : BloomFilter) (identity : String) : BloomFilter :=
  { f with
    bitmap := setAll f.bitmap (f.positions identity)
    recorded := f.recorded + 1 }

def dump (f : BloomFilter) : String :=
  let rate := Decimal.dump.render f.rate
  s!"BloomFilter \x7b expected_insertions: {f.expected}, false_positive_rate: {rate}, " ++
    s!"recorded: {f.recorded} \x7d"

theorem testBit_setAll (bitmap : Nat) (ps : List Nat) (i : Nat) :
    (setAll bitmap ps).testBit i = (bitmap.testBit i || ps.contains i) := by
  induction ps generalizing bitmap with
  | nil => simp [setAll]
  | cons p ps ih =>
    have h : setAll bitmap (p :: ps) = setAll (bitmap ||| (1 <<< p)) ps := rfl
    rw [h, ih]
    by_cases hp : i = p
    · subst hp
      simp [Nat.testBit_shiftLeft]
    · have hb : (1 <<< p : Nat).testBit i = false := by
        rw [Nat.testBit_shiftLeft]
        by_cases hle : p ≤ i
        · obtain ⟨k, hk⟩ : ∃ k, i - p = k + 1 := ⟨i - p - 1, by omega⟩
          simp [hle, hk, Nat.testBit_succ]
        · simp [hle]
      simp [hb, hp]

theorem isNew_eq_false_iff (f : BloomFilter) (i : String) :
    f.isNew i = false ↔ ∀ p ∈ f.positions i, f.bitmap.testBit p = true := by
  rw [isNew, Bool.not_eq_false', List.all_eq_true]

theorem isNew_record_self (f : BloomFilter) (i : String) : (f.record i).isNew i = false := by
  rw [isNew_eq_false_iff]
  intro p member
  have set : (f.positions i).contains p = true := List.contains_iff_mem.mpr member
  rw [record, testBit_setAll, set, Bool.or_true]

theorem isNew_record_of_seen {f : BloomFilter} {i : String} (seen : f.isNew i = false)
    (j : String) : (f.record j).isNew i = false := by
  rw [isNew_eq_false_iff] at seen ⊢
  intro p member
  rw [record, testBit_setAll, seen p member, Bool.true_or]

end BloomFilter

inductive Filter where
  | exact (f : ExactFilter)
  | bloom (f : BloomFilter)

namespace Filter

def isNew : Filter → String → Bool
  | .exact f, identity => f.isNew identity
  | .bloom f, identity => f.isNew identity

def record : Filter → String → Filter
  | .exact f, identity => .exact (f.record identity)
  | .bloom f, identity => .bloom (f.record identity)

def recordAll (f : Filter) (identities : List String) : Filter := identities.foldl record f

theorem isNew_record_self (f : Filter) (i : String) : (f.record i).isNew i = false := by
  cases f with
  | exact f => simp [record, isNew, ExactFilter.isNew_record]
  | bloom f => exact f.isNew_record_self i

theorem isNew_record_of_seen {f : Filter} {i : String} (seen : f.isNew i = false) (j : String) :
    (f.record j).isNew i = false := by
  cases f with
  | exact f =>
    rw [isNew] at seen
    rw [record, isNew, ExactFilter.isNew_record, seen, Bool.false_and]
  | bloom f => exact BloomFilter.isNew_record_of_seen seen j

end Filter

end WebCrawl
