import WebCrawl.Unicode.Runs
import WebCrawl.Unicode.CompositionTable
import WebCrawl.Unicode.CombiningTable

/-!
# Canonical composition

Characters are taken apart into base characters and marks, the marks are put into the order of
their combining classes, and every base character is joined again with the marks it composes with.
The table holds the composites that composition may produce; a character whose decomposition is
never composed again is left as it is, for the mapping of names has replaced it before.
-/

namespace WebCrawl.Unicode

structure Composite where
  composed : Nat
  first : Nat
  second : Nat

def readComposite (previous : Nat) (w : List Char) : Composite :=
  let (distance, rest) := number36 w
  let (first, rest) := number36 (rest.drop 1)
  let (second, _) := number36 (rest.drop 1)
  ⟨previous + distance, first, second⟩

def composites : Array Composite :=
  let step (acc : Nat × Array Composite) (w : List Char) : Nat × Array Composite :=
    let c := readComposite acc.1 w
    (c.composed, acc.2.push c)
  ((wordsOf compositeEntries).foldl step (0, #[])).2

def combiningClasses : Runs Nat :=
  .decode (fun rest => (number36 (rest.drop 1)).1) combiningRuns

def combiningClass (c : Char) : Nat := (combiningClasses.get? c).getD 0

/-! ## Hangul: syllables are composed by arithmetic -/

def syllableBase : Nat := 0xAC00
def leadBase : Nat := 0x1100
def vowelBase : Nat := 0x1161
def tailBase : Nat := 0x11A7
def leadCount : Nat := 19
def vowelCount : Nat := 21
def tailCount : Nat := 28

def hangulParts? (n : Nat) : Option (List Nat) :=
  if syllableBase ≤ n ∧ n < syllableBase + leadCount * vowelCount * tailCount then
    let i := n - syllableBase
    let lead := leadBase + i / (vowelCount * tailCount)
    let vowel := vowelBase + i % (vowelCount * tailCount) / tailCount
    let tail := i % tailCount
    some (if tail = 0 then [lead, vowel] else [lead, vowel, tailBase + tail])
  else none

def hangulPair? (a b : Nat) : Option Nat :=
  if leadBase ≤ a ∧ a < leadBase + leadCount ∧ vowelBase ≤ b ∧ b < vowelBase + vowelCount then
    some (syllableBase + ((a - leadBase) * vowelCount + (b - vowelBase)) * tailCount)
  else if syllableBase ≤ a ∧ a < syllableBase + leadCount * vowelCount * tailCount ∧
      (a - syllableBase) % tailCount = 0 ∧ tailBase < b ∧ b < tailBase + tailCount then
    some (a + (b - tailBase))
  else none

/-! ## Taking apart, ordering, joining -/

/-- Takes a character apart. No composite is nested deeper than `fuel = 8`. -/
def decompose (fuel : Nat) (n : Nat) : List Char :=
  match hangulParts? n with
  | some parts => parts.map Char.ofNat
  | none =>
    match fuel with
    | 0 => [Char.ofNat n]
    | fuel + 1 =>
      match composites.find? fun c => c.composed == n with
      | some c => decompose fuel c.first ++ [Char.ofNat c.second]
      | none => [Char.ofNat n]

/-- Puts a mark behind the marks of its own or a lower class; `done` is reversed. -/
def placeMark (c : Char) (cls : Nat) : List Char → List Char
  | [] => [c]
  | x :: done =>
    if cls < combiningClass x then x :: placeMark c cls done else c :: x :: done

def orderMarks (s : List Char) : List Char :=
  let step (done : List Char) (c : Char) : List Char :=
    let cls := combiningClass c
    if cls = 0 then c :: done else placeMark c cls done
  (s.foldl step []).reverse

def compose? (a b : Char) : Option Char :=
  match hangulPair? a.toNat b.toNat with
  | some n => some (Char.ofNat n)
  | none =>
    (composites.find? fun c => c.first == a.toNat && c.second == b.toNat).map fun c =>
      Char.ofNat c.composed

/-- Joins characters with `base`; `marks` are those behind it, reversed, that did not join. -/
def joinFrom (base : Char) (marks : List Char) : List Char → List Char
  | [] => base :: marks.reverse
  | c :: rest =>
    let cls := combiningClass c
    let free := match marks with
      | [] => true
      | m :: _ => combiningClass m < cls
    match (if free then compose? base c else none) with
    | some joined => joinFrom joined marks rest
    | none =>
      if cls = 0 then base :: marks.reverse ++ joinFrom c [] rest
      else joinFrom base (c :: marks) rest

def composed (s : List Char) : List Char :=
  match orderMarks (s.flatMap fun c => decompose 8 c.toNat) with
  | [] => []
  | c :: rest => joinFrom c [] rest

end WebCrawl.Unicode
