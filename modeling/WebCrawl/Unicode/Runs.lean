/-!
# Tables of runs

A property of characters is constant on long runs of code points, so it is stored as the starts of
its runs. The text form of a table gives each start as its distance from the one before, in base
36 with lower case letters, followed by what the run has in common.
-/

namespace WebCrawl.Unicode

universe u

def digit36? (c : Char) : Option Nat :=
  if '0' ≤ c ∧ c ≤ '9' then some (c.toNat - '0'.toNat)
  else if 'a' ≤ c ∧ c ≤ 'z' then some (c.toNat - 'a'.toNat + 10)
  else none

/-- A leading number in base 36 and what follows it. -/
def number36 (s : List Char) : Nat × List Char :=
  let rec go (n : Nat) : List Char → Nat × List Char
    | [] => (n, [])
    | c :: rest =>
      match digit36? c with
      | some d => go (n * 36 + d) rest
      | none => (n, c :: rest)
  go 0 s

def wordsOf (lines : List String) : List (List Char) :=
  let step (acc : List Char × List (List Char)) (c : Char) : List Char × List (List Char) :=
    if c = ' ' then ([], acc.1.reverse :: acc.2) else (c :: acc.1, acc.2)
  let line (acc : List (List Char)) (l : String) : List (List Char) :=
    let (last, done) := l.toList.foldl step ([], acc)
    last.reverse :: done
  (lines.foldl line []).reverse

structure Runs (α : Type u) where
  starts : Array Nat
  values : Array α

/-- Reads the text form of a table; `value` reads what stands behind the distance. -/
def Runs.decode {α : Type u} (value : List Char → α) (lines : List String) : Runs α :=
  let step (acc : Nat × Array Nat × Array α) (w : List Char) : Nat × Array Nat × Array α :=
    let (distance, rest) := number36 w
    let start := acc.1 + distance
    (start, acc.2.1.push start, acc.2.2.push (value rest))
  let (_, starts, values) := (wordsOf lines).foldl step (0, #[], #[])
  ⟨starts, values⟩

/-- The number of starts that are at most `x`, looked for between `low` and `low + width`. -/
def countUpTo (starts : Array Nat) (x : Nat) (low width : Nat) : Nat :=
  if width = 0 then low
  else
    let half := width / 2
    match starts[low + half]? with
    | some s =>
      if s ≤ x then countUpTo starts x (low + half + 1) (width - half - 1)
      else countUpTo starts x low half
    | none => countUpTo starts x low half
termination_by width
decreasing_by all_goals omega

def Runs.get? {α : Type u} (r : Runs α) (c : Char) : Option α :=
  match countUpTo r.starts c.toNat 0 r.starts.size with
  | 0 => none
  | n + 1 => r.values[n]?

end WebCrawl.Unicode
