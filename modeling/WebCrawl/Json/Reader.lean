import WebCrawl.Json.Number

/-!
# Reading JSON values

`read` builds the value of a text, `skip` only checks that a value stands there. Building stops at a
nesting of 127 arrays and objects; skipping keeps its own stack and has no such bound.
-/

namespace WebCrawl.Json

/-- The number of arrays and objects that may enclose one another in a value that is built. -/
def depthBound : Nat := 127

/-- The items of a list from behind its opening bracket up to its closing one. Every item takes at
least one character, so `fuel` characters of text are enough. -/
def items {α : Type} (item : List Char → Reading α) (fuel : Nat) (first : Bool)
    (s : List Char) : Except Failure (List α × List Char) :=
  match fuel with
  | 0 => .ok ([], s)
  | fuel + 1 => do
    match ← nextItem first s with
    | none => .ok ([], s)
    | some s =>
      let (x, s) ← item s
      let (xs, s) ← items item fuel false s
      .ok (x :: xs, s)

/-- The members of an object in the order of the text. -/
def members {α : Type} (value : List Char → Reading α) (fuel : Nat) (first : Bool)
    (s : List Char) : Except Failure (List (String × α) × List Char) :=
  match fuel with
  | 0 => .ok ([], s)
  | fuel + 1 => do
    match ← nextMember first s with
    | none => .ok ([], s)
    | some s =>
      let (name, s) ← stringTail [] s
      let (x, s) ← value (← colon s)
      let (xs, s) ← members value fuel false s
      .ok ((name, x) :: xs, s)

/-- A value; `depth` more levels may be opened. -/
def value (depth : Nat) (s : List Char) : Except Failure (Json × List Char) :=
  match skipBlanks s with
  | [] => .error (.within .endInValue [])
  | 'n' :: rest => do .ok (.null, ← word ['u', 'l', 'l'] rest)
  | 't' :: rest => do .ok (.bool true, ← word ['r', 'u', 'e'] rest)
  | 'f' :: rest => do .ok (.bool false, ← word ['a', 'l', 's', 'e'] rest)
  | '-' :: rest => numberTail true rest
  | '"' :: rest => do
    let (text, rest) ← stringTail [] rest
    .ok (.string text, rest)
  | '[' :: rest =>
    match depth with
    | 0 => .error (.within .tooDeep ('[' :: rest))
    | depth + 1 => do
      let (xs, rest) ← items (value depth) (rest.length + 1) true rest
      .ok (.array xs, ← closeList rest)
  | '\x7b' :: rest =>
    match depth with
    | 0 => .error (.within .tooDeep ('\x7b' :: rest))
    | depth + 1 => do
      let (xs, rest) ← members (value depth) (rest.length + 1) true rest
      .ok (.ofMembers xs, ← closeObject rest)
  | c :: rest =>
    if c.isDigit then numberTail false (c :: rest)
    else .error (.within .valueExpected (c :: rest))

inductive Bracket where
  | list
  | object
  deriving Repr, DecidableEq

def Bracket.endExpected : Bracket → Issue
  | .list => .listEndExpected
  | .object => .objectEndExpected

def Bracket.endInside : Bracket → Issue
  | .list => .endInList
  | .object => .endInObject

def Bracket.closing : Bracket → Char
  | .list => ']'
  | .object => '\x7d'

/-- A scalar or an opening bracket: the bracket, if one was opened, and the text behind it. -/
def skipOpening (s : List Char) : Except Failure (Option Bracket × List Char) :=
  match skipBlanks s with
  | [] => .error (.within .endInValue [])
  | 'n' :: rest => do .ok (none, ← word ['u', 'l', 'l'] rest)
  | 't' :: rest => do .ok (none, ← word ['r', 'u', 'e'] rest)
  | 'f' :: rest => do .ok (none, ← word ['a', 'l', 's', 'e'] rest)
  | '-' :: rest => do .ok (none, ← skipNumberTail rest)
  | '"' :: rest => do .ok (none, ← skipStringTail rest)
  | '[' :: rest => .ok (some .list, rest)
  | '\x7b' :: rest => .ok (some .object, rest)
  | c :: rest =>
    if c.isDigit then do .ok (none, ← skipNumberTail (c :: rest))
    else .error (.within .valueExpected (c :: rest))

/-- The name and the colon of a member; nothing inside a list. -/
def skipName (b : Bracket) (s : List Char) : Except Failure (List Char) :=
  match b with
  | .list => .ok s
  | .object =>
    match skipBlanks s with
    | [] => .error (.within .endInObject [])
    | '"' :: rest => do colon (← skipStringTail rest)
    | rest => .error (.within .keyNotString rest)

/-- Where a skipping stands: before a value, or behind an opening bracket (`fresh`) or a value,
inside the brackets of the stack. -/
inductive SkipPoint where
  | value
  | inside (fresh : Bool)

/-- One scalar, bracket, comma or name after the other. Each takes a character, so twice the
length of the text is fuel enough. -/
def skipFrom (fuel : Nat) (point : SkipPoint) (stack : List Bracket) (s : List Char) :
    Except Failure (List Char) :=
  match fuel with
  | 0 => .ok s
  | fuel + 1 =>
    match point, stack with
    | .value, stack => do
      match ← skipOpening s with
      | (some b, s) => skipFrom fuel (.inside true) (b :: stack) s
      | (none, s) => skipFrom fuel (.inside false) stack s
    | .inside _, [] => .ok s
    | .inside fresh, b :: stack =>
      match skipBlanks s with
      | [] => .error (.within b.endInside [])
      | c :: rest =>
        if c = ',' ∧ ¬fresh then do
          skipFrom fuel .value (b :: stack) (← skipName b rest)
        else if c = b.closing then skipFrom fuel (.inside false) stack rest
        else if fresh then do
          skipFrom fuel .value (b :: stack) (← skipName b (c :: rest))
        else .error (.within b.endExpected (c :: rest))

def skip (s : List Char) : Except Failure (List Char) :=
  skipFrom (2 * s.length + 2) .value [] s

def wholeText {α : Type} (reading : List Char → Reading α) (text : String) : Except Refusal α :=
  let s := text.toList
  let whole : Except Failure α := do
    let (a, rest) ← reading s
    finish rest
    .ok a
  whole.mapError (Failure.refusal s)

def parse (text : String) : Except Refusal Json := wholeText (value depthBound) text

end WebCrawl.Json
