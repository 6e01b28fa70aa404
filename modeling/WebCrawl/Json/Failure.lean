/-!
# Why a text is refused as JSON

A reading works on the characters that are left. A failure names the issue and the number of bytes
that are left where it stands, or, for a complaint about a value that was read, the text behind
that value; the line and column are computed at the end. Columns count bytes.
-/

namespace WebCrawl.Json

inductive Issue where
  | endInList
  | endInObject
  | endInString
  | endInValue
  | colonExpected
  | listEndExpected
  | objectEndExpected
  | wordExpected
  | valueExpected
  | badEscape
  | badNumber
  | numberOutOfRange
  | controlCharacter
  | keyNotString
  | loneSurrogate
  | trailingComma
  | trailingCharacters
  | brokenSurrogatePair
  | tooDeep
  /-- A value that is JSON but not what was asked for. -/
  | unfit (message : String)
  deriving Repr, DecidableEq

def Issue.message : Issue → String
  | .endInList => "EOF while parsing a list"
  | .endInObject => "EOF while parsing an object"
  | .endInString => "EOF while parsing a string"
  | .endInValue => "EOF while parsing a value"
  | .colonExpected => "expected `:`"
  | .listEndExpected => "expected `,` or `]`"
  | .objectEndExpected => "expected `,` or `\x7d`"
  | .wordExpected => "expected ident"
  | .valueExpected => "expected value"
  | .badEscape => "invalid escape"
  | .badNumber => "invalid number"
  | .numberOutOfRange => "number out of range"
  | .controlCharacter => "control character (\\u0000-\\u001F) found while parsing a string"
  | .keyNotString => "key must be a string"
  | .loneSurrogate => "lone leading surrogate in hex escape"
  | .trailingComma => "trailing comma"
  | .trailingCharacters => "trailing characters"
  | .brokenSurrogatePair => "unexpected end of hex escape"
  | .tooDeep => "recursion limit exceeded"
  | .unfit message => message

def byteLength (s : List Char) : Nat := s.foldl (fun n c => n + c.utf8Size) 0

inductive Failure where
  /-- The issue stands where `remaining` bytes of the text are left. -/
  | placed (issue : Issue) (remaining : Nat)
  /-- The issue has no place yet; `rest` follows the value it is about. -/
  | loose (issue : Issue) (rest : List Char)
  deriving Repr, DecidableEq

namespace Failure

/-- The issue stands before `rest`. -/
def before (issue : Issue) (rest : List Char) : Failure := .placed issue (byteLength rest)

/-- The issue stands behind the first byte of `rest`, or at the end of the text. -/
def within (issue : Issue) (rest : List Char) : Failure := .placed issue (byteLength rest - 1)

/-- Gives a loose issue its place: before what `advance` leaves of the text behind the value. -/
def settle (advance : List Char → List Char) : Failure → Failure
  | .placed issue remaining => .placed issue remaining
  | .loose issue rest => before issue (advance rest)

end Failure

/-- A reading: a value and the characters that are left, or a failure. -/
abbrev Reading (α : Type) := Except Failure (α × List Char)

/-- A line and a column, the column counting the bytes of the line that come before. -/
structure Position where
  line : Nat
  column : Nat
  deriving Repr, DecidableEq

def Position.at (text : List Char) (offset : Nat) : Position :=
  let rec go (chars : List Char) (seen lineStart line : Nat) : Position :=
    match chars with
    | [] => ⟨line, offset - lineStart⟩
    | c :: rest =>
      if offset ≤ seen then ⟨line, offset - lineStart⟩
      else if c = '\n' then go rest (seen + 1) (seen + 1) (line + 1)
      else go rest (seen + c.utf8Size) lineStart line
  go text 0 0 1

/-- A refused text: the issue and, unless it concerns the value as a whole, its position. -/
structure Refusal where
  issue : Issue
  position : Option Position
  deriving Repr, DecidableEq

def Refusal.message (r : Refusal) : String :=
  match r.position with
  | none => r.issue.message
  | some p => s!"{r.issue.message} at line {p.line} column {p.column}"

def Failure.refusal (text : List Char) : Failure → Refusal
  | .placed issue remaining => ⟨issue, some (Position.at text (byteLength text - remaining))⟩
  | .loose issue _ => ⟨issue, none⟩

end WebCrawl.Json
