import WebCrawl.Unicode.Runs
import WebCrawl.Unicode.MappingTable
import WebCrawl.Unicode.BidiTable
import WebCrawl.Unicode.JoiningTable
import WebCrawl.Unicode.MarkTable
import WebCrawl.Unicode.PrintableTable

/-!
# Properties of characters

The properties that names of hosts and quoted texts are judged by.
-/

namespace WebCrawl.Unicode

inductive NameMapping where
  | kept
  | dropped
  | refused
  | replaced (replacement : List Char)

def readReplacement (s : List Char) : List Char :=
  let rec go (fuel : Nat) (s : List Char) : List Char :=
    match fuel with
    | 0 => []
    | fuel + 1 =>
      let (n, rest) := number36 s
      match rest with
      | '.' :: rest => Char.ofNat n :: go fuel rest
      | _ => [Char.ofNat n]
  go s.length s

def nameMappings : Runs NameMapping :=
  .decode (fun rest => match rest with
    | 'V' :: _ => .kept
    | 'I' :: _ => .dropped
    | 'M' :: tail => .replaced (readReplacement tail)
    | _ => .refused) mappingRuns

def nameMapping (c : Char) : NameMapping := (nameMappings.get? c).getD .refused

/-- Directional classes; those that no name admits are one class. -/
inductive Direction where
  | left
  | right
  | arabicLetter
  | arabicNumber
  | europeanNumber
  | europeanSeparator
  | commonSeparator
  | europeanTerminator
  | neutral
  | boundary
  | mark
  | other
  deriving DecidableEq, Repr

def readDirection : List Char → Direction
  | 'L' :: _ => .left
  | 'R' :: _ => .right
  | 'A' :: _ => .arabicLetter
  | 'N' :: _ => .arabicNumber
  | 'E' :: _ => .europeanNumber
  | 'S' :: _ => .europeanSeparator
  | 'C' :: _ => .commonSeparator
  | 'T' :: _ => .europeanTerminator
  | 'O' :: _ => .neutral
  | 'B' :: _ => .boundary
  | 'M' :: _ => .mark
  | _ => .other

def directions : Runs Direction := .decode readDirection bidiRuns

def direction (c : Char) : Direction := (directions.get? c).getD .left

/-- How a letter joins its neighbours in a cursive script. -/
inductive Joining where
  | left
  | right
  | both
  | transparent
  | none
  deriving DecidableEq, Repr

def readJoining : List Char → Joining
  | 'L' :: _ => .left
  | 'R' :: _ => .right
  | 'D' :: _ => .both
  | 'T' :: _ => .transparent
  | _ => .none

def joinings : Runs Joining := .decode readJoining joiningRuns

def joining (c : Char) : Joining := (joinings.get? c).getD .none

def marks : Runs Bool := .decode (fun rest => rest.head? == some 'M') markRuns

def isMark (c : Char) : Bool := (marks.get? c).getD false

def printables : Runs Bool := .decode (fun rest => rest.head? == some 'P') printableRuns

def isPrintable (c : Char) : Bool := (printables.get? c).getD false

end WebCrawl.Unicode

/-! ## Quoted texts

A complaint quotes a text between double quotes, with quotes, backslashes and everything that cannot
be printed escaped.
-/

namespace WebCrawl.Text

def lowerHex (n : Nat) : String := String.ofList (Nat.toDigits 16 n)

def quotedChar (c : Char) : String :=
  if c = '\x00' then "\\0"
  else if c = '\t' then "\\t"
  else if c = '\r' then "\\r"
  else if c = '\n' then "\\n"
  else if c = '"' then "\\\""
  else if c = '\\' then "\\\\"
  else if Unicode.isPrintable c then c.toString
  else "\\u\x7b" ++ lowerHex c.toNat ++ "\x7d"

def quoted (s : String) : String :=
  "\"" ++ String.join (s.toList.map quotedChar) ++ "\""

end WebCrawl.Text
