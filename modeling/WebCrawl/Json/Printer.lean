import WebCrawl.Json.Basic
import WebCrawl.Decimal.Layout

/-!
# Printing JSON

The compact form has no blanks; the indented form puts each item on a line of its own, two blanks
deeper than what encloses it, and leaves empty arrays and objects closed. A number that is not
finite has no JSON form and is written `null`.
-/

namespace WebCrawl.Json

/-- Doubles are positional from `0.00001` up to `10 ^ 16`, whole ones keep `.0`, and exponents are
signed. -/
def numbers : Decimal.Layout :=
  { positional := fun lead => decide (-5 ≤ lead ∧ lead < 16)
    wholeFraction := true
    signedExponent := true
    notANumber := "null"
    infinite := "null" }

def floatText (x : Float) : String :=
  match Decimal.parts x with
  | .finite negative m q => numbers.renderParts (.finite negative m q)
  | _ => "null"

def hexDigit (n : Nat) : Char := Nat.digitChar n

/-- Quotes, backslashes and control characters are escaped, everything else stands as it is. -/
def escapeChar (c : Char) : List Char :=
  if c = '"' then ['\\', '"']
  else if c = '\\' then ['\\', '\\']
  else if c = '\n' then ['\\', 'n']
  else if c = '\r' then ['\\', 'r']
  else if c = '\t' then ['\\', 't']
  else if c = '\x08' then ['\\', 'b']
  else if c = '\x0c' then ['\\', 'f']
  else if c.toNat < 0x20 then
    ['\\', 'u', '0', '0', hexDigit (c.toNat / 16), hexDigit (c.toNat % 16)]
  else [c]

def quote (s : String) : String :=
  String.ofList ('"' :: s.toList.flatMap escapeChar ++ ['"'])

/-- A value without items; an array or object is written closed. -/
def leafText : Json → String
  | .null => "null"
  | .bool b => if b then "true" else "false"
  | .int n => toString n
  | .float x => floatText x
  | .string s => quote s
  | .array _ => "[]"
  | .object _ => "\x7b\x7d"

mutual

def render : Json → String
  | .array items => "[" ++ renderItems items ++ "]"
  | .object members => "\x7b" ++ renderMembers members ++ "\x7d"
  | v => leafText v

def renderItems : List Json → String
  | [] => ""
  | [x] => render x
  | x :: rest => render x ++ "," ++ renderItems rest

def renderMembers : List (String × Json) → String
  | [] => ""
  | [(k, v)] => quote k ++ ":" ++ render v
  | (k, v) :: rest => quote k ++ ":" ++ render v ++ "," ++ renderMembers rest

end

/-! ## Pieces

The compact form does not come in one piece: each bracket, comma, colon and quote, each escape, and
each run of other characters in a string is put out by itself. -/

def standsAsIs (c : Char) : Bool := escapeChar c == [c]

def quotePieces (s : String) : List String :=
  let runs := s.toList.splitBy fun a b => standsAsIs a && standsAsIs b
  "\"" :: runs.map (fun run => String.ofList (run.flatMap escapeChar)) ++ ["\""]

mutual

def pieces : Json → List String
  | .string s => quotePieces s
  | .array items => "[" :: itemPieces items ++ ["]"]
  | .object members => "\x7b" :: memberPieces members ++ ["\x7d"]
  | v => [leafText v]

def itemPieces : List Json → List String
  | [] => []
  | [x] => pieces x
  | x :: rest => pieces x ++ "," :: itemPieces rest

def memberPieces : List (String × Json) → List String
  | [] => []
  | [(k, v)] => quotePieces k ++ ":" :: pieces v
  | (k, v) :: rest => quotePieces k ++ ":" :: pieces v ++ "," :: memberPieces rest

end

/-! ## The indented form -/

def indentation (depth : Nat) : String := String.ofList (List.replicate (2 * depth) ' ')

mutual

def renderIndented (depth : Nat) : Json → String
  | .array (x :: items) =>
    "[\n" ++ indentedItems (depth + 1) (x :: items) ++ "\n" ++ indentation depth ++ "]"
  | .object (m :: members) =>
    "\x7b\n" ++ indentedMembers (depth + 1) (m :: members) ++ "\n" ++ indentation depth ++ "\x7d"
  | v => leafText v

def indentedItems (depth : Nat) : List Json → String
  | [] => ""
  | [x] => indentation depth ++ renderIndented depth x
  | x :: rest => indentation depth ++ renderIndented depth x ++ ",\n" ++ indentedItems depth rest

def indentedMembers (depth : Nat) : List (String × Json) → String
  | [] => ""
  | [(k, v)] => indentation depth ++ quote k ++ ": " ++ renderIndented depth v
  | (k, v) :: rest =>
    indentation depth ++ quote k ++ ": " ++ renderIndented depth v ++ ",\n" ++
      indentedMembers depth rest

end

def pretty (v : Json) : String := renderIndented 0 v

end WebCrawl.Json
