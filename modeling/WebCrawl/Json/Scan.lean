import WebCrawl.Json.Failure

/-!
# Scanning JSON: words, strings and punctuation

The pieces that every reader of JSON shares. None of them builds a value larger than a string.
-/

namespace WebCrawl.Json

def isBlank (c : Char) : Bool := c = ' ' || c = '\n' || c = '\t' || c = '\r'

def skipBlanks (s : List Char) : List Char := s.dropWhile isBlank

/-- The characters of a fixed word, each of which must follow. -/
def word : List Char → List Char → Except Failure (List Char)
  | [], rest => .ok rest
  | _ :: _, [] => .error (.before .endInValue [])
  | e :: es, c :: rest =>
    if c = e then word es rest else .error (.within .wordExpected (c :: rest))

def hexValue? (c : Char) : Option Nat :=
  if '0' ≤ c ∧ c ≤ '9' then some (c.toNat - '0'.toNat)
  else if 'a' ≤ c ∧ c ≤ 'f' then some (c.toNat - 'a'.toNat + 10)
  else if 'A' ≤ c ∧ c ≤ 'F' then some (c.toNat - 'A'.toNat + 10)
  else none

def hexQuad (s : List Char) : Reading Nat :=
  if byteLength s < 4 then .error (.placed .endInString 0)
  else match s with
    | a :: b :: c :: d :: rest =>
      match hexValue? a, hexValue? b, hexValue? c, hexValue? d with
      | some a, some b, some c, some d => .ok (((a * 16 + b) * 16 + c) * 16 + d, rest)
      | _, _, _, _ => .error (.placed .badEscape (byteLength s - 4))
    | _ => .error (.placed .badEscape (byteLength s - 4))

theorem hexQuad_length {s : List Char} {r : Nat × List Char} (h : hexQuad s = .ok r) :
    r.2.length < s.length := by
  unfold hexQuad at h
  split at h
  · cases h
  · split at h
    · split at h
      · cases h
        simp only [List.length_cons]
        omega
      · cases h
    · cases h

/-- The character an escape other than `u` stands for. -/
def simpleEscape? (c : Char) : Option Char :=
  match c with
  | '"' => some '"'
  | '\\' => some '\\'
  | '/' => some '/'
  | 'b' => some '\x08'
  | 'f' => some '\x0c'
  | 'n' => some '\n'
  | 'r' => some '\r'
  | 't' => some '\t'
  | _ => none

/-- What follows `\u`: one unit outside the surrogates, or a leading and a trailing surrogate. -/
def unicodeEscape (s : List Char) : Reading Char :=
  match hexQuad s with
  | .error e => .error e
  | .ok (high, rest) =>
    if 0xDC00 ≤ high ∧ high ≤ 0xDFFF then .error (.before .loneSurrogate rest)
    else if high < 0xD800 ∨ 0xDBFF < high then .ok (Char.ofNat high, rest)
    else match rest with
      | [] => .error (.before .endInString [])
      | ['\\'] => .error (.before .endInString [])
      | '\\' :: 'u' :: tail =>
        match hexQuad tail with
        | .error e => .error e
        | .ok (low, rest) =>
          if low < 0xDC00 ∨ 0xDFFF < low then .error (.before .loneSurrogate rest)
          else .ok (Char.ofNat ((high - 0xD800) * 0x400 + (low - 0xDC00) + 0x10000), rest)
      | '\\' :: tail => .error (.within .brokenSurrogatePair tail)
      | _ => .error (.within .brokenSurrogatePair rest)

theorem unicodeEscape_length {s : List Char} {r : Char × List Char}
    (h : unicodeEscape s = .ok r) : r.2.length < s.length := by
  unfold unicodeEscape at h
  split at h
  · cases h
  · rename_i hq
    have hlt := hexQuad_length hq
    split at h
    · cases h
    · split at h
      · cases h
        exact hlt
      · split at h
        · cases h
        · cases h
        · split at h
          · cases h
          · rename_i hq'
            have hlt' := hexQuad_length hq'
            split at h
            · cases h
            · injection h with h
              subst h
              simp only [List.length_cons] at hlt hlt' ⊢
              omega
        · cases h
        · cases h

/-- A string from behind its opening quote to behind its closing one; `done` is what came before,
last character first. -/
def stringTail (done : List Char) : List Char → Reading String
  | [] => .error (.before .endInString [])
  | '"' :: rest => .ok (String.ofList done.reverse, rest)
  | ['\\'] => .error (.before .endInString [])
  | '\\' :: 'u' :: rest =>
    match h : unicodeEscape rest with
    | .error e => .error e
    | .ok (c, tail) =>
      have : tail.length < rest.length := unicodeEscape_length h
      stringTail (c :: done) tail
  | '\\' :: e :: rest =>
    match simpleEscape? e with
    | some c => stringTail (c :: done) rest
    | none => .error (.within .badEscape (e :: rest))
  | c :: rest =>
    if c.toNat < 0x20 then .error (.within .controlCharacter (c :: rest))
    else stringTail (c :: done) rest
termination_by s => s.length
decreasing_by all_goals (simp_wf; try omega)

/-- Passes over a string without reading its escapes: any four hexadecimal digits will do. -/
def skipStringTail : List Char → Except Failure (List Char)
  | [] => .error (.before .endInString [])
  | '"' :: rest => .ok rest
  | ['\\'] => .error (.before .endInString [])
  | '\\' :: 'u' :: rest =>
    match h : hexQuad rest with
    | .error e => .error e
    | .ok (_, tail) =>
      have : tail.length < rest.length := hexQuad_length h
      skipStringTail tail
  | '\\' :: e :: rest =>
    if (simpleEscape? e).isSome then skipStringTail rest
    else .error (.within .badEscape (e :: rest))
  | c :: rest =>
    if c.toNat < 0x20 then .error (.before .controlCharacter (c :: rest))
    else skipStringTail rest
termination_by s => s.length
decreasing_by all_goals (simp_wf; try omega)

/-- Whether a further item follows in a list; if so, the text from that item on. -/
def nextItem (first : Bool) (s : List Char) : Except Failure (Option (List Char)) :=
  match skipBlanks s with
  | [] => .error (.within .endInList [])
  | ']' :: _ => .ok none
  | c :: rest =>
    if c = ',' ∧ ¬first then
      match skipBlanks rest with
      | [] => .error (.within .endInValue [])
      | ']' :: tail => .error (.within .trailingComma (']' :: tail))
      | tail => .ok (some tail)
    else if first then .ok (some (c :: rest))
    else .error (.within .listEndExpected (c :: rest))

/-- Whether a further member follows in an object; if so, the text behind the opening quote of its
name. -/
def nextMember (first : Bool) (s : List Char) : Except Failure (Option (List Char)) :=
  match skipBlanks s with
  | [] => .error (.within .endInObject [])
  | '\x7d' :: _ => .ok none
  | c :: rest =>
    if c = ',' ∧ ¬first then
      match skipBlanks rest with
      | [] => .error (.within .endInValue [])
      | '"' :: tail => .ok (some tail)
      | '\x7d' :: tail => .error (.within .trailingComma ('\x7d' :: tail))
      | tail => .error (.within .keyNotString tail)
    else if first then
      if c = '"' then .ok (some rest) else .error (.within .keyNotString (c :: rest))
    else .error (.within .objectEndExpected (c :: rest))

def colon (s : List Char) : Except Failure (List Char) :=
  match skipBlanks s with
  | [] => .error (.within .endInObject [])
  | ':' :: rest => .ok rest
  | rest => .error (.within .colonExpected rest)

def closeList (s : List Char) : Except Failure (List Char) :=
  match skipBlanks s with
  | [] => .error (.within .endInList [])
  | ']' :: rest => .ok rest
  | ',' :: rest =>
    match skipBlanks rest with
    | ']' :: tail => .error (.within .trailingComma (']' :: tail))
    | tail => .error (.within .trailingCharacters tail)
  | rest => .error (.within .trailingCharacters rest)

def closeObject (s : List Char) : Except Failure (List Char) :=
  match skipBlanks s with
  | [] => .error (.within .endInObject [])
  | '\x7d' :: rest => .ok rest
  | ',' :: rest => .error (.within .trailingComma (',' :: rest))
  | rest => .error (.within .trailingCharacters rest)

/-- Nothing but blanks may follow a whole text. -/
def finish (s : List Char) : Except Failure Unit :=
  match skipBlanks s with
  | [] => .ok ()
  | rest => .error (.within .trailingCharacters rest)

end WebCrawl.Json
