/-!
# UTF-8

Encoding and decoding between characters and bytes. A broken sequence is cut into the longest
pieces that start some well-formed sequence; the lossy decoder writes one replacement character for
each of them, the strict one refuses the text.
-/

namespace WebCrawl.Utf8

def encode (s : List Char) : List UInt8 := s.flatMap String.utf8EncodeChar

def bytes (s : String) : List UInt8 := encode s.toList

def isContinuation (b : UInt8) : Bool := 0x80 ≤ b && b ≤ 0xBF

/-- The bytes that may follow a lead byte, from which sequences of three or four bytes go on. -/
def secondRange (lead : UInt8) : UInt8 × UInt8 :=
  if lead = 0xE0 then (0xA0, 0xBF)
  else if lead = 0xED then (0x80, 0x9F)
  else if lead = 0xF0 then (0x90, 0xBF)
  else if lead = 0xF4 then (0x80, 0x8F)
  else (0x80, 0xBF)

def isSecond (lead b : UInt8) : Bool :=
  (secondRange lead).1 ≤ b && b ≤ (secondRange lead).2

def low6 (b : UInt8) : Nat := b.toNat % 0x40

/-- The character at the head of some bytes, or `none` for a broken piece, and the number of bytes
behind the first that belong to it. -/
def piece (lead : UInt8) (rest : List UInt8) : Option Char × Nat :=
  if lead < 0x80 then (some (Char.ofNat lead.toNat), 0)
  else if lead < 0xC2 ∨ 0xF4 < lead then (none, 0)
  else if lead < 0xE0 then
    match rest with
    | b :: _ =>
      if isContinuation b then (some (Char.ofNat (lead.toNat % 0x20 * 0x40 + low6 b)), 1)
      else (none, 0)
    | [] => (none, 0)
  else if lead < 0xF0 then
    match rest with
    | b :: c :: _ =>
      if ¬isSecond lead b then (none, 0)
      else if isContinuation c then
        (some (Char.ofNat ((lead.toNat % 0x10 * 0x40 + low6 b) * 0x40 + low6 c)), 2)
      else (none, 1)
    | [b] => (none, if isSecond lead b then 1 else 0)
    | [] => (none, 0)
  else
    match rest with
    | b :: c :: d :: _ =>
      if ¬isSecond lead b then (none, 0)
      else if ¬isContinuation c then (none, 1)
      else if isContinuation d then
        let high := lead.toNat % 8 * 0x40 + low6 b
        (some (Char.ofNat ((high * 0x40 + low6 c) * 0x40 + low6 d)), 3)
      else (none, 2)
    | [b, c] => (none, if ¬isSecond lead b then 0 else if isContinuation c then 2 else 1)
    | [b] => (none, if isSecond lead b then 1 else 0)
    | [] => (none, 0)

def pieces (s : List UInt8) : List (Option Char) :=
  match s with
  | [] => []
  | lead :: rest =>
    let (c, extra) := piece lead rest
    c :: pieces (rest.drop extra)
termination_by s.length
decreasing_by simp only [List.length_drop, List.length_cons]; omega

def replacement : Char := '\uFFFD'

def decodeLossy (s : List UInt8) : List Char := (pieces s).map fun c => c.getD replacement

def decode? (s : List UInt8) : Option (List Char) := (pieces s).mapM id

end WebCrawl.Utf8
