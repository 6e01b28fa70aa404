import WebCrawl.Text.Utf8

/-!
# Percent-encoding

Each part of a URL has a set of characters that are written as `%` and two hexadecimal digits per
byte of UTF-8. Every set holds the controls and all characters outside ASCII. Characters that are
not in the set stand as they are, `%` among them, so what is encoded stays encoded.
-/

namespace WebCrawl.Percent

def isControlOrWide (c : Char) : Bool := c.toNat < 0x20 || 0x7E < c.toNat

/-- The ASCII characters a part of a URL encodes, besides controls. -/
structure EncodeSet where
  extra : List Char

def EncodeSet.has (s : EncodeSet) (c : Char) : Bool := isControlOrWide c || s.extra.contains c

def controlSet : EncodeSet := ⟨[]⟩

def fragmentSet : EncodeSet := ⟨[' ', '"', '<', '>', '`']⟩

def pathSet : EncodeSet := ⟨fragmentSet.extra ++ ['#', '?', '\x7b', '\x7d']⟩

def userinfoSet : EncodeSet :=
  ⟨pathSet.extra ++ ['/', ':', ';', '=', '@', '[', '\\', ']', '^', '|']⟩

def querySet : EncodeSet := ⟨[' ', '"', '#', '<', '>']⟩

def specialQuerySet : EncodeSet := ⟨querySet.extra ++ ['\'']⟩

def upperHexDigit (n : Nat) : Char := (Nat.digitChar n).toUpper

def encodeByte (b : UInt8) : List Char :=
  ['%', upperHexDigit (b.toNat / 16), upperHexDigit (b.toNat % 16)]

def encodeChar (set : EncodeSet) (c : Char) : List Char :=
  if set.has c then (String.utf8EncodeChar c).flatMap encodeByte else [c]

def encode (set : EncodeSet) (s : List Char) : List Char := s.flatMap (encodeChar set)

def hexValue? (b : UInt8) : Option Nat :=
  if 0x30 ≤ b ∧ b ≤ 0x39 then some (b.toNat - 0x30)
  else if 0x61 ≤ b ∧ b ≤ 0x66 then some (b.toNat - 0x61 + 10)
  else if 0x41 ≤ b ∧ b ≤ 0x46 then some (b.toNat - 0x41 + 10)
  else none

/-- Reads `%` and two digits as a byte; a `%` without two digits stands for itself. -/
def decode : List UInt8 → List UInt8
  | [] => []
  | [a] => [a]
  | [a, b] => [a, b]
  | a :: b :: c :: rest =>
    if a = 0x25 then
      match hexValue? b, hexValue? c with
      | some high, some low => UInt8.ofNat (high * 16 + low) :: decode rest
      | _, _ => a :: decode (b :: c :: rest)
    else a :: decode (b :: c :: rest)
termination_by s => s.length

end WebCrawl.Percent
