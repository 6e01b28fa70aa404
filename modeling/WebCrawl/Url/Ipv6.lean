import WebCrawl.Url.Ipv4

/-!
# IPv6 addresses in hosts

Eight pieces of sixteen bits, parted by colons; `::` stands once for a run of zero pieces, and the
last two pieces may be an IPv4 address. The printed form writes the longest run of at least two
zero pieces as `::`.
-/

namespace WebCrawl.Ipv6

/-- The pieces read so far and the place of `::` among them. -/
structure Progress where
  pieces : List Nat
  gap : Option Nat
  deriving Repr, DecidableEq

def hexDigit? (c : Char) : Option Nat := Ipv4.digit? 16 c

/-- Up to four hexadecimal digits and what follows them. -/
def hexPiece (s : List Char) : Nat × Nat × List Char :=
  let digits := (s.take 4).takeWhile fun c => (hexDigit? c).isSome
  (digits.foldl (fun n c => n * 16 + (hexDigit? c).getD 0) 0, digits.length, s.drop digits.length)

/-- A decimal number up to 255 without leading zeros. -/
def byte? (s : List Char) : Option Nat :=
  if s.isEmpty ∨ (s.head? = some '0' ∧ s.length > 1) then none
  else (Ipv4.digitsValue? 10 s).filter (· ≤ 255)

def embedded? (s : List Char) : Option (List Nat) :=
  match (s.splitOn '.').mapM byte? with
  | some [a, b, c, d] => some [a * 256 + b, c * 256 + d]
  | _ => none

def readPieces (p : Progress) (s : List Char) : Option Progress :=
  match s with
  | [] => some p
  | c :: rest =>
    if p.pieces.length = 8 then none
    else if c = ':' then
      if p.gap.isSome then none
      else readPieces ⟨p.pieces ++ [0], some (p.pieces.length + 1)⟩ rest
    else
      let (n, count, after) := hexPiece (c :: rest)
      match after with
      | [] => some { p with pieces := p.pieces ++ [n] }
      | ':' :: tail =>
        if tail.isEmpty then none
        else if tail.length < (c :: rest).length then
          readPieces { p with pieces := p.pieces ++ [n] } tail
        else none
      | '.' :: _ =>
        if count = 0 ∨ 6 < p.pieces.length then none
        else (embedded? (c :: rest)).map fun two => { p with pieces := p.pieces ++ two }
      | _ => none
termination_by s.length
decreasing_by all_goals (simp only [List.length_cons] at *; omega)

def parse? (s : List Char) : Option (List Nat) :=
  let start : Option (Progress × List Char) := match s with
    | ':' :: ':' :: rest => some (⟨[0], some 1⟩, rest)
    | ':' :: _ => none
    | rest => if rest.length < 2 then none else some (⟨[], none⟩, rest)
  match start.bind fun (p, rest) => readPieces p rest with
  | none => none
  | some ⟨pieces, none⟩ => if pieces.length = 8 then some pieces else none
  | some ⟨pieces, some gap⟩ =>
    some (pieces.take gap ++ List.replicate (8 - pieces.length) 0 ++ pieces.drop gap)

/-- Start and length of the first longest run of zeros, from `start` on. -/
def longestZeros (start : Nat) : List Nat → Nat × Nat
  | [] => (start, 0)
  | n :: rest =>
    let here := ((n :: rest).takeWhile (· = 0)).length
    let (s, l) := longestZeros (start + 1) rest
    if l ≤ here then (start, here) else (s, l)

def hex (n : Nat) : String := String.ofList (Nat.toDigits 16 n)

def colons (pieces : List Nat) : String := ":".intercalate (pieces.map hex)

def render (pieces : List Nat) : String :=
  let (start, length) := longestZeros 0 pieces
  if length < 2 then colons pieces
  else colons (pieces.take start) ++ "::" ++ colons (pieces.drop (start + length))

example : parse? "2001:DB8::1:0:0:1".toList = some [0x2001, 0xdb8, 0, 0, 1, 0, 0, 1] := by
  decide +kernel

end WebCrawl.Ipv6
