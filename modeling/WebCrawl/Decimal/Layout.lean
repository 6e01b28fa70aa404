import WebCrawl.Decimal.Shortest

/-!
# Layouts of a decimal number

A layout says how the shortest digits of a double are put on the page: when the positional form
gives way to the scientific one, whether a whole number keeps a fraction, and how an exponent is
signed. Each writer of numbers has one layout record of its own.
-/

namespace WebCrawl.Decimal

structure Layout where
  /-- Powers of ten of the leading digit that are written positionally. -/
  positional : Int → Bool
  /-- Whole numbers end in `.0`. -/
  wholeFraction : Bool
  /-- An exponent that is not negative carries a plus sign. -/
  signedExponent : Bool
  notANumber : String
  infinite : String

def zeros (n : Nat) : String := String.ofList (List.replicate n '0')

/-- Digits without an exponent. -/
def Digits.positional (d : Digits) (wholeFraction : Bool) : String :=
  let text := toString d.digits
  let tail := if wholeFraction then ".0" else ""
  if 0 ≤ d.exponent then text ++ (if d.digits = 0 then "" else zeros d.exponent.toNat) ++ tail
  else
    let places := (-d.exponent).toNat
    let padded := zeros (places + 1 - text.length) ++ text
    let cut := padded.length - places
    String.ofList (padded.toList.take cut) ++ "." ++ String.ofList (padded.toList.drop cut)

/-- One digit before the point, and the power of ten behind the mark `e`. -/
def Digits.scientific (d : Digits) (signedExponent : Bool) : String :=
  let text := toString d.digits
  let power := d.exponent + (text.length - 1 : Nat)
  let mantissa := match text.toList with
    | [] => ""
    | [c] => c.toString
    | c :: rest => c.toString ++ "." ++ String.ofList rest
  let sign := if signedExponent ∧ 0 ≤ power then "+" else ""
  mantissa ++ "e" ++ sign ++ toString power

def Layout.magnitude (l : Layout) (significand : Nat) (exponent : Int) : String :=
  if significand = 0 then (Digits.mk 0 0).positional l.wholeFraction
  else
    let d := shortest significand exponent
    let lead := d.exponent + ((toString d.digits).length - 1 : Nat)
    if l.positional lead then d.positional l.wholeFraction else d.scientific l.signedExponent

def Layout.renderParts (l : Layout) : Parts → String
  | .notANumber => l.notANumber
  | .infinite negative => (if negative then "-" else "") ++ l.infinite
  | .finite negative m q => (if negative then "-" else "") ++ l.magnitude m q

def Layout.render (l : Layout) (x : Float) : String := l.renderParts (parts x)

/-- Every digit is written out, however large the number, and nothing is added. -/
def plain : Layout :=
  { positional := fun _ => true
    wholeFraction := false
    signedExponent := false
    notANumber := "NaN"
    infinite := "inf" }

/-- The form of a number in a dump of a value: positional from `0.0001` up to `10 ^ 16`. -/
def dump : Layout :=
  { positional := fun lead => decide (-4 ≤ lead ∧ lead < 16)
    wholeFraction := true
    signedExponent := false
    notANumber := "NaN"
    infinite := "inf" }

/-- Rounding a quotient to a whole number, a tie going to the even neighbour. -/
def roundDiv (num den : Nat) : Nat :=
  let q := num / den
  let r := num % den
  if 2 * r < den then q
  else if den < 2 * r then q + 1
  else if q % 2 = 0 then q else q + 1

/-- A double with a fixed number of places, rounded from its exact value. -/
def fixedParts (places : Nat) : Parts → String
  | .notANumber => "NaN"
  | .infinite negative => if negative then "-inf" else "inf"
  | .finite negative m q =>
    let (num, den) := fraction m q
    let scaled := roundDiv (num * Nat.pow 10 places) den
    (if negative then "-" else "") ++
      if places = 0 then toString scaled
      else (Digits.mk scaled (-(places : Int))).positional false

def fixed (places : Nat) (x : Float) : String := fixedParts places (parts x)

end WebCrawl.Decimal
