import WebCrawl.Json.Basic
import WebCrawl.Json.Scan

/-!
# Reading JSON numbers

A whole number that fits in 64 bits is exact. Every other number is read as a 64-bit significand
and a power of ten: digits that do not fit in the significand only count towards the power (before
the point) or are ignored (behind it), and the double is the rounded significand multiplied or
divided by the rounded power. The result may thus differ from the nearest double in its last bit.
-/

namespace WebCrawl.Json

def wordBound : Nat := 0x10000000000000000

def digitValue (c : Char) : Nat := c.toNat - '0'.toNat

/-- Reads digits into a significand as long as it fits in 64 bits; the digits that do not fit. -/
def accumulate (significand : Nat) : List Char → Nat × List Char
  | [] => (significand, [])
  | c :: rest =>
    let next := significand * 10 + digitValue c
    if next < wordBound then accumulate next rest else (significand, c :: rest)

def powerOfTen (n : Nat) : Float := Float.ofScientific 1 false n

/-- The double for `significand · 10 ^ exponent`, if it is finite. Large negative powers are
divided out `10 ^ 308` at a time. -/
def scale (significand : Nat) (exponent : Int) : Option Float :=
  let rec shrink (fuel : Nat) (f : Float) (exponent : Int) : Option Float :=
    if exponent.natAbs ≤ 308 then
      if 0 ≤ exponent then
        let g := f * powerOfTen exponent.toNat
        if g.isInf then none else some g
      else some (f / powerOfTen exponent.natAbs)
    else if f == 0.0 then some f
    else if 0 ≤ exponent then none
    else match fuel with
      | 0 => some 0.0
      | fuel + 1 => shrink fuel (f / powerOfTen 308) (exponent + 308)
  shrink 4 (UInt64.ofNat significand).toFloat exponent

def signed (negative : Bool) (x : Float) : Float := if negative then -x else x

/-- A whole number without fraction and exponent. Minus zero and what lies below the 64-bit
integers become doubles. -/
def wholeNumber (negative : Bool) (significand : Nat) : Json :=
  if ¬negative then .int significand
  else if significand = 0 ∨ 0x8000000000000000 < significand then
    .float (-(UInt64.ofNat significand).toFloat)
  else .int (-(significand : Int))

def exponentBound : Nat := 0x80000000

/-- The digits of an exponent; `none` once its absolute value leaves 31 bits. -/
def exponentDigits (value : Nat) : List Char → Option Nat × List Char
  | [] => (some value, [])
  | c :: rest =>
    if c.isDigit then
      let next := value * 10 + digitValue c
      if next < exponentBound then exponentDigits next rest else (none, rest)
    else (some value, c :: rest)

def clampExponent (e : Int) : Int := max (-0x80000000) (min 0x7fffffff e)

def scaled (negative : Bool) (significand : Nat) (exponent : Int) (rest : List Char) :
    Reading Json :=
  match scale significand exponent with
  | some x => .ok (.float (signed negative x), rest)
  | none => .error (.before .numberOutOfRange rest)

/-- From behind the mark `e` of an exponent. -/
def exponentPart (negative : Bool) (significand : Nat) (exponent : Int) (s : List Char) :
    Reading Json :=
  let (down, s) : Bool × List Char := match s with
    | '+' :: rest => (false, rest)
    | '-' :: rest => (true, rest)
    | rest => (false, rest)
  match s with
  | [] => .error (.before .endInValue [])
  | c :: rest =>
    if ¬c.isDigit then .error (.within .badNumber (c :: rest))
    else
      match exponentDigits (digitValue c) rest with
      | (some e, rest) =>
        scaled negative significand
          (clampExponent (if down then exponent - (e : Int) else exponent + (e : Int))) rest
      | (none, rest) =>
        if significand ≠ 0 ∧ ¬down then .error (.before .numberOutOfRange rest)
        else .ok (.float (signed negative 0.0), rest.dropWhile Char.isDigit)

/-- From behind the decimal point. -/
def fractionPart (negative : Bool) (significand : Nat) (exponent : Int) (s : List Char) :
    Reading Json :=
  let digits := s.takeWhile Char.isDigit
  let rest := s.dropWhile Char.isDigit
  if digits.isEmpty then
    .error (.within (if rest.isEmpty then .endInValue else .badNumber) rest)
  else
    let (significand, unread) := accumulate significand digits
    let exponent := exponent - ((digits.length - unread.length : Nat) : Int)
    match rest with
    | 'e' :: rest | 'E' :: rest => exponentPart negative significand exponent rest
    | rest => scaled negative significand exponent rest

def numberTail (negative : Bool) (s : List Char) : Reading Json :=
  match s with
  | [] => .error (.before .endInValue [])
  | c :: tail =>
    if ¬c.isDigit then .error (.within .badNumber (c :: tail))
    else if c = '0' ∧ (tail.head?.any Char.isDigit) then .error (.within .badNumber tail)
    else
      let digits := (c :: tail).takeWhile Char.isDigit
      let rest := (c :: tail).dropWhile Char.isDigit
      let (significand, unread) := accumulate 0 digits
      match rest with
      | '.' :: rest => fractionPart negative significand unread.length rest
      | 'e' :: rest | 'E' :: rest => exponentPart negative significand unread.length rest
      | rest =>
        if unread.isEmpty then .ok (wholeNumber negative significand, rest)
        else scaled negative significand unread.length rest

/-- Passes over a number from behind its sign, of any magnitude. -/
def skipNumberTail (s : List Char) : Except Failure (List Char) :=
  let exponent (s : List Char) : Except Failure (List Char) :=
    let s := match s with
      | '+' :: rest | '-' :: rest => rest
      | rest => rest
    match s with
    | [] => .error (.within .badNumber [])
    | c :: rest =>
      if c.isDigit then .ok (rest.dropWhile Char.isDigit)
      else .error (.within .badNumber (c :: rest))
  match s with
  | [] => .error (.within .badNumber [])
  | c :: tail =>
    if ¬c.isDigit then .error (.within .badNumber (c :: tail))
    else if c = '0' ∧ (tail.head?.any Char.isDigit) then .error (.within .badNumber tail)
    else
      match (c :: tail).dropWhile Char.isDigit with
      | '.' :: s =>
        let rest := s.dropWhile Char.isDigit
        if (s.takeWhile Char.isDigit).isEmpty then .error (.within .badNumber rest)
        else match rest with
          | 'e' :: rest | 'E' :: rest => exponent rest
          | rest => .ok rest
      | 'e' :: rest | 'E' :: rest => exponent rest
      | rest => .ok rest

end WebCrawl.Json
