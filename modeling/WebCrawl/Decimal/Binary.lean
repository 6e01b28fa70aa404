/-!
# The parts of a binary64 number

A double is not a number, infinite, or a sign with `significand · 2 ^ exponent`. Everything that
writes a double in decimal starts from these parts and computes with exact natural numbers.
-/

namespace WebCrawl.Decimal

inductive Parts where
  | notANumber
  | infinite (negative : Bool)
  | finite (negative : Bool) (significand : Nat) (exponent : Int)
  deriving Repr, DecidableEq

def leastExponent : Int := -1074

def normalBound : Nat := 0x10000000000000

def partsOfBits (bits : Nat) : Parts :=
  let negative := bits / 0x8000000000000000 % 2 == 1
  let biased : Nat := bits / normalBound % 0x800
  let fraction : Nat := bits % normalBound
  if biased = 2047 then
    if fraction = 0 then .infinite negative else .notANumber
  else if biased = 0 then
    .finite negative fraction leastExponent
  else
    .finite negative (fraction + normalBound) ((biased : Int) - 1075)

def parts (x : Float) : Parts := partsOfBits x.toBits.toNat

/-- The value of a magnitude as a fraction of natural numbers. -/
def fraction (significand : Nat) (exponent : Int) : Nat × Nat :=
  if exponent < 0 then (significand, Nat.pow 2 (-exponent).toNat)
  else (significand * Nat.pow 2 exponent.toNat, 1)

example : partsOfBits 0 = .finite false 0 (-1074) := by decide
example : partsOfBits 0x3ff0000000000000 = .finite false (2 ^ 52) (-52) := by decide
example : partsOfBits 0xfff0000000000000 = .infinite true := by decide

end WebCrawl.Decimal
