import WebCrawl.Decimal.Binary

/-!
# Shortest decimal digits

The doubles cut the reals into intervals: the reals that round to a given double. Among the
decimals in that interval those with the fewest digits are wanted, and of them the nearest to the
double. If a grid of decimals meets the interval, one of the double's two neighbours on the grid
lies in it, so testing these two on each grid in turn, coarse to fine, finds the shortest.
-/

namespace WebCrawl.Decimal

/-- The decimal `digits · 10 ^ exponent`. -/
structure Digits where
  digits : Nat
  exponent : Int
  deriving Repr, DecidableEq

/-- A fraction in units of a power of ten: `num / den / 10 ^ power`. -/
def inUnits (num den : Nat) (power : Int) : Nat × Nat :=
  if power < 0 then (num * Nat.pow 10 (-power).toNat, den)
  else (num, den * Nat.pow 10 power.toNat)

/-- The reals that round to a double, as fractions with the denominator `den`. The ends belong to
it iff `closed`: a tie goes to the even significand. -/
structure Interval where
  low : Nat
  mid : Nat
  high : Nat
  den : Nat
  closed : Bool

/-- Below a power of two the doubles lie twice as dense as above it. -/
def Interval.of (significand : Nat) (exponent : Int) : Interval :=
  let edge := significand = normalBound ∧ leastExponent < exponent
  let scaled (n : Nat) := (fraction n (exponent - 2)).1
  { low := scaled (4 * significand - if edge then 1 else 2)
    mid := scaled (4 * significand)
    high := scaled (4 * significand + 2)
    den := (fraction 1 (exponent - 2)).2
    closed := significand % 2 == 0 }

/-- Whether `n · 10 ^ power` rounds to the double. -/
def Interval.holds (i : Interval) (n : Nat) (power : Int) : Bool :=
  let value (x : Nat) := inUnits x i.den power
  let below := (value i.low).1
  let above := (value i.high).1
  let point := n * (value i.mid).2
  if i.closed then decide (below ≤ point ∧ point ≤ above)
  else decide (below < point ∧ point < above)

/-- The nearer of the two neighbours of the double among the multiples of `10 ^ power`, if it
rounds to the double. -/
def Interval.hit? (i : Interval) (power : Int) : Option Nat :=
  let (num, den) := inUnits i.mid i.den power
  let under := num / den
  match i.holds under power, i.holds (under + 1) power with
  | false, false => none
  | true, false => some under
  | false, true => some (under + 1)
  | true, true => some (if 2 * (num % den) ≤ den then under else under + 1)

/-- The power of ten of the leading digit of `num / den`. -/
def leadingPower (num den : Nat) : Int :=
  if den ≤ num then (Nat.toDigits 10 (num / den)).length - 1
  else
    -- `10 ^ k * num < den` for all smaller `k`; a double needs at most 324 steps
    let rec climb (fuel k num : Nat) : Int :=
      match fuel with
      | 0 => -(k : Int)
      | fuel + 1 => if den ≤ num then -(k : Int) else climb fuel (k + 1) (num * 10)
    climb 330 0 num

/-- Trailing zeros move into the exponent. -/
def Digits.trim (d : Digits) : Digits :=
  let rec drop (fuel digits : Nat) (exponent : Int) : Digits :=
    match fuel with
    | 0 => ⟨digits, exponent⟩
    | fuel + 1 =>
      if digits ≠ 0 ∧ digits % 10 = 0 then drop fuel (digits / 10) (exponent + 1)
      else ⟨digits, exponent⟩
  drop 330 d.digits d.exponent

/-- The fewest digits that read back as the positive double `significand · 2 ^ exponent`, and of
these the nearest to it. Seventeen digits always suffice. -/
def shortest (significand : Nat) (exponent : Int) : Digits :=
  let i := Interval.of significand exponent
  let lead := leadingPower i.mid i.den
  let withCount? (count : Nat) : Option Digits :=
    let power := lead - count
    (i.hit? power).map fun n => Digits.trim ⟨n, power⟩
  ((List.range 18).findSome? withCount?).getD ⟨i.mid / i.den, 0⟩

example : shortest (2 ^ 52) (-52) = ⟨1, 0⟩ := by decide +kernel
example : shortest 7205759403792794 (-56) = ⟨1, -1⟩ := by decide +kernel
example : shortest 1 (-1074) = ⟨5, -324⟩ := by decide +kernel
example : shortest 9007199254740991 971 = ⟨17976931348623157, 292⟩ := by decide +kernel

end WebCrawl.Decimal
