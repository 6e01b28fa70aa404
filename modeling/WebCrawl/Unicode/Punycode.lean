/-!
# Punycode

The characters of a label outside ASCII are written behind the others as a sequence of numbers: in
increasing order of code points, how far the next insertion lies from the last one. Each number is
written in base 36, least digit first, with thresholds that follow the sizes of the numbers so far.
-/

namespace WebCrawl.Unicode.Punycode

def digitChar (d : Nat) : Char :=
  if d < 26 then Char.ofNat ('a'.toNat + d) else Char.ofNat ('0'.toNat + (d - 26))

def digitValue? (c : Char) : Option Nat :=
  if 'a' ≤ c ∧ c ≤ 'z' then some (c.toNat - 'a'.toNat)
  else if 'A' ≤ c ∧ c ≤ 'Z' then some (c.toNat - 'A'.toNat)
  else if '0' ≤ c ∧ c ≤ '9' then some (c.toNat - '0'.toNat + 26)
  else none

/-- A digit below the threshold at its place ends a number. -/
def threshold (place bias : Nat) : Nat :=
  if place ≤ bias then 1 else if bias + 26 ≤ place then 26 else place - bias

theorem threshold_bounds (place bias : Nat) :
    1 ≤ threshold place bias ∧ threshold place bias ≤ 26 := by
  unfold threshold
  split
  · omega
  · split <;> omega

def adaptLoop (delta k : Nat) : Nat :=
  if 455 < delta then adaptLoop (delta / 35) (k + 36) else k + 36 * delta / (delta + 38)
termination_by delta
decreasing_by exact Nat.div_lt_self (by omega) (by omega)

/-- The bias for the next number, from the last one and the number of characters so far. -/
def adapt (delta count : Nat) (first : Bool) : Nat :=
  let scaled := if first then delta / 700 else delta / 2
  adaptLoop (scaled + scaled / count) 0

def numberDigits (bias place n : Nat) : List Char :=
  let t := threshold place bias
  if n < t then [digitChar n]
  else digitChar (t + (n - t) % (36 - t)) :: numberDigits bias (place + 36) ((n - t) / (36 - t))
termination_by n
decreasing_by
  have h := threshold_bounds place bias
  have hdiv := Nat.div_le_self (n - threshold place bias) (36 - threshold place bias)
  omega

structure Encoder where
  /-- The digits written so far, last first. -/
  written : List Char
  delta : Nat
  bias : Nat
  handled : Nat

/-- One pass over the label for the code point `next`. -/
def Encoder.pass (basic : Nat) (label : List Char) (next : Nat) (e : Encoder) : Encoder :=
  label.foldl (fun e c =>
    if c.toNat < next then { e with delta := e.delta + 1 }
    else if c.toNat = next then
      { written := (numberDigits e.bias 36 e.delta).reverse ++ e.written
        delta := 0
        bias := adapt e.delta (e.handled + 1) (e.handled == basic)
        handled := e.handled + 1 }
    else e) e

def encodeFrom (basic : Nat) (label : List Char) (current : Nat) (e : Encoder) :
    List Nat → List Char
  | [] => e.written.reverse
  | next :: rest =>
    let e := { e with delta := e.delta + (next - current) * (e.handled + 1) }
    let e := e.pass basic label next
    encodeFrom basic label (next + 1) { e with delta := e.delta + 1 } rest

def distinctSorted (xs : List Nat) : List Nat :=
  (xs.mergeSort fun a b => decide (a ≤ b)).eraseReps

def encode (label : List Char) : List Char :=
  let basic := label.filter fun c => c.toNat < 0x80
  let extended := distinctSorted ((label.filter fun c => 0x80 ≤ c.toNat).map Char.toNat)
  basic ++ (if basic.isEmpty then [] else ['-']) ++
    encodeFrom basic.length label 0x80 ⟨[], 0, 72, basic.length⟩ extended

/-- Reads one number: its value added to `sum`, and the digits behind it. -/
def readNumber (bias : Nat) : List Char → Nat → Nat → Nat → Option (Nat × List Char)
  | [], _, _, _ => none
  | c :: rest, place, weight, sum =>
    match digitValue? c with
    | none => none
    | some d =>
      let t := threshold place bias
      if d < t then some (sum + d * weight, rest)
      else readNumber bias rest (place + 36) (weight * (36 - t)) (sum + d * weight)

theorem readNumber_length {bias : Nat} {s : List Char} {place weight sum : Nat}
    {r : Nat × List Char} (h : readNumber bias s place weight sum = some r) :
    r.2.length < s.length := by
  induction s generalizing place weight sum with
  | nil => simp [readNumber] at h
  | cons c rest ih =>
    unfold readNumber at h
    split at h
    · cases h
    · dsimp only at h
      split at h
      · cases h
        simp
      · have := ih h
        simp only [List.length_cons]
        omega

def isScalar (n : Nat) : Bool := n < 0xD800 || (0xDFFF < n && n < 0x110000)

def decodeFrom (bias point position : Nat) (out : List Char) (s : List Char) :
    Option (List Char) :=
  match s with
  | [] => some out
  | c :: rest =>
    match h : readNumber bias (c :: rest) 36 1 position with
    | none => none
    | some (sum, tail) =>
      have : tail.length < (c :: rest).length := readNumber_length h
      let count := out.length + 1
      let point' := point + sum / count
      let place := sum % count
      if isScalar point' then
        decodeFrom (adapt (sum - position) count (position == 0)) point' (place + 1)
          (out.insertIdx place (Char.ofNat point')) tail
      else none
termination_by s.length
decreasing_by all_goals (simp only [List.length_cons] at *; omega)

/-- The label that is written behind the last hyphen and, plainly, before it. -/
def decode (s : List Char) : Option (List Char) :=
  let extended := (s.reverse.takeWhile (· ≠ '-')).reverse
  let basic := (s.reverse.dropWhile (· ≠ '-')).drop 1 |>.reverse
  if basic.all fun c => c.toNat < 0x80 then decodeFrom 72 0x80 0 basic extended else none

end WebCrawl.Unicode.Punycode
