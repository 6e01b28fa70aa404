/-!
# IPv4 addresses in hosts

A host whose last part is a number is an IPv4 address or nothing. Each part may be decimal, octal
behind `0` or hexadecimal behind `0x`; the last part fills all bytes that the others leave.
-/

namespace WebCrawl.Ipv4

def digit? (base : Nat) (c : Char) : Option Nat :=
  let value :=
    if '0' ≤ c ∧ c ≤ '9' then some (c.toNat - '0'.toNat)
    else if 'a' ≤ c ∧ c ≤ 'f' then some (c.toNat - 'a'.toNat + 10)
    else if 'A' ≤ c ∧ c ≤ 'F' then some (c.toNat - 'A'.toNat + 10)
    else none
  value.filter (· < base)

def digitsValue? (base : Nat) (s : List Char) : Option Nat :=
  s.foldlM (fun n c => (digit? base c).map (n * base + ·)) 0

/-- The number a part denotes. A base without digits is zero. -/
def part? : List Char → Option Nat
  | [] => none
  | '0' :: 'x' :: digits => digitsValue? 16 digits
  | '0' :: 'X' :: digits => digitsValue? 16 digits
  | '0' :: c :: digits => digitsValue? 8 (c :: digits)
  | digits => digitsValue? 10 digits

/-- The parts between points; one point at the end is ignored. -/
def parts (host : List Char) : List (List Char) :=
  let all := host.splitOn '.'
  if all.length > 1 ∧ all.getLast? = some [] then all.dropLast else all

def endsInNumber (host : List Char) : Bool :=
  match (parts host).getLast? with
  | none => false
  | some last => (!last.isEmpty && last.all Char.isDigit) || (part? last).isSome

def parse? (host : List Char) : Option Nat := do
  let parts := parts host
  if parts.length > 4 then none
  let numbers ← parts.mapM part?
  let last ← numbers.getLast?
  let front := numbers.dropLast
  if front.any (255 < ·) then none
  if Nat.pow 256 (4 - front.length) ≤ last then none
  let head := front.foldl (fun n x => n * 256 + x) 0
  some (head * Nat.pow 256 (4 - front.length) + last)

def render (address : Nat) : String :=
  ".".intercalate ([3, 2, 1, 0].map fun i => toString (address / Nat.pow 256 i % 256))

example : parse? "0x7f.1".toList = some 0x7f000001 := by decide +kernel
example : parse? "1.2.3.256".toList = none := by decide +kernel

end WebCrawl.Ipv4
