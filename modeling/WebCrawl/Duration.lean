/-!
# Durations
-/

namespace WebCrawl

/-- A span of time: whole seconds, and nanoseconds that make up less than a second. -/
structure Duration where
  secs : UInt64
  nanos : UInt32
  nanos_lt : nanos.toNat < 1000000000 := by decide
  deriving Repr, DecidableEq

namespace Duration

def nanosPerMilli : Nat := 1000000

def zero : Duration := ⟨0, 0, by decide⟩

instance : Inhabited Duration := ⟨zero⟩

def isZero (d : Duration) : Bool := d.secs == 0 && d.nanos == 0

def ofMillis (millis : UInt64) : Duration where
  secs := millis / 1000
  nanos := UInt32.ofNat (millis.toNat % 1000 * nanosPerMilli)
  nanos_lt := by
    have h : millis.toNat % 1000 < 1000 := Nat.mod_lt _ (by decide)
    rw [UInt32.toNat_ofNat_of_lt']
    · simp only [nanosPerMilli]; omega
    · simp only [nanosPerMilli, UInt32.size]; omega

/-- Whole milliseconds, of which 64 bits are kept. -/
def toMillis (d : Duration) : UInt64 :=
  UInt64.ofNat (d.secs.toNat * 1000 + d.nanos.toNat / nanosPerMilli)

/-- Nanoseconds beyond a second are carried over; `none` when the seconds leave 64 bits. -/
def new? (secs : UInt64) (nanos : UInt32) : Option Duration :=
  let total := secs.toNat + nanos.toNat / 1000000000
  if total < UInt64.size then
    some {
      secs := UInt64.ofNat total
      nanos := UInt32.ofNat (nanos.toNat % 1000000000)
      nanos_lt := by
        have h : nanos.toNat % 1000000000 < 1000000000 := Nat.mod_lt _ (by decide)
        rw [UInt32.toNat_ofNat_of_lt']
        · exact h
        · simp only [UInt32.size]; omega }
  else none

end Duration

end WebCrawl
