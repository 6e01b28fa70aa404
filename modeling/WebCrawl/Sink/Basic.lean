import WebCrawl.Error

/-!
# Byte sinks

A sink takes some of the bytes it is given, is interrupted, or fails; it may recover later.
`writeAll` hands bytes to a sink until it has taken all of them, trying again after an interruption
and giving up at an error or when nothing is taken. A sink bounds the interruptions it can still
cause while the same bytes are tried again.
-/

namespace WebCrawl

inductive WriteReply where
  /-- The first `count` bytes were taken. -/
  | accepted (count : Nat)
  | interrupted
  | failed (cause : IoError)
  deriving Repr, DecidableEq

class ByteSink (W : Type) where
  write : W → List UInt8 → WriteReply × W
  flush : W → Except IoError Unit × W
  /-- The bytes are interrupted no more than this many times in a row. -/
  patience : W → List UInt8 → Nat
  patience_lt : ∀ {w w' : W} {bs : List UInt8},
    write w bs = (.interrupted, w') → patience w' bs < patience w bs

def writeAll {W : Type} [ByteSink W] (w : W) (bs : List UInt8) : Except IoError Unit × W :=
  match bs with
  | [] => (.ok (), w)
  | b :: rest =>
    match h : ByteSink.write w (b :: rest) with
    | (.accepted 0, w') => (.error .nothingWritten, w')
    | (.accepted (n + 1), w') => writeAll w' (rest.drop n)
    | (.interrupted, w') =>
      have : ByteSink.patience w' (b :: rest) < ByteSink.patience w (b :: rest) :=
        ByteSink.patience_lt h
      writeAll w' (b :: rest)
    | (.failed cause, w') => (.error cause, w')
termination_by (bs.length, ByteSink.patience w bs)
decreasing_by
  · apply Prod.Lex.left
    simp only [List.length_drop, List.length_cons]
    omega
  · apply Prod.Lex.right
    assumption

/-- Writes chunks in order, up to the first that fails. -/
def writeChunks {W : Type} [ByteSink W] (w : W) : List (List UInt8) → Except IoError Unit × W
  | [] => (.ok (), w)
  | chunk :: rest =>
    match writeAll w chunk with
    | (.ok (), w') => writeChunks w' rest
    | (.error cause, w') => (.error cause, w')

/-- A sink in memory. It takes `limit` bytes in all and then fails, or takes nothing. -/
structure MemorySink where
  content : List UInt8
  limit : Option Nat
  flushFails : Bool
  /-- A full sink takes nothing instead of failing. -/
  stalls : Bool
  deriving Repr, DecidableEq, Inhabited

namespace MemorySink

def diskFull : IoError := .described "disk full"

def unlimited : MemorySink := ⟨[], none, false, false⟩

def room (s : MemorySink) (n : Nat) : Nat :=
  match s.limit with
  | none => n
  | some limit => min n (limit - s.content.length)

def take (s : MemorySink) (bs : List UInt8) : WriteReply × MemorySink :=
  let n := s.room bs.length
  if n = 0 ∧ ¬s.stalls then (.failed diskFull, s)
  else (.accepted n, { s with content := s.content ++ bs.take n })

instance : ByteSink MemorySink where
  write := take
  flush s := (if s.flushFails then .error diskFull else .ok (), s)
  patience _ _ := 0
  patience_lt h := by
    exfalso
    unfold take at h
    dsimp only at h
    split at h <;> cases h

end MemorySink

end WebCrawl
