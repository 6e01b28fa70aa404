import WebCrawl.Sink.Block

/-!
# Several callers of one writer

Callers write blocks into one sink, each block under the lock of the writer. The bytes of a block go
to the sink in many writes, and between two of them any other caller may make a step.
-/

namespace WebCrawl

structure Author where
  /-- The carriers still to be written, the next one first. -/
  todo : List Carrier
  /-- What is left of the block under way; the lock is held until it is written. -/
  chunks : Option (List (List UInt8))

structure SharedWriter (W : Type) where
  sink : W
  authors : List Author
  /-- How many blocks were cut short. -/
  troubles : Nat

namespace SharedWriter

variable {W : Type}

def ofSink (sink : W) (todos : List (List Carrier)) : SharedWriter W :=
  ⟨sink, todos.map fun todo => ⟨todo, none⟩, 0⟩

def lockFree (s : SharedWriter W) : Bool := s.authors.all fun a => a.chunks.isNone

def setAuthor (s : SharedWriter W) (index : Nat) (a : Author) : SharedWriter W :=
  { s with authors := s.authors.set index a }

variable [ByteSink W]

/-- One write of one author. A failure gives up the rest of the block. -/
def writeSome (s : SharedWriter W) (index : Nat) (a : Author) (bs : List UInt8)
    (rest : List (List UInt8)) : SharedWriter W :=
  let (reply, sink) := ByteSink.write s.sink bs
  let s := { s with sink }
  match reply with
  | .accepted 0 => { s with troubles := s.troubles + 1 }.setAuthor index { a with chunks := none }
  | .accepted n => s.setAuthor index { a with chunks := some (bs.drop n :: rest) }
  | .interrupted => s
  | .failed _ => { s with troubles := s.troubles + 1 }.setAuthor index { a with chunks := none }

/-- The next step of an author: taking the lock, one write, or giving the lock up. -/
def moveAuthor (s : SharedWriter W) (index : Nat) (a : Author) : Option (SharedWriter W) :=
  match a.chunks, a.todo with
  | none, [] => none
  | none, c :: rest =>
    if s.lockFree then
      some (s.setAuthor index ⟨rest, some ((Block.chunks c).map Utf8.bytes)⟩)
    else none
  | some [], _ => some (s.setAuthor index { a with chunks := none })
  | some ([] :: rest), _ => some (s.setAuthor index { a with chunks := some rest })
  | some ((b :: bs) :: rest), _ => some (s.writeSome index a (b :: bs) rest)

def advance (s : SharedWriter W) (index : Nat) : Option (SharedWriter W) :=
  s.authors[index]?.bind fun a => s.moveAuthor index a

def advanceAll (s : SharedWriter W) : List Nat → Option (SharedWriter W)
  | [] => some s
  | index :: rest => (s.advance index).bind fun s => s.advanceAll rest

end SharedWriter

end WebCrawl
