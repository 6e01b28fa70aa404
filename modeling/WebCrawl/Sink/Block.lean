import WebCrawl.Carrier
import WebCrawl.Component
import WebCrawl.Json.Printer
import WebCrawl.Sink.Basic
import WebCrawl.Text.Utf8

/-!
# Blocks

Writers put a carrier down as a block of lines: the request, a rule, one line per field in the
order of the keys, and a closing rule. A string field is written as it is, every other value as
compact JSON. When the sink fails in the middle of a block the rest of the block is left out.
-/

namespace WebCrawl

namespace Block

def headerRule : String := String.ofList (List.replicate 35 '-')

def footerRule : String := String.ofList (List.replicate 35 '=')

def valueText : Json → String
  | .string s => s
  | v => v.render

def valuePieces : Json → List String
  | .string s => [s]
  | v => v.pieces

/-- A block with fields in the given order, in the chunks that reach the sink one by one. -/
def layout (r : Request) (fields : List (String × Json)) : List String :=
  [r.method.verb, " ", r.target, ":\n", headerRule, "\n"] ++
    fields.flatMap (fun f => [f.1, ": "] ++ valuePieces f.2 ++ ["\n"]) ++ [footerRule, "\n"]

def chunks (c : Carrier) : List String := layout c.request c.fields.entries

def text (c : Carrier) : String := String.join (chunks c)

def write {W : Type} [ByteSink W] (w : W) (c : Carrier) : Except IoError Unit × W :=
  writeChunks w ((chunks c).map Utf8.bytes)

end Block

/-- What a writer did with a carrier: the error to be reported, if any. The chain of pipelines goes
on in every case. -/
structure WriteOutcome where
  trouble : Option IoError
  goesOn : Bool
  deriving Repr, DecidableEq

def writeCarrier {W : Type} [ByteSink W] (w : W) (c : Carrier) : WriteOutcome × W :=
  match Block.write w c with
  | (.ok (), w) => (⟨none, true⟩, w)
  | (.error cause, w) => (⟨some cause, true⟩, w)

/-- A carrier whose block was cut short is reported, once. -/
def WriteOutcome.notes (o : WriteOutcome) (pipeline : String) (c : Carrier) : List Note :=
  match o.trouble with
  | none => []
  | some cause => [.writeFailed pipeline c.request.target cause]

/-- A pipeline that writes the block of every carrier into a sink, which is all of its world. A
write that fails is noted, and the carrier goes on in every case. -/
def Pipeline.writing {W : Type} [ByteSink W] (name : String) : Pipeline W where
  name
  process c := fun _ w =>
    let (outcome, w) := writeCarrier w c
    ⟨.returned outcome.goesOn, w, outcome.notes name c, 0⟩
  close := Act.ofFn fun w =>
    let (result, w) := ByteSink.flush w
    (result.mapError fun cause => ⟨[cause.message]⟩, w)

end WebCrawl
