import WebCrawl.Simulation.World

/-!
# Writing pipelines

Pipelines that write blocks into one of the sinks of a simulated world.
-/

namespace WebCrawl.Simulation

inductive Place where
  | writer (index : Nat)
  | file (index : Nat)
  | console
  deriving Repr, DecidableEq

namespace Place

/-- Lets a call loose on the sink at a place; at a place that is not there nothing happens. -/
def callSink {α : Type} (p : Place) (absent : α)
    (act : {W : Type} → [ByteSink W] → Act W α) : Act World α := fun view w =>
  match p with
  | .writer index =>
    match w.writers[index]? with
    | none => Act.pure absent view w
    | some s =>
      let call := act view s.sink
      { call with world := { w with writers := w.writers.set index { s with sink := call.world } } }
  | .file index =>
    match w.openFiles[index]? with
    | none => Act.pure absent view w
    | some opened =>
      let call := act view (⟨w.disk, opened⟩ : FileSink)
      let openFiles := w.openFiles.set index call.world.file
      { call with world := { w with disk := call.world.disk, openFiles } }
  | .console =>
    let call := act view (⟨w.console⟩ : Console)
    { call with world := { w with console := call.world.content } }

end Place

def writingPipeline (name : String) (place : Place) : Pipeline World where
  name
  process c := place.callSink true ((Pipeline.writing name).process c)
  close := place.callSink (.ok ()) (Pipeline.writing name).close

end WebCrawl.Simulation
