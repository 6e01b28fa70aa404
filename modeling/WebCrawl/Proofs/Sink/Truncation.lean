import WebCrawl.Proofs.Sink.Taken
import WebCrawl.Proofs.Text.Utf8
import WebCrawl.Sink.Block

/-!
# Writers on sinks that fail

Whatever a sink does, a writer answers every carrier in the same way and leaves in the sink a prefix
of its block; the block is cut short exactly when an error is noted. A sink with room for so many
bytes ends up with these first bytes of all blocks.
-/

namespace WebCrawl.Writer

open ByteSink (HasRoom)

/-- What became of one carrier. -/
structure Attempt where
  carrier : Carrier
  outcome : Outcome Bool
  notes : List Note
  /-- The bytes the sink took meanwhile. -/
  piece : List UInt8

namespace Attempt

def block (a : Attempt) : List UInt8 := Utf8.bytes (Block.text a.carrier)

def errors (a : Attempt) : List Note := a.notes.filter fun n => n.level = .error

end Attempt

theorem flatten_chunks (c : Carrier) :
    ((Block.chunks c).map Utf8.bytes).flatten = Utf8.bytes (Block.text c) := by
  rw [Block.text, Utf8.bytes_join, List.flatMap_def]

variable {W : Type} [ByteSink W]

/-- What becomes of carriers that are handed to a writer one after the other. -/
def attempts (name : String) (view : View) (s : Recording W) : List Carrier → List Attempt
  | [] => []
  | c :: cs =>
    let call := (Pipeline.writing name).process c view s
    ⟨c, call.outcome, call.notes, call.world.taken.drop s.taken.length⟩ ::
      attempts name view call.world cs

/-- The sink when a writer has been handed all of the carriers. -/
def sinkAfter (name : String) (view : View) (s : Recording W) : List Carrier → Recording W
  | [] => s
  | c :: cs => sinkAfter name view ((Pipeline.writing name).process c view s).world cs

/-! ## One carrier -/

theorem process_eq (name : String) (view : View) (w : W) (c : Carrier) :
    (Pipeline.writing name).process c view w =
      let result := writeChunks w ((Block.chunks c).map Utf8.bytes)
      ⟨.returned true, result.2,
        match result.1 with
        | .ok () => []
        | .error cause => [.writeFailed name c.request.target cause], 0⟩ := by
  simp only [Pipeline.writing, writeCarrier, Block.write]
  rcases writeChunks w ((Block.chunks c).map Utf8.bytes) with ⟨_ | _, w'⟩ <;> rfl

theorem process_truncates (name : String) (view : View) (s : Recording W) (c : Carrier) :
    let call := (Pipeline.writing name).process c view s
    call.outcome = .returned true ∧
      ∃ piece, call.world.taken = s.taken ++ piece ∧ piece <+: Utf8.bytes (Block.text c) ∧
        (piece = Utf8.bytes (Block.text c) ∧ call.notes = [] ∨
          piece ≠ Utf8.bytes (Block.text c) ∧
            ∃ cause, call.notes = [.writeFailed name c.request.target cause]) := by
  obtain ⟨piece, taken, starts, whole⟩ :=
    (writeChunks_delivery s ((Block.chunks c).map Utf8.bytes)).spec
  rw [flatten_chunks] at starts whole
  rw [process_eq]
  refine ⟨rfl, piece, taken, starts, ?_⟩
  dsimp only
  cases result : (writeChunks s ((Block.chunks c).map Utf8.bytes)).1 with
  | ok done => exact .inl ⟨whole.mpr result, rfl⟩
  | error cause =>
    exact .inr ⟨fun all => absurd (result.symm.trans (whole.mp all)) nofun, cause, rfl⟩

theorem process_filled (name : String) (view : View) {s : Recording W} {n : Nat} (c : Carrier)
    (room : HasRoom s.sink n) :
    let call := (Pipeline.writing name).process c view s
    call.world.taken = s.taken ++ (Utf8.bytes (Block.text c)).take n ∧
      HasRoom call.world.sink (n - (Utf8.bytes (Block.text c)).length) := by
  obtain ⟨taken, room, -⟩ := writeChunks_filled s ((Block.chunks c).map Utf8.bytes) room
  rw [flatten_chunks] at taken room
  rw [process_eq]
  exact ⟨taken, room⟩

/-! ## All carriers -/

theorem carriers_attempts (name : String) (view : View) (s : Recording W) (cs : List Carrier) :
    (attempts name view s cs).map Attempt.carrier = cs := by
  induction cs generalizing s with
  | nil => rfl
  | cons c cs ih => exact congrArg (c :: ·) (ih _)

theorem attempts_truncate (name : String) (view : View) (s : Recording W) (cs : List Carrier) :
    (∀ a ∈ attempts name view s cs, a.outcome = .returned true ∧ a.piece <+: a.block ∧
        (a.piece = a.block ↔ a.errors = []) ∧
        (a.piece ≠ a.block →
          ∃ cause, a.errors = [.writeFailed name a.carrier.request.target cause])) ∧
      (sinkAfter name view s cs).taken =
        s.taken ++ (attempts name view s cs).flatMap Attempt.piece := by
  induction cs generalizing s with
  | nil => exact ⟨fun _ mem => absurd mem List.not_mem_nil, (List.append_nil _).symm⟩
  | cons c cs ih =>
    obtain ⟨returns, piece, taken, starts, told⟩ := process_truncates name view s c
    rw [attempts, sinkAfter]
    generalize (Pipeline.writing name).process c view s = call at returns taken told ⊢
    obtain ⟨later, all⟩ := ih call.world
    have mine : call.world.taken.drop s.taken.length = piece := by rw [taken, List.drop_left]
    refine ⟨List.forall_mem_cons.mpr ⟨?_, later⟩, ?_⟩
    · rw [mine]
      rcases told with ⟨whole, notes⟩ | ⟨cut, cause, notes⟩
      · rw [notes]
        exact ⟨returns, starts, iff_of_true whole rfl, fun other => absurd whole other⟩
      · rw [notes]
        exact ⟨returns, starts, iff_of_false cut nofun, fun _ => ⟨cause, rfl⟩⟩
    · rw [all, List.flatMap_cons, mine, taken, List.append_assoc]

theorem sinkAfter_filled (name : String) (view : View) {s : Recording W} {n : Nat}
    (cs : List Carrier) (room : HasRoom s.sink n) :
    (sinkAfter name view s cs).taken =
      s.taken ++ (cs.flatMap fun c => Utf8.bytes (Block.text c)).take n := by
  induction cs generalizing s n with
  | nil => simp [sinkAfter]
  | cons c cs ih =>
    obtain ⟨taken, room⟩ := process_filled name view c room
    rw [sinkAfter, ih room, taken, List.flatMap_cons, List.append_assoc, List.take_append]

/-- A writer answers every carrier with yes, and what its sink takes is made of one prefix of the
block of each carrier. An error is noted for a carrier exactly when its block was cut short, and
then just one. A sink with room for `n` bytes takes the first `n` bytes of the blocks. -/
theorem truncates_blocks (name : String) (view : View) (w : W) (cs : List Carrier) :
    let run := attempts name view (.fresh w) cs
    let taken := (sinkAfter name view (.fresh w) cs).taken
    run.map Attempt.carrier = cs ∧
      (∀ a ∈ run, a.outcome = .returned true ∧ a.piece <+: a.block ∧
        (a.piece = a.block ↔ a.errors = []) ∧
        (a.piece ≠ a.block →
          ∃ cause, a.errors = [.writeFailed name a.carrier.request.target cause])) ∧
      taken = run.flatMap Attempt.piece ∧
      ∀ n, HasRoom w n → taken = (cs.flatMap fun c => Utf8.bytes (Block.text c)).take n := by
  obtain ⟨each, all⟩ := attempts_truncate name view (.fresh w) cs
  have carriers := carriers_attempts name view (.fresh w) cs
  exact ⟨carriers, each, all, fun n room => sinkAfter_filled name view cs room⟩

/-- A memory with room for forty bytes is full in the middle of the first rule. -/
theorem truncates_blocks_at_forty :
    let page : Carrier := .new (.ofUrl ⟨"https", some ⟨"", none, some (.name "a.example"), none⟩,
      "/", none, none⟩)
    HasRoom (⟨[], some 40, false, true⟩ : MemorySink) 40 ∧
      (sinkAfter "writer" default (.fresh (⟨[], some 40, false, true⟩ : MemorySink))
        [page, page]).taken = Utf8.bytes "GET https://a.example/:\n----------------" := by
  intro page
  have room := MemorySink.hasRoom ⟨[], some 40, false, true⟩ rfl
  obtain ⟨-, -, -, fills⟩ :=
    truncates_blocks "writer" default (⟨[], some 40, false, true⟩ : MemorySink) [page, page]
  exact ⟨room, (fills 40 room).trans (by decide)⟩

end WebCrawl.Writer
