import WebCrawl.Crawl.State

/-!
# Work on a crawl

A piece of work changes a crawl and may be cut short by the panic of a component, which leaves the
crawl as it was at that moment. Also here: what is done once a crawl is over.
-/

namespace WebCrawl

/-- The message of a component that panicked. -/
structure Panic where
  message : String
  deriving Repr, DecidableEq

abbrev Working (S σ : Type) := ExceptT Panic (StateM (Run S σ))

namespace Working

variable {S σ α : Type}

def perform (act : Act σ α) : Working S σ α := fun run =>
  match run.perform act with
  | (.returned a, run) => (.ok a, run)
  | (.panicked message, run) => (.error ⟨message⟩, run)

def update (f : Core S → Core S) : Working S σ Unit := fun run => (.ok (), run.update f)

def say (n : Note) : Working S σ Unit := update (·.say n)

def enter (d : Deed) : Working S σ Unit := update (·.enter d)

def tally (count : Statistics → Statistics) : Working S σ Unit := update (·.tally count)

@[simp] theorem update_apply (f : Core S → Core S) (run : Run S σ) :
    (update f : Working S σ Unit) run = (.ok (), run.update f) := rfl

theorem perform_of_returned {act : Act σ α} {run run' : Run S σ} {a : α}
    (h : run.perform act = (.returned a, run')) :
    (perform act : Working S σ α) run = (.ok a, run') := by
  simp [perform, h]

theorem perform_of_panicked {act : Act σ α} {run run' : Run S σ} {message : String}
    (h : run.perform act = (.panicked message, run')) :
    (perform act : Working S σ α) run = (.error ⟨message⟩, run') := by
  simp [perform, h]

theorem bind_apply {β : Type} (x : Working S σ α) (k : α → Working S σ β) (run : Run S σ) :
    (x >>= k) run = ExceptT.bindCont k (x run).1 (x run).2 := rfl

theorem bind_of_ok {β : Type} {x : Working S σ α} {k : α → Working S σ β} {run run' : Run S σ}
    {a : α} (h : x run = (.ok a, run')) : (x >>= k) run = k a run' := by
  rw [bind_apply, h]
  rfl

theorem bind_of_error {β : Type} {x : Working S σ α} {k : α → Working S σ β} {run run' : Run S σ}
    {p : Panic} (h : x run = (.error p, run')) : (x >>= k) run = (.error p, run') := by
  rw [bind_apply, h]
  rfl

/-- Closes a resource; a failure is noted and nothing more. -/
def closeOne (kind : ResourceKind) (index : Nat) (name : String)
    (close : Act σ (Except CloseError Unit)) : Working S σ Unit := do
  let result ← perform close
  enter (.closed kind index)
  match result with
  | .ok () => say (.released kind name)
  | .error e => say (.releaseFailed kind name e)

def closeDownloaders : Nat → List (Downloader σ) → Working S σ Unit
  | _, [] => pure ()
  | index, d :: rest => do
    closeOne .downloader index d.name d.close
    closeDownloaders (index + 1) rest

def closePipelines : Nat → List (Pipeline σ) → Working S σ Unit
  | _, [] => pure ()
  | index, p :: rest => do
    closeOne .pipeline index p.name p.close
    closePipelines (index + 1) rest

/-- Releases the crew: every downloader, then every pipeline, whichever of them fail. -/
def release (crew : Crew σ) : Working S σ Unit := do
  closeDownloaders 0 crew.downloaders
  closePipelines 0 crew.pipelines

/-- Leaves the running phase and releases the crew. -/
def conclude (crew : Crew σ) : Working S σ Unit := do
  update fun c =>
    match c.phase.finish with
    | (.ok (), phase) => { c with phase }
    | (.error e, phase) => { c with phase }.say (.endedOutOfPhase e)
  say .releasing
  release crew
  say .finished

end Working

end WebCrawl
