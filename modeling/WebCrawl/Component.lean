import WebCrawl.Carrier
import WebCrawl.Duration
import WebCrawl.Note
import WebCrawl.Request
import WebCrawl.Statistics

/-!
# Components

A crawler is made of components that are given to it: downloaders fetch requests, processors turn
responses into carriers, pipelines take the carriers in. Components may keep state. All of them act
on one world, which a call reads and changes; a call may also fail, panic, say something, and ask
for the crawl to be stopped.
-/

namespace WebCrawl

/-- The sizes of the two pools of workers, and the time between two checks for the end. -/
structure PoolSizes where
  fetchers : UInt64
  processors : UInt64
  wait : Duration
  deriving Repr, DecidableEq, Inhabited

/-- How a crawler runs: one request at a time, or with two pools of workers. -/
inductive Engine where
  | sequential
  | pooled (sizes : PoolSizes)
  deriving Repr, DecidableEq, Inhabited

/-- What a component can see of the crawler it works for. -/
structure View where
  phase : Phase
  stats : Statistics
  engine : Engine
  deriving Repr, DecidableEq, Inhabited

/-- How a call ended. -/
inductive Outcome (α : Type) where
  | returned (value : α)
  | panicked (message : String)
  deriving Repr, DecidableEq

/-- All that one call of a component does. -/
structure Call (σ α : Type) where
  outcome : Outcome α
  world : σ
  notes : List Note
  /-- How often a stop was requested. -/
  stops : Nat

/-- What a component does when it is called. -/
abbrev Act (σ α : Type) := View → σ → Call σ α

namespace Act

variable {σ α : Type}

def ofFn (f : σ → α × σ) : Act σ α := fun _ w =>
  let (a, w) := f w
  ⟨.returned a, w, [], 0⟩

def pure (a : α) : Act σ α := ofFn fun w => (a, w)

def panic (message : String) (f : σ → σ) : Act σ α := fun _ w => ⟨.panicked message, f w, [], 0⟩

end Act

structure Downloader (σ : Type) where
  name : String
  supports : Request → Act σ Bool
  download : Request → Act σ (Except DownloadError Response)
  /-- Called once, when the crawl has ended. -/
  close : Act σ (Except CloseError Unit)

structure Processor (σ : Type) where
  supports : Response → Act σ Bool
  process : Response → Act σ Carrier

structure Pipeline (σ : Type) where
  name : String
  /-- Takes a carrier in; the answer says whether it goes on to the next pipeline. -/
  process : Carrier → Act σ Bool
  /-- Called once, when the crawl has ended. -/
  close : Act σ (Except CloseError Unit)

/-- The components of a crawler, in the order of their registration. -/
structure Crew (σ : Type) where
  downloaders : List (Downloader σ)
  processors : List (Processor σ)
  pipelines : List (Pipeline σ)

namespace Crew

variable {σ : Type}

def empty : Crew σ := ⟨[], [], []⟩

def withDownloader (c : Crew σ) (d : Downloader σ) : Crew σ :=
  { c with downloaders := c.downloaders ++ [d] }

def withProcessor (c : Crew σ) (p : Processor σ) : Crew σ :=
  { c with processors := c.processors ++ [p] }

def withPipeline (c : Crew σ) (p : Pipeline σ) : Crew σ :=
  { c with pipelines := c.pipelines ++ [p] }

end Crew

end WebCrawl
