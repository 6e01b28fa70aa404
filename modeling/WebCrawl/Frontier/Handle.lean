import WebCrawl.Frontier.Layered

/-!
# Handles

A frontier together with what its holder may do besides pushing and polling. What a frontier is made
of decides which of its parts stay in sight; an operation that is out of reach answers `none`.
-/

namespace WebCrawl

structure Reach where
  /-- The outermost filter can be passed by and asked. -/
  layer : Bool
  /-- The filter's figures can be read. -/
  figures : Bool
  dump : Bool
  /-- The base is known to be a plain queue. -/
  queue : Bool
  deriving Repr, DecidableEq

namespace Reach

def none : Reach := ⟨false, false, false, false⟩

/-- A plain queue shows all of itself; any other base nothing. -/
def ofBase (s : Store) : Reach := { none with queue := s.isPlain }

/-- What is left after the outermost filter has been taken off. -/
def inner (r : Reach) : Reach := { none with queue := r.queue }

end Reach

structure Handle where
  frontier : Layered Store
  reach : Reach

namespace Handle

def push (h : Handle) (r : Request) : Admission × Handle :=
  let (a, frontier) := Frontier.push h.frontier r
  (a, { h with frontier })

def requeue (h : Handle) (r : Request) : Admission × Handle :=
  let (a, frontier) := Frontier.requeue h.frontier r
  (a, { h with frontier })

def poll (h : Handle) : Option Request × Handle :=
  let (r, frontier) := Frontier.poll h.frontier
  (r, { h with frontier })

def drain (h : Handle) : List Request × Handle :=
  let (rs, frontier) := Frontier.drain h.frontier
  (rs, { h with frontier })

def size (h : Handle) : Nat := Frontier.size h.frontier

def force? (h : Handle) (r : Request) : Option (Admission × Handle) :=
  if h.reach.layer then
    let (a, frontier) := h.frontier.force r
    some (a, { h with frontier })
  else none

def hasSeen? (h : Handle) (r : Request) : Option Bool :=
  if h.reach.layer then some (h.frontier.hasSeen r) else none

def innerSize? (h : Handle) : Option Nat :=
  if h.reach.layer then some (Frontier.size h.frontier.inner) else none

/-- Adds requests to a plain queue, without a word about them. -/
def extend? (h : Handle) (rs : List Request) : Option Handle :=
  if h.reach.queue && !h.reach.layer then
    let base := h.frontier.base
    some { h with frontier := { h.frontier with
      base := { base with queue := base.queue.extend rs } } }
  else none

def order? (h : Handle) : Option PollOrder :=
  if h.reach.queue then some h.frontier.base.queue.order else none

def filter? (h : Handle) : Option Filter :=
  if h.reach.figures then h.frontier.layers.head?.map FilterLayer.filter else none

def dump? (h : Handle) : Option String :=
  match h.reach.dump, h.frontier.layers with
  | true, ⟨.bloom f, _⟩ :: _ =>
    some (s!"FilterScheduler \x7b inner: {h.frontier.base.queue.emptyDump}, " ++
      s!"filter: {f.dump}, .. \x7d")
  | _, _ => none

def unwrap (h : Handle) : Handle :=
  if h.reach.layer then ⟨h.frontier.inner, h.reach.inner⟩ else h

end Handle

end WebCrawl
