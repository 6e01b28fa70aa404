import WebCrawl.Frontier.Filter
import WebCrawl.Frontier.Queue

/-!
# Filter layers

A layered frontier puts duplicate filters around a base. A push passes the layers from the
outermost inwards: each records the identity of a request it has not seen, the first that has seen
it ends the push. Everything else goes straight to the base.
-/

namespace WebCrawl

structure FilterLayer where
  filter : Filter
  /-- What the layer takes two requests for the same by. -/
  identity : Request → String

namespace FilterLayer

def exact : FilterLayer := ⟨.exact .empty, Request.fingerprint⟩

def bloom (f : BloomFilter) : FilterLayer := ⟨.bloom f, Request.fingerprint⟩

def withIdentity (l : FilterLayer) (identity : Request → String) : FilterLayer :=
  { l with identity }

def isNew (l : FilterLayer) (r : Request) : Bool := l.filter.isNew (l.identity r)

def record (l : FilterLayer) (r : Request) : FilterLayer :=
  { l with filter := l.filter.record (l.identity r) }

@[simp] theorem identity_record (l : FilterLayer) (r : Request) :
    (l.record r).identity = l.identity := rfl

theorem isNew_record_self (l : FilterLayer) (r : Request) : (l.record r).isNew r = false :=
  l.filter.isNew_record_self (l.identity r)

theorem isNew_record_of_seen {l : FilterLayer} {r : Request} (seen : l.isNew r = false)
    (r' : Request) : (l.record r').isNew r = false :=
  Filter.isNew_record_of_seen seen (l.identity r')

end FilterLayer

/-- The layers, outermost first, and what they stand around. -/
structure Layered (S : Type) where
  layers : List FilterLayer
  base : S

namespace Layered

variable {S : Type} [Frontier S]

def bare (base : S) : Layered S := ⟨[], base⟩

def wrap (s : Layered S) (l : FilterLayer) : Layered S := { s with layers := l :: s.layers }

def pushThrough (r : Request) : List FilterLayer → S → Admission × List FilterLayer × S
  | [], base =>
    let (a, base) := Frontier.push base r
    (a, [], base)
  | l :: layers, base =>
    if l.isNew r then
      let (a, layers, base) := pushThrough r layers base
      (a, l.record r :: layers, base)
    else (.duplicate (l.identity r), l :: layers, base)

def push (s : Layered S) (r : Request) : Admission × Layered S :=
  let (a, layers, base) := pushThrough r s.layers s.base
  (a, ⟨layers, base⟩)

instance : Frontier (Layered S) where
  push := push
  poll s :=
    let (r, base) := Frontier.poll s.base
    (r, { s with base })
  requeue s r :=
    let (a, base) := Frontier.requeue s.base r
    (a, { s with base })
  size s := Frontier.size s.base
  isEmpty s := Frontier.isEmpty s.base

/-- A request that is given back passes every filter. -/
theorem requeue_eq (s : Layered S) (r : Request) :
    Frontier.requeue s r =
      ((Frontier.requeue s.base r).1, { s with base := (Frontier.requeue s.base r).2 }) := rfl

theorem poll_eq (s : Layered S) :
    Frontier.poll s = ((Frontier.poll s.base).1, { s with base := (Frontier.poll s.base).2 }) := rfl

@[simp] theorem size_eq (s : Layered S) : Frontier.size s = Frontier.size s.base := rfl

@[simp] theorem isEmpty_eq (s : Layered S) : Frontier.isEmpty s = Frontier.isEmpty s.base := rfl

/-- Pushes past the outermost filter, which records the identity nonetheless. -/
def force (s : Layered S) (r : Request) : Admission × Layered S :=
  match s.layers with
  | [] => s.push r
  | l :: layers =>
    let (a, inner) := push ⟨layers, s.base⟩ r
    (a, ⟨l.record r :: inner.layers, inner.base⟩)

def hasSeen (s : Layered S) (r : Request) : Bool :=
  match s.layers with
  | [] => false
  | l :: _ => !l.isNew r

def inner (s : Layered S) : Layered S := { s with layers := s.layers.tail }

@[simp] theorem push_bare (base : S) (r : Request) :
    (bare base).push r = ((Frontier.push base r).1, bare (Frontier.push base r).2) := rfl

theorem push_wrap_of_new {s : Layered S} {l : FilterLayer} {r : Request} (h : l.isNew r = true) :
    (s.wrap l).push r = ((s.push r).1, (s.push r).2.wrap (l.record r)) := by
  simp [push, wrap, pushThrough, h]

theorem push_wrap_of_seen {s : Layered S} {l : FilterLayer} {r : Request}
    (h : l.isNew r = false) :
    (s.wrap l).push r = (.duplicate (l.identity r), s.wrap l) := by
  simp [push, wrap, pushThrough, h]

end Layered

end WebCrawl
