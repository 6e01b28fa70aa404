import WebCrawl.Frontier.Layered

/-!
# Frontiers in disguise

A frontier is in disguise if no operation tells it from another one: every answer is the same, and
what is left is again the other one in disguise. A frontier around whose outermost filter stands a
second filter just like it is in disguise, whatever has happened to it.
-/

namespace WebCrawl

namespace Frontier

variable {S T : Type} [Frontier S] [Frontier T]

/-- What the holder of a frontier may do with it. -/
inductive Use where
  | push (r : Request)
  | poll
  | requeue (r : Request)
  | size
  | isEmpty

inductive Found where
  | admitted (a : Admission)
  | handedOut (found : Option Request)
  | counted (n : Nat)
  | told (empty : Bool)

def use (s : S) : Use → Found × S
  | .push r =>
    let (a, s) := Frontier.push s r
    (.admitted a, s)
  | .poll =>
    let (found, s) := Frontier.poll s
    (.handedOut found, s)
  | .requeue r =>
    let (a, s) := Frontier.requeue s r
    (.admitted a, s)
  | .size => (.counted (Frontier.size s), s)
  | .isEmpty => (.told (Frontier.isEmpty s), s)

def useAll (s : S) : List Use → List Found × S
  | [] => ([], s)
  | u :: rest =>
    let (found, s) := use s u
    let (all, s) := useAll s rest
    (found :: all, s)

/-- No operation tells a frontier from what becomes of it. -/
structure Disguise (φ : S → T) : Prop where
  push : ∀ s r, Frontier.push (φ s) r = ((Frontier.push s r).1, φ (Frontier.push s r).2)
  poll : ∀ s, Frontier.poll (φ s) = ((Frontier.poll s).1, φ (Frontier.poll s).2)
  requeue : ∀ s r,
    Frontier.requeue (φ s) r = ((Frontier.requeue s r).1, φ (Frontier.requeue s r).2)
  size : ∀ s, Frontier.size (φ s) = Frontier.size s
  isEmpty : ∀ s, Frontier.isEmpty (φ s) = Frontier.isEmpty s

namespace Disguise

variable {φ : S → T}

theorem use (h : Disguise φ) (s : S) (u : Use) :
    Frontier.use (φ s) u = ((Frontier.use s u).1, φ (Frontier.use s u).2) := by
  cases u with
  | push r => simp only [Frontier.use, h.push]
  | poll => simp only [Frontier.use, h.poll]
  | requeue r => simp only [Frontier.use, h.requeue]
  | size => simp only [Frontier.use, h.size]
  | isEmpty => simp only [Frontier.use, h.isEmpty]

theorem useAll (h : Disguise φ) (s : S) (uses : List Use) :
    Frontier.useAll (φ s) uses = ((Frontier.useAll s uses).1, φ (Frontier.useAll s uses).2) := by
  induction uses generalizing s with
  | nil => rfl
  | cons u rest ih => simp only [Frontier.useAll, h.use, ih]

end Disguise

end Frontier

namespace Layered

variable {S : Type}

/-- The frontier with another filter like its outermost one around it. -/
def doubled (s : Layered S) : Layered S :=
  match s.layers with
  | [] => s
  | l :: _ => s.wrap l

theorem doubled_wrap (s : Layered S) (l : FilterLayer) :
    (s.wrap l).doubled = (s.wrap l).wrap l := rfl

@[simp] theorem base_doubled (s : Layered S) : s.doubled.base = s.base := by
  unfold doubled
  split <;> rfl

variable [Frontier S]

/-- Where the inner filter lets a request through, so does the outer one, since both have seen the
same; and both record it. -/
theorem push_doubled_wrap (s : Layered S) (l : FilterLayer) (r : Request) :
    Frontier.push (s.wrap l).doubled r =
      ((Frontier.push (s.wrap l) r).1, (Frontier.push (s.wrap l) r).2.doubled) := by
  cases new : l.isNew r with
  | false =>
    have inner : Frontier.push (s.wrap l) r = (.duplicate (l.identity r), s.wrap l) :=
      push_wrap_of_seen new
    rw [inner]
    exact push_wrap_of_seen new
  | true =>
    have inner : Frontier.push (s.wrap l) r =
        ((Frontier.push s r).1, (Frontier.push s r).2.wrap (l.record r)) := push_wrap_of_new new
    have outer : Frontier.push ((s.wrap l).wrap l) r =
        ((Frontier.push (s.wrap l) r).1, (Frontier.push (s.wrap l) r).2.wrap (l.record r)) :=
      push_wrap_of_new new
    rw [doubled_wrap, outer, inner]
    rfl

theorem disguise_doubled : Frontier.Disguise (doubled : Layered S → Layered S) where
  push s r := by
    obtain ⟨layers, base⟩ := s
    cases layers with
    | nil => rfl
    | cons l layers => exact push_doubled_wrap ⟨layers, base⟩ l r
  poll s := by
    obtain ⟨layers, base⟩ := s
    cases layers <;> rfl
  requeue s r := by
    obtain ⟨layers, base⟩ := s
    cases layers <;> rfl
  size s := by rw [size_eq, size_eq, base_doubled]
  isEmpty s := by rw [isEmpty_eq, isEmpty_eq, base_doubled]

end Layered

end WebCrawl
