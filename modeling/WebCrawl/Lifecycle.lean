/-!
# The lifecycle of a crawler

A crawler is configured while it initializes, runs once, and ends. The lifecycle is one cell that is
read and changed in single atomic steps: a transition from the wrong phase is refused and leaves
the cell as it was.
-/

namespace WebCrawl

inductive Phase where
  | initializing
  | running
  | ended
  deriving Repr, DecidableEq, Inhabited

namespace Phase

def name : Phase → String
  | .initializing => "initializing"
  | .running => "running"
  | .ended => "ended"

def rank : Phase → Nat
  | .initializing => 0
  | .running => 1
  | .ended => 2

def hasStarted (p : Phase) : Bool := p != .initializing

end Phase

/-- A refused action: what was attempted, where it is allowed, and where the crawler is. -/
structure PhaseError where
  action : String
  expected : Phase
  actual : Phase
  deriving Repr, DecidableEq

namespace PhaseError

def message (e : PhaseError) : String :=
  s!"cannot {e.action}: crawler is {e.actual.name}, expected {e.expected.name}"

end PhaseError

namespace Phase

def ensure (p expected : Phase) (action : String) : Except PhaseError Unit :=
  if p = expected then .ok () else .error ⟨action, expected, p⟩

/-- The one atomic transition from `source` to `target`. -/
def transition (p source target : Phase) (action : String) : Except PhaseError Unit × Phase :=
  if p = source then (.ok (), target) else (.error ⟨action, source, p⟩, p)

def ensureInitializing (p : Phase) (action : String) : Except PhaseError Unit :=
  p.ensure .initializing action

def ensureRunning (p : Phase) (action : String) : Except PhaseError Unit :=
  p.ensure .running action

def begin (p : Phase) : Except PhaseError Unit × Phase :=
  p.transition .initializing .running "start the crawler"

def finish (p : Phase) : Except PhaseError Unit × Phase :=
  p.transition .running .ended "end the crawl"

@[simp] theorem transition_source (p target : Phase) (action : String) :
    p.transition p target action = (.ok (), target) := by
  simp [transition]

theorem transition_of_ne {p source : Phase} (h : p ≠ source) (target : Phase) (action : String) :
    p.transition source target action = (.error ⟨action, source, p⟩, p) := by
  simp [transition, h]

theorem rank_transition_le (p : Phase) {source target : Phase} (h : source.rank ≤ target.rank)
    (action : String) : p.rank ≤ (p.transition source target action).2.rank := by
  by_cases hp : p = source
  · subst hp
    simpa using h
  · simp [transition_of_ne hp]

theorem begin_initializing : begin .initializing = (.ok (), .running) := rfl

end Phase

/-- An access to the lifecycle cell by one of several callers. -/
inductive LifecycleAccess where
  | begin
  | finish
  | ensureInitializing (action : String)
  | ensureRunning (action : String)
  deriving Repr, DecidableEq

namespace LifecycleAccess

def perform (a : LifecycleAccess) (p : Phase) : Except PhaseError Unit × Phase :=
  match a with
  | .begin => p.begin
  | .finish => p.finish
  | .ensureInitializing action => (p.ensureInitializing action, p)
  | .ensureRunning action => (p.ensureRunning action, p)

theorem rank_perform_le (a : LifecycleAccess) (p : Phase) : p.rank ≤ (a.perform p).2.rank := by
  cases a with
  | begin => exact p.rank_transition_le (by decide) _
  | finish => exact p.rank_transition_le (by decide) _
  | ensureInitializing action => exact Nat.le_refl _
  | ensureRunning action => exact Nat.le_refl _

/-- Accesses one after the other, in whatever order the callers came: their results, and the phase
at the end. -/
def performAll : List LifecycleAccess → Phase → List (Except PhaseError Unit) × Phase
  | [], p => ([], p)
  | a :: rest, p =>
    let (result, p) := a.perform p
    let (results, p) := performAll rest p
    (result :: results, p)

def beginnersAmong (callers : Nat) (p : Phase) : Nat × Phase :=
  let (results, p) := performAll (List.replicate callers .begin) p
  ((results.filter fun r => match r with | .ok _ => true | .error _ => false).length, p)

end LifecycleAccess

end WebCrawl
