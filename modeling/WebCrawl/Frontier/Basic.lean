import WebCrawl.Note
import WebCrawl.Request

/-!
# Frontiers

A frontier holds the requests that wait for their turn. A push tells what became of the request; a
poll hands one out and never waits. A request whose fetch failed is put back by `requeue`, which
duplicate filters let pass. Unless a frontier has its own way, what is put back is pushed, and it is
empty when its size is zero.
-/

namespace WebCrawl

inductive Admission where
  | queued
  /-- A filter has seen the identity before. -/
  | duplicate (identity : String)
  | refused
  deriving Repr, DecidableEq

namespace Admission

def accepted : Admission → Bool
  | .queued => true
  | _ => false

def notes (a : Admission) (r : Request) : List Note :=
  match a with
  | .queued => [.queueing r.target]
  | .duplicate identity => [.duplicateRejected identity]
  | .refused => []

@[simp] theorem accepted_queued : Admission.queued.accepted = true := rfl

@[simp] theorem accepted_duplicate (i : String) : (Admission.duplicate i).accepted = false := rfl

@[simp] theorem accepted_refused : Admission.refused.accepted = false := rfl

end Admission

class Frontier (S : Type) where
  push : S → Request → Admission × S
  poll : S → Option Request × S
  requeue : S → Request → Admission × S := push
  size : S → Nat
  isEmpty : S → Bool := fun s => size s == 0

namespace Frontier

variable {S : Type} [Frontier S]

def pushAll (s : S) : List Request → List Admission × S
  | [] => ([], s)
  | r :: rest =>
    let (a, s) := push s r
    let (as, s) := pushAll s rest
    (a :: as, s)

def pollUpTo : Nat → S → List Request × S
  | 0, s => ([], s)
  | n + 1, s =>
    match poll s with
    | (none, s) => ([], s)
    | (some r, s) =>
      let (rs, s) := pollUpTo n s
      (r :: rs, s)

/-- Everything that is pending, in the order of polls. -/
def drain (s : S) : List Request × S := pollUpTo (size s) s

end Frontier

end WebCrawl
