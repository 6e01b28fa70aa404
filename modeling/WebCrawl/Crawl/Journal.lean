import WebCrawl.Carrier
import WebCrawl.Frontier.Basic
import WebCrawl.Request

/-!
# The journal of a crawl

Everything a crawl does with its requests, and everything it says, in one list. Its log is the
notes in the journal; what became of each request can be read off the deeds.
-/

namespace WebCrawl

/-- One thing a crawl did. Components are named by their place in the order of registration. -/
inductive Deed where
  /-- A request was offered to the frontier. -/
  | pushed (r : Request) (admission : Admission)
  | polled (r : Request)
  /-- A failed request was given back to the frontier. -/
  | requeued (r : Request) (admission : Admission)
  | askedDownloader (index : Nat) (r : Request) (verdict : Bool)
  | downloaded (index : Nat) (r : Request) (result : Except DownloadError Response)
  /-- A response was put into the handoff queue. -/
  | handedOff (response : Response)
  /-- A response was taken from the handoff queue. -/
  | taken (response : Response)
  | askedProcessor (index : Nat) (response : Response) (verdict : Bool)
  | processed (index : Nat) (response : Response) (carrier : Carrier)
  | piped (index : Nat) (carrier : Carrier) (verdict : Bool)
  /-- All pipelines are done with a carrier. -/
  | completed (carrier : Carrier)
  /-- No processor wanted a response. -/
  | dropped (response : Response)
  /-- A component panicked while it worked on a request. -/
  | lost (r : Request)
  | closed (kind : ResourceKind) (index : Nat)

inductive Entry where
  | did (deed : Deed)
  | said (note : Note)

def Entry.deed? : Entry → Option Deed
  | .did deed => some deed
  | .said _ => none

def Entry.note? : Entry → Option Note
  | .said note => some note
  | .did _ => none

/-- The entries, newest first. -/
structure Journal where
  entries : List Entry

namespace Journal

def empty : Journal := ⟨[]⟩

def add (j : Journal) (e : Entry) : Journal := ⟨e :: j.entries⟩

def addNotes (j : Journal) (notes : List Note) : Journal :=
  notes.foldl (fun j n => j.add (.said n)) j

def notes (j : Journal) : List Note := j.entries.reverse.filterMap Entry.note?

def deeds (j : Journal) : List Deed := j.entries.reverse.filterMap Entry.deed?

@[simp] theorem deeds_add_did (j : Journal) (d : Deed) :
    (j.add (.did d)).deeds = j.deeds ++ [d] := by simp [deeds, add, Entry.deed?]

@[simp] theorem deeds_add_said (j : Journal) (n : Note) : (j.add (.said n)).deeds = j.deeds := by
  simp [deeds, add, Entry.deed?]

@[simp] theorem deeds_addNotes (j : Journal) (notes : List Note) :
    (j.addNotes notes).deeds = j.deeds := by
  induction notes generalizing j with
  | nil => rfl
  | cons n notes ih =>
    have h : j.addNotes (n :: notes) = (j.add (.said n)).addNotes notes := rfl
    rw [h, ih, deeds_add_said]

end Journal

end WebCrawl
