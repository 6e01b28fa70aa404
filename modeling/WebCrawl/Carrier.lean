import WebCrawl.Request

/-!
# Carriers

A carrier is what processing one response yields: the data for the pipelines, under keys, and the
requests discovered on the page, in the order of their discovery.
-/

namespace WebCrawl

structure Carrier where
  request : Request
  fields : Dict Json
  discovered : List Request
  deriving Inhabited

namespace Carrier

def new (request : Request) : Carrier := ⟨request, .empty, []⟩

/-- Stores a field; the last write wins. -/
def put (c : Carrier) (key : String) (value : Json) : Carrier :=
  { c with fields := c.fields.insert key value }

def get? (c : Carrier) (key : String) : Option Json := c.fields.get? key

def containsKey (c : Carrier) (key : String) : Bool := c.fields.contains key

def size (c : Carrier) : Nat := c.fields.size

def isEmpty (c : Carrier) : Bool := c.fields.isEmpty

def addRequest (c : Carrier) (r : Request) : Carrier :=
  { c with discovered := c.discovered ++ [r] }

/-- The discovered requests, and the carrier without them. -/
def takeRequests (c : Carrier) : List Request × Carrier :=
  (c.discovered, { c with discovered := [] })

def fieldsJson (c : Carrier) : Json := .ofDict c.fields

end Carrier

end WebCrawl
