import WebCrawl.Json.Basic
import WebCrawl.Text.Utf8
import WebCrawl.Url.Parser

/-!
# Requests and responses

A request is one unit of crawl work: a target without fragment, a method, headers, an optional body
and free metadata. Its fingerprint is the written form of the target and nothing else, so requests
for one target that differ in method, headers or body count as duplicates.
-/

namespace WebCrawl

inductive Method where
  | get
  | head
  | post
  | put
  | delete
  | options
  | patch
  /-- A verb of another protocol. -/
  | other (verb : String)
  deriving Repr, DecidableEq, Inhabited

def Method.verb : Method → String
  | .get => "GET"
  | .head => "HEAD"
  | .post => "POST"
  | .put => "PUT"
  | .delete => "DELETE"
  | .options => "OPTIONS"
  | .patch => "PATCH"
  | .other verb => verb

structure Request where
  url : Url
  method : Method
  headers : Dict String
  body : Option String
  metadata : Dict Json
  deriving Inhabited

namespace Request

/-- A `GET` request; the fragment never reaches the remote side. -/
def ofUrl (url : Url) : Request := ⟨url.withoutFragment, .get, .empty, none, .empty⟩

def parse (text : String) : Except UrlError Request := (Url.parse text).map ofUrl

def withMethod (r : Request) (method : Method) : Request := { r with method }

def withHeader (r : Request) (key value : String) : Request :=
  { r with headers := r.headers.insert key value }

def withBody (r : Request) (body : String) : Request := { r with body := some body }

def withMetadata (r : Request) (key : String) (value : Json) : Request :=
  { r with metadata := r.metadata.insert key value }

def header? (r : Request) (key : String) : Option String := r.headers.get? key

def target (r : Request) : String := r.url.render

/-- The identity of a request for duplicate filters. -/
def fingerprint (r : Request) : String := r.target

def line (r : Request) : String := r.method.verb ++ " " ++ r.target

/-- Requests are equal when all their parts are; targets are compared as written. -/
instance : BEq Request where
  beq a b :=
    a.target == b.target && decide (a.method = b.method) && a.headers == b.headers &&
      a.body == b.body && a.metadata == b.metadata

@[simp] theorem fingerprint_withMethod (r : Request) (m : Method) :
    (r.withMethod m).fingerprint = r.fingerprint := rfl

@[simp] theorem fingerprint_withBody (r : Request) (b : String) :
    (r.withBody b).fingerprint = r.fingerprint := rfl

@[simp] theorem fingerprint_withHeader (r : Request) (k v : String) :
    (r.withHeader k v).fingerprint = r.fingerprint := rfl

@[simp] theorem fragment_ofUrl (u : Url) : (ofUrl u).url.fragment = none := rfl

end Request

/-! ## Responses

What a successful fetch brings back, together with the request it answers. Protocols without a
status use zero.
-/

structure Response where
  request : Request
  status : UInt16
  headers : Dict String
  body : List UInt8
  deriving Inhabited

namespace Response

def new (request : Request) (status : UInt16) (body : List UInt8) : Response :=
  ⟨request, status, .empty, body⟩

def withHeader (r : Response) (key value : String) : Response :=
  { r with headers := r.headers.insert key value }

def target (r : Response) : String := r.request.target

def isSuccess (r : Response) : Bool := r.status == 0 || (200 ≤ r.status && r.status < 300)

/-- The body as text; what is no UTF-8 becomes replacement characters. -/
def text (r : Response) : String := String.ofList (Utf8.decodeLossy r.body)

end Response

end WebCrawl
