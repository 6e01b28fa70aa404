import WebCrawl.Simulation.World

/-!
# Simulated sites

A site answers a request with the page at the path of the target: its links, one in a line. A page
may fail a number of times before it is served, or panic. An extractor reads the links of a page.
-/

namespace WebCrawl.Simulation

inductive FailKind where
  | io
  | status
  | flaky
  deriving Repr, DecidableEq, Inhabited

structure Page where
  links : List String
  status : UInt16
  /-- How often the page fails for each target. -/
  failures : Nat
  failKind : FailKind
  panics : Bool
  deriving Inhabited

structure Site where
  name : String
  scheme : Option String
  pathPrefix : Option String
  pages : Dict Page
  /-- The error of closing, outermost cause first; closing succeeds if there is none. -/
  closeError : List String
  /-- Supports everything, says nothing about it and has nothing to close. -/
  bare : Bool
  deriving Inhabited

/-- A close that is told to the world. -/
def closing (name : String) (causes : List String) (bare : Bool) :
    Act World (Except CloseError Unit) :=
  if bare then .pure (.ok ())
  else .ofFn fun w => (if causes.isEmpty then .ok () else .error ⟨causes⟩, w.emit s!"{name} closes")

namespace Page

def missing : Page := ⟨[], 404, 0, .flaky, false⟩

def failure (p : Page) (r : Request) : DownloadError :=
  match p.failKind with
  | .io => .io (.described "connection reset")
  | .status => .status 503 r.target
  | .flaky => .described s!"{r.url.path} is flaky"

def response (p : Page) (r : Request) : Response :=
  .new r p.status (Utf8.bytes ("\n".intercalate p.links))

end Page

namespace Site

def supports (s : Site) (r : Request) : Bool :=
  (s.scheme.all fun scheme => r.url.scheme == scheme) &&
    (s.pathPrefix.all fun pre => r.url.path.startsWith pre)

def page (s : Site) (r : Request) : Page := (s.pages.get? r.url.path).getD .missing

def download (s : Site) (number : Nat) (r : Request) : Act World (Except DownloadError Response) :=
  let page := s.page r
  if page.panics then
    .panic s!"download of {r.url.path}" fun w => w.emit s!"{s.name} panics {r.line}"
  else .ofFn fun w =>
    if w.failureCount number r.target < page.failures then
      let w := w.countFailure number r.target
      let k := w.failureCount number r.target
      (.error (page.failure r), w.emit s!"{s.name} fails {r.line} ({k})")
    else (.ok (page.response r), w.emit s!"{s.name} fetches {r.line}")

def downloader (s : Site) (number : Nat) : Downloader World where
  name := s.name
  supports r :=
    if s.bare then .pure true
    else
      let verdict := s.supports r
      .ofFn fun w => (verdict, w.emit s!"{s.name} supports {r.line} {verdict}")
  download r := s.download number r
  close := closing s.name s.closeError s.bare

end Site

structure Extractor where
  name : String
  pathPrefix : Option String
  /-- Whether a supported response is a success. -/
  success : Option Bool
  panicOn : List String
  /-- Fields that every carrier gets. -/
  fields : List (String × Json)
  deriving Inhabited

namespace Extractor

def supports (x : Extractor) (response : Response) : Bool :=
  (x.pathPrefix.all fun pre => response.request.url.path.startsWith pre) &&
    (x.success.all fun success => response.isSuccess == success)

/-- The lines of a text; an empty last one does not count. -/
def lines (text : String) : List String :=
  let parts := text.splitOn "\n"
  if parts.getLast? = some "" then parts.dropLast else parts

/-- What is on a page: its path, its status, the requests for its links and the errors of those that
are no links. -/
def extract (x : Extractor) (response : Response) : Carrier :=
  let links := (lines response.text).map Request.parse
  let requests := links.filterMap Except.toOption
  let errors := links.filterMap fun link =>
    match link with
    | .ok _ => none
    | .error e => some (CrawlError.url e).message
  let carrier := (Carrier.new response.request).put "page" (.string response.request.url.path)
  let carrier := carrier.put "status" (.int response.status.toNat)
  let carrier := requests.foldl Carrier.addRequest carrier
  let carrier := if errors.isEmpty then carrier else carrier.put "bad" (.strings errors)
  x.fields.foldl (fun c f => c.put f.1 f.2) carrier

def processor (x : Extractor) : Processor World where
  supports response :=
    let verdict := x.supports response
    .ofFn fun w => (verdict, w.emit s!"{x.name} supports {response.target} {verdict}")
  process response :=
    if x.panicOn.contains response.request.url.path then
      .panic s!"processing of {response.request.url.path}" fun w =>
        w.emit s!"{x.name} panics {response.target}"
    else .ofFn fun w => (x.extract response, w.emit s!"{x.name} processes {response.target}")

end Extractor

end WebCrawl.Simulation
