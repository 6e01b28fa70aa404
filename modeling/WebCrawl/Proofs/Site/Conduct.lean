import Mathlib.Logic.Function.Basic
import WebCrawl.Component

/-!
# Crews that go by the fingerprint

A conduct says of every fingerprint what a crew makes of a request for it: who downloads it and how
often that fails at first, who processes the response and what the carrier says, which requests are
discovered and what the pipelines think of the carrier. A crew follows a conduct if none of its
calls panics and each gives the answer that the conduct says, in whatever state the crawl is.
-/

namespace WebCrawl

structure Conduct where
  /-- The first downloader that supports the request. -/
  downloader : String → Option Nat
  /-- How often the download fails before it succeeds. -/
  failures : String → Nat
  status : String → UInt16
  /-- The first processor that supports the response. -/
  processor : String → Option Nat
  /-- What the carrier is about. -/
  subject : String → String
  fields : String → Dict Json
  /-- The fingerprints of the discovered requests, in order and with repetitions. -/
  links : String → List String
  /-- The number of pipelines. -/
  stages : Nat
  /-- Whether the pipeline with the given index lets the carrier pass. -/
  passes : Nat → String → Bool

namespace Conduct

/-- What a crawl from the seeds can come to: links count where the page is fetched and processed. -/
inductive Reachable (b : Conduct) (seeds : List String) : String → Prop where
  | seed {u : String} (h : u ∈ seeds) : Reachable b seeds u
  | link {u v : String} (page : Reachable b seeds u) (supported : (b.downloader u).isSome = true)
      (processed : (b.processor u).isSome = true) (h : v ∈ b.links u) : Reachable b seeds v

end Conduct

/-- How the world of the components and their values are read. Requests are known by their
fingerprints, but responses and carriers need not tell which request they come from. -/
structure Reading (σ : Type) where
  /-- In this world the downloads of each fingerprint will still fail so often. -/
  left : (String → Nat) → σ → Prop
  /-- A response to a request with this fingerprint. -/
  answers : String → Response → Prop
  /-- A carrier made of such a response. -/
  yields : String → Carrier → Prop

variable {σ α : Type}

/-- The call returns a value with the property and uses up no failure. -/
def Reading.Steady (rd : Reading σ) (act : Act σ α) (good : α → Prop) : Prop :=
  ∀ view world left, rd.left left world →
    ∃ a, (act view world).outcome = .returned a ∧ good a ∧ rd.left left (act view world).world

/-- The downloads of the request fail as often as the conduct says and then succeed. -/
structure Downloader.Fetches (d : Downloader σ) (b : Conduct) (rd : Reading σ)
    (r : Request) : Prop where
  fails : ∀ view world left, rd.left left world → left r.fingerprint ≠ 0 →
    ∃ cause, (d.download r view world).outcome = .returned (.error cause) ∧
      rd.left (Function.update left r.fingerprint (left r.fingerprint - 1))
        (d.download r view world).world
  succeeds : ∀ view world left, rd.left left world → left r.fingerprint = 0 →
    ∃ response, (d.download r view world).outcome = .returned (.ok response) ∧
      rd.answers r.fingerprint response ∧ response.status = b.status r.fingerprint ∧
      rd.left left (d.download r view world).world

/-- The carrier is the one that the conduct says. -/
structure Carrier.Tells (c : Carrier) (b : Conduct) (rd : Reading σ) (u : String) : Prop where
  yields : rd.yields u c
  subject : c.request.fingerprint = b.subject u
  fields : c.fields = b.fields u

/-- Every call that the crew gets in a crawl goes by the conduct. Nothing is said of components that
come after the first one to say yes. -/
structure Crew.Follows (crew : Crew σ) (b : Conduct) (rd : Reading σ) : Prop where
  downloader_lt : ∀ u k, b.downloader u = some k → k < crew.downloaders.length
  downloader_supports : ∀ (r : Request) (i : Nat) (d : Downloader σ),
    crew.downloaders[i]? = some d → (∀ k, b.downloader r.fingerprint = some k → i ≤ k) →
      rd.Steady (d.supports r) (· = decide (b.downloader r.fingerprint = some i))
  fetches : ∀ (r : Request) (k : Nat) (d : Downloader σ),
    crew.downloaders[k]? = some d → b.downloader r.fingerprint = some k → d.Fetches b rd r
  processor_lt : ∀ u k, b.processor u = some k → k < crew.processors.length
  processor_supports : ∀ (u : String) (response : Response) (i : Nat) (p : Processor σ),
    rd.answers u response → crew.processors[i]? = some p →
      (∀ k, b.processor u = some k → i ≤ k) →
        rd.Steady (p.supports response) (· = decide (b.processor u = some i))
  processes : ∀ (u : String) (response : Response) (k : Nat) (p : Processor σ),
    rd.answers u response → crew.processors[k]? = some p → b.processor u = some k →
      rd.Steady (p.process response) fun c =>
        c.Tells b rd u ∧ c.discovered.map Request.fingerprint = b.links u
  stages : crew.pipelines.length = b.stages
  pipes : ∀ (u : String) (c : Carrier) (k : Nat) (p : Pipeline σ),
    rd.yields u c → crew.pipelines[k]? = some p → rd.Steady (p.process c) (· = b.passes k u)
  downloaders_close : ∀ d ∈ crew.downloaders, rd.Steady d.close fun _ => True
  pipelines_close : ∀ p ∈ crew.pipelines, rd.Steady p.close fun _ => True

end WebCrawl
