import WebCrawl.Config.Basic
import WebCrawl.Crawl.State

/-!
# Crawlers

A crawler is configured while it initializes and is started once; the start hands its crew out.
Every change is checked against the lifecycle before it is made, so a refused one leaves the crawler
as it was.
-/

namespace WebCrawl

structure Crawler (S σ : Type) where
  core : Core S
  crew : Crew σ

namespace Crawler

variable {S σ : Type}

def sequential (frontier : S) : Crawler S σ := ⟨.new .sequential frontier, .empty⟩

def withDownloader (frontier : S) (d : Downloader σ) : Crawler S σ :=
  ⟨.new .sequential frontier, Crew.empty.withDownloader d⟩

def phase (c : Crawler S σ) : Phase := c.core.phase

def stats (c : Crawler S σ) : Statistics := c.core.stats

def poolSizes? (c : Crawler S σ) : Option PoolSizes :=
  match c.core.engine with
  | .sequential => none
  | .pooled sizes => some sizes

/-- A crawler with pools has room for one downloader only. -/
def checkRoom (c : Crawler S σ) : Except CrawlError Unit :=
  match c.core.engine, c.crew.downloaders with
  | .pooled _, d :: _ => .error (.configuration (.downloaderTaken d.name))
  | _, _ => .ok ()

def checkCrew (c : Crawler S σ) : Except CrawlError Unit :=
  match c.core.engine, c.crew.downloaders with
  | .pooled _, [] => .error (.configuration .noDownloader)
  | _, _ => .ok ()

/-- Enters the running phase and hands the crew out. -/
def begin (c : Crawler S σ) : Except CrawlError (Crew σ × Crawler S σ) :=
  match c.checkCrew, c.phase.begin with
  | .error e, _ => .error e
  | .ok (), (.error e, _) => .error (.illegalState e)
  | .ok (), (.ok (), phase) => .ok (c.crew, ⟨{ c.core with phase }, .empty⟩)

end Crawler

/-- What is done to a crawler before it runs; the start comes last. -/
inductive Change (S σ : Type) where
  | downloader (d : Downloader σ)
  | processor (p : Processor σ)
  | pipeline (p : Pipeline σ)
  /-- Pushes a request to begin with. -/
  | seed (r : Request)
  /-- Replaces the frontier; what was pending in the old one is gone. -/
  | frontier (f : S)
  | start

inductive Granted (σ : Type) where
  | done
  /-- Whether the frontier accepted the seed. -/
  | admitted (accepted : Bool)
  | begun (crew : Crew σ)

def Granted.crew {σ : Type} : Granted σ → Crew σ
  | .begun crew => crew
  | _ => .empty

namespace Change

variable {S σ : Type}

/-- The words in which a refusal names the change. -/
def action : Change S σ → String
  | .downloader _ => "add a downloader"
  | .processor _ => "add a processor"
  | .pipeline _ => "add a pipeline"
  | .seed _ => "add a start request"
  | .frontier _ => "replace the scheduler"
  | .start => "start the crawler"

/-- Makes the change to a crawler that is known to be initializing. -/
def apply [Frontier S] (c : Crawler S σ) :
    Change S σ → Except CrawlError (Granted σ × Crawler S σ)
  | .downloader d =>
    c.checkRoom.map fun _ => (.done, { c with crew := c.crew.withDownloader d })
  | .processor p => .ok (.done, { c with crew := c.crew.withProcessor p })
  | .pipeline p => .ok (.done, { c with crew := c.crew.withPipeline p })
  | .seed r =>
    let (a, core) := c.core.push r
    .ok (.admitted a.accepted, { c with core })
  | .frontier f => .ok (.done, { c with core := { c.core with frontier := f } })
  | .start => c.begin.map fun (crew, c) => (.begun crew, c)

end Change

namespace Crawler

variable {S σ : Type} [Frontier S]

/-- Makes a change, if the crawler is still initializing; otherwise nothing happens to it. -/
def change (c : Crawler S σ) (ch : Change S σ) : Except CrawlError (Granted σ) × Crawler S σ :=
  match c.phase.ensureInitializing ch.action with
  | .error e => (.error (.illegalState e), c)
  | .ok () =>
    match ch.apply c with
    | .error e => (.error e, c)
    | .ok (granted, c) => (.ok granted, c)

def changed (c : Crawler S σ) (ch : Change S σ) : Except CrawlError (Crawler S σ) :=
  match c.change ch with
  | (.ok _, c) => .ok c
  | (.error e, _) => .error e

/-- Makes changes in order, up to the first that is refused. -/
def changeAll (c : Crawler S σ) : List (Change S σ) → Except CrawlError (Crawler S σ)
  | [] => .ok c
  | ch :: rest => (c.changed ch).bind fun c => changeAll c rest

/-- A crawler with pools of workers and no downloader yet. -/
def unconfigured (frontier : S) (sizes : PoolSizes) : Crawler S σ :=
  ⟨.new (.pooled sizes) frontier, .empty⟩

def checkSizes (sizes : PoolSizes) : Except ConfigIssue Unit :=
  if sizes.fetchers = 0 then .error .noFetchWorkers
  else if sizes.processors = 0 then .error .noProcessWorkers
  else if sizes.wait.isZero then .error .zeroWait
  else .ok ()

def pooled (frontier : S) (d : Downloader σ) (sizes : PoolSizes) :
    Except CrawlError (Crawler S σ) :=
  match checkSizes sizes with
  | .error issue => .error (.configuration issue)
  | .ok () => (unconfigured frontier sizes).changed (.downloader d)

def defaultSizes : PoolSizes :=
  ⟨Config.default.fetchWorkers, Config.default.processWorkers, Config.default.waitInterval⟩

/-- Requests the end of the crawl; a crawler without pools takes no such request. -/
def stop (c : Crawler S σ) : Crawler S σ :=
  match c.core.engine with
  | .sequential => c
  | .pooled _ => { c with core := { c.core with stops := c.core.stops + 1 } }

def stopNotesAfterEnd (c : Crawler S σ) : List Note :=
  match c.core.engine with
  | .sequential => []
  | .pooled _ => [.crawlerGone]

theorem change_of_ne {c : Crawler S σ} (h : c.phase ≠ .initializing) (ch : Change S σ) :
    c.change ch = (.error (.illegalState ⟨ch.action, .initializing, c.phase⟩), c) := by
  simp [change, Phase.ensureInitializing, Phase.ensure, h]

theorem snd_change_of_error {c c' : Crawler S σ} {ch : Change S σ} {e : CrawlError}
    (h : c.change ch = (.error e, c')) : c' = c := by
  unfold change at h
  split at h
  · exact (Prod.mk.inj h).2.symm
  · split at h
    · exact (Prod.mk.inj h).2.symm
    · cases h

end Crawler

end WebCrawl
