import WebCrawl.Crawler.Basic

/-!
# Several callers of one crawler

Callers share a crawler. Each change is made under one lock: a caller takes the lock, checks the
lifecycle, makes the change and gives the lock up. Between these steps others may go on, and a crawl
that has begun goes on without the lock.
-/

namespace WebCrawl

/-- How far a caller is with its next change. -/
inductive Stage where
  | outside
  /-- Holds the lock. -/
  | holding
  /-- Holds the lock and has seen that the crawler initializes. -/
  | allowed
  deriving Repr, DecidableEq

structure Caller (S σ : Type) where
  /-- The changes that the caller still wants, the next one first. -/
  todo : List (Change S σ)
  stage : Stage

structure Answer (S σ : Type) where
  change : Change S σ
  result : Except CrawlError (Granted σ)

structure Desk (S σ : Type) where
  crawler : Crawler S σ
  callers : List (Caller S σ)
  /-- The answers in the order in which they were given. -/
  answers : List (Answer S σ)

inductive Turn (S : Type) where
  | caller (index : Nat)
  /-- The crawl under way, which leaves everything it works on in some state. -/
  | crawl (core : Core S)

namespace Desk

variable {S σ : Type}

def ofCrawler (c : Crawler S σ) (todos : List (List (Change S σ))) : Desk S σ :=
  ⟨c, todos.map fun todo => ⟨todo, .outside⟩, []⟩

def lockFree (d : Desk S σ) : Bool := d.callers.all fun c => c.stage == .outside

def setStage (d : Desk S σ) (index : Nat) (c : Caller S σ) (stage : Stage) : Desk S σ :=
  { d with callers := d.callers.set index { c with stage } }

/-- Answers a caller, who gives the lock up and goes over to its next change. -/
def answer (d : Desk S σ) (index : Nat) (ch : Change S σ) (rest : List (Change S σ))
    (result : Except CrawlError (Granted σ)) : Desk S σ :=
  { d with
    callers := d.callers.set index ⟨rest, .outside⟩
    answers := d.answers ++ [⟨ch, result⟩] }

variable [Frontier S]

def moveCaller (d : Desk S σ) (index : Nat) (c : Caller S σ) : Option (Desk S σ) :=
  match c.todo, c.stage with
  | [], _ => none
  | _ :: _, .outside => if d.lockFree then some (d.setStage index c .holding) else none
  | ch :: rest, .holding =>
    match d.crawler.phase.ensureInitializing ch.action with
    | .error e => some (d.answer index ch rest (.error (.illegalState e)))
    | .ok () => some (d.setStage index c .allowed)
  | ch :: rest, .allowed =>
    match ch.apply d.crawler with
    | .error e => some (d.answer index ch rest (.error e))
    | .ok (granted, crawler) => some ({ d with crawler }.answer index ch rest (.ok granted))

/-- One step of a caller or of the crawl, if it is possible. The crawl never goes back to the time
before it began. -/
def advance (d : Desk S σ) : Turn S → Option (Desk S σ)
  | .caller index => d.callers[index]?.bind fun c => d.moveCaller index c
  | .crawl core =>
    if d.crawler.phase.rank ≤ core.phase.rank ∧ d.crawler.phase = .running then
      some { d with crawler := { d.crawler with core } }
    else none

def advanceAll (d : Desk S σ) : List (Turn S) → Option (Desk S σ)
  | [] => some d
  | t :: rest => (d.advance t).bind fun d => d.advanceAll rest

end Desk

end WebCrawl
