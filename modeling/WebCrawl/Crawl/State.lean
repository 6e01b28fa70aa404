import WebCrawl.Component
import WebCrawl.Crawl.Journal

/-!
# The state of a crawl

What both engines work on: the lifecycle, the frontier, the statistics, the stop requests not yet
taken, and the journal; during a run also the world of the components. The steps here are the ones
both engines share.
-/

namespace WebCrawl

structure Core (S : Type) where
  phase : Phase
  frontier : S
  stats : Statistics
  engine : Engine
  /-- Stop requests that wait to be taken. -/
  stops : Nat
  journal : Journal

namespace Core

variable {S : Type}

def new (engine : Engine) (frontier : S) : Core S :=
  ⟨.initializing, frontier, .zero, engine, 0, .empty⟩

def say (c : Core S) (n : Note) : Core S := { c with journal := c.journal.add (.said n) }

def sayAll (c : Core S) (notes : List Note) : Core S :=
  { c with journal := c.journal.addNotes notes }

def enter (c : Core S) (d : Deed) : Core S := { c with journal := c.journal.add (.did d) }

def tally (c : Core S) (count : Statistics → Statistics) : Core S :=
  { c with stats := count c.stats }

def view (c : Core S) : View := ⟨c.phase, c.stats, c.engine⟩

@[simp] theorem deeds_say (c : Core S) (n : Note) :
    (c.say n).journal.deeds = c.journal.deeds := by
  simp [say]

@[simp] theorem deeds_sayAll (c : Core S) (notes : List Note) :
    (c.sayAll notes).journal.deeds = c.journal.deeds := by
  simp [sayAll]

@[simp] theorem deeds_enter (c : Core S) (d : Deed) :
    (c.enter d).journal.deeds = c.journal.deeds ++ [d] := by
  simp [enter]

@[simp] theorem deeds_tally (c : Core S) (count : Statistics → Statistics) :
    (c.tally count).journal.deeds = c.journal.deeds := rfl

@[simp] theorem frontier_say (c : Core S) (n : Note) : (c.say n).frontier = c.frontier := rfl

@[simp] theorem frontier_sayAll (c : Core S) (notes : List Note) :
    (c.sayAll notes).frontier = c.frontier := rfl

@[simp] theorem frontier_enter (c : Core S) (d : Deed) : (c.enter d).frontier = c.frontier := rfl

@[simp] theorem frontier_tally (c : Core S) (count : Statistics → Statistics) :
    (c.tally count).frontier = c.frontier := rfl

@[simp] theorem stats_say (c : Core S) (n : Note) : (c.say n).stats = c.stats := rfl

@[simp] theorem stats_sayAll (c : Core S) (notes : List Note) :
    (c.sayAll notes).stats = c.stats := rfl

@[simp] theorem stats_enter (c : Core S) (d : Deed) : (c.enter d).stats = c.stats := rfl

@[simp] theorem stats_tally (c : Core S) (count : Statistics → Statistics) :
    (c.tally count).stats = count c.stats := rfl

@[simp] theorem phase_say (c : Core S) (n : Note) : (c.say n).phase = c.phase := rfl

@[simp] theorem phase_sayAll (c : Core S) (notes : List Note) :
    (c.sayAll notes).phase = c.phase := rfl

@[simp] theorem phase_enter (c : Core S) (d : Deed) : (c.enter d).phase = c.phase := rfl

@[simp] theorem phase_tally (c : Core S) (count : Statistics → Statistics) :
    (c.tally count).phase = c.phase := rfl

variable [Frontier S]

/-- Offers a request to the frontier and counts what became of it. -/
def push (c : Core S) (r : Request) : Admission × Core S :=
  let (a, frontier) := Frontier.push c.frontier r
  let c := { c with frontier }.sayAll (a.notes r)
  (a, (c.enter (.pushed r a)).tally (·.recordPush a.accepted))

/-- Offers requests in order; the answer is how many were accepted. -/
def pushAll (c : Core S) : List Request → Nat × Core S
  | [] => (0, c)
  | r :: rest =>
    let (a, c) := c.push r
    let (n, c) := pushAll c rest
    (n + a.accepted.toNat, c)

def pushDiscovered (c : Core S) (rs : List Request) : Nat × Core S :=
  let (n, c) := c.pushAll rs
  (n, if n = 0 then c else c.say (.discoveredPushed n))

def poll (c : Core S) : Option Request × Core S :=
  match Frontier.poll c.frontier with
  | (none, frontier) => (none, { c with frontier })
  | (some r, frontier) => (some r, { c with frontier }.enter (.polled r))

/-- Gives a failed request back for another attempt. -/
def requeue (c : Core S) (r : Request) : Core S :=
  let (a, frontier) := Frontier.requeue c.frontier r
  let c := ({ c with frontier }.sayAll (a.notes r)).enter (.requeued r a)
  if a.accepted then c else c.say .requeueRefused

theorem deeds_push (c : Core S) (r : Request) :
    (c.push r).2.journal.deeds = c.journal.deeds ++ [.pushed r (c.push r).1] := by
  simp [push, deeds_sayAll]

theorem frontier_push (c : Core S) (r : Request) :
    (c.push r).2.frontier = (Frontier.push c.frontier r).2 := by
  simp [push]

theorem fst_push (c : Core S) (r : Request) :
    (c.push r).1 = (Frontier.push c.frontier r).1 := rfl

theorem stats_push (c : Core S) (r : Request) :
    (c.push r).2.stats = c.stats.recordPush (c.push r).1.accepted := by
  simp [push]

theorem phase_push (c : Core S) (r : Request) : (c.push r).2.phase = c.phase := by
  simp [push]

@[simp] theorem phase_pushAll (c : Core S) (rs : List Request) :
    (c.pushAll rs).2.phase = c.phase := by
  induction rs generalizing c with
  | nil => rfl
  | cons r rs ih => exact (ih (c.push r).2).trans (c.phase_push r)

@[simp] theorem phase_pushDiscovered (c : Core S) (rs : List Request) :
    (c.pushDiscovered rs).2.phase = c.phase := by
  rw [← c.phase_pushAll rs]
  unfold pushDiscovered
  cases c.pushAll rs
  dsimp only
  split <;> rfl

@[simp] theorem phase_requeue (c : Core S) (r : Request) : (c.requeue r).phase = c.phase := by
  unfold requeue
  split
  dsimp only
  split <;> rfl

theorem frontier_requeue (c : Core S) (r : Request) :
    (c.requeue r).frontier = (Frontier.requeue c.frontier r).2 := by
  unfold requeue
  split
  simp_all
  split <;> simp

theorem stats_requeue (c : Core S) (r : Request) : (c.requeue r).stats = c.stats := by
  unfold requeue
  split
  simp_all
  split <;> simp

theorem deeds_requeue (c : Core S) (r : Request) :
    (c.requeue r).journal.deeds =
      c.journal.deeds ++ [.requeued r (Frontier.requeue c.frontier r).1] := by
  unfold requeue
  split
  simp_all
  split <;> simp [deeds_sayAll]

end Core

structure Run (S σ : Type) where
  core : Core S
  world : σ

namespace Run

variable {S σ α : Type}

def perform (run : Run S σ) (act : Act σ α) : Outcome α × Run S σ :=
  let call := act run.core.view run.world
  let core := run.core.sayAll call.notes
  (call.outcome, ⟨{ core with stops := core.stops + call.stops }, call.world⟩)

def update (run : Run S σ) (f : Core S → Core S) : Run S σ := { run with core := f run.core }

@[simp] theorem world_update (run : Run S σ) (f : Core S → Core S) :
    (run.update f).world = run.world := rfl

@[simp] theorem core_update (run : Run S σ) (f : Core S → Core S) :
    (run.update f).core = f run.core := rfl

@[simp] theorem frontier_perform (run : Run S σ) (act : Act σ α) :
    (run.perform act).2.core.frontier = run.core.frontier := rfl

@[simp] theorem stats_perform (run : Run S σ) (act : Act σ α) :
    (run.perform act).2.core.stats = run.core.stats := rfl

@[simp] theorem deeds_perform (run : Run S σ) (act : Act σ α) :
    (run.perform act).2.core.journal.deeds = run.core.journal.deeds :=
  Core.deeds_sayAll _ _

@[simp] theorem phase_perform (run : Run S σ) (act : Act σ α) :
    (run.perform act).2.core.phase = run.core.phase := rfl

@[simp] theorem world_perform (run : Run S σ) (act : Act σ α) :
    (run.perform act).2.world = (act run.core.view run.world).world := rfl

theorem outcome_perform (run : Run S σ) (act : Act σ α) :
    (run.perform act).1 = (act run.core.view run.world).outcome := rfl

end Run

end WebCrawl
