import WebCrawl.Lifecycle

/-!
# Callers that race for the lifecycle

The phase is kept as one byte in a cell that is shared without a lock. Whatever is asked of the
lifecycle loads the byte once, or exchanges it once if it is the expected one; everything else is
done with the byte that was found. Any number of callers do this, each with calls of its own, in
turns of any order, and every access to the cell is put on record.
-/

namespace WebCrawl

namespace Phase

def code : Phase → UInt8
  | .initializing => 0
  | .running => 1
  | .ended => 2

def ofCode : UInt8 → Phase
  | 0 => .initializing
  | 1 => .running
  | _ => .ended

end Phase

structure LifecycleCell where
  raw : UInt8
  deriving Repr, DecidableEq

namespace LifecycleCell

def of (p : Phase) : LifecycleCell := ⟨p.code⟩

def new : LifecycleCell := of .initializing

def load (c : LifecycleCell) : UInt8 := c.raw

/-- Puts `target` in the place of `source`. Any other byte stays, and is given back as a failure. -/
def compareExchange (c : LifecycleCell) (source target : UInt8) :
    Except UInt8 UInt8 × LifecycleCell :=
  if c.raw = source then (.ok c.raw, ⟨target⟩) else (.error c.raw, c)

def current (c : LifecycleCell) : Phase := .ofCode c.load

def hasStarted (c : LifecycleCell) : Bool := c.current != .initializing

def ensure (c : LifecycleCell) (expected : Phase) (action : String) : Except PhaseError Unit :=
  let actual := c.current
  if actual = expected then .ok () else .error ⟨action, expected, actual⟩

def transition (c : LifecycleCell) (source target : Phase) (action : String) :
    Except PhaseError Unit × LifecycleCell :=
  match c.compareExchange source.code target.code with
  | (.ok _, c) => (.ok (), c)
  | (.error raw, c) => (.error ⟨action, source, .ofCode raw⟩, c)

end LifecycleCell

inductive LifecycleCall where
  | access (a : LifecycleAccess)
  | current
  | hasStarted
  deriving Repr, DecidableEq

inductive LifecycleReply where
  | result (r : Except PhaseError Unit)
  | phase (p : Phase)
  | started (b : Bool)

namespace LifecycleCall

/-- A call with its one access to the cell: the reply, and the cell as it is left. -/
def perform (call : LifecycleCall) (c : LifecycleCell) : LifecycleReply × LifecycleCell :=
  match call with
  | .access .begin =>
    let (r, c) := c.transition .initializing .running "start the crawler"
    (.result r, c)
  | .access .finish =>
    let (r, c) := c.transition .running .ended "end the crawl"
    (.result r, c)
  | .access (.ensureInitializing action) => (.result (c.ensure .initializing action), c)
  | .access (.ensureRunning action) => (.result (c.ensure .running action), c)
  | .current => (.phase c.current, c)
  | .hasStarted => (.started c.hasStarted, c)

end LifecycleCall

/-- One access on record: whose it was and for which call, the cell as it was found, the reply, and
the cell as it was left. -/
structure Visit where
  caller : Nat
  call : LifecycleCall
  held : LifecycleCell
  reply : LifecycleReply
  left : LifecycleCell

structure Race where
  cell : LifecycleCell
  /-- The calls that each caller has yet to make, the next one first. -/
  todos : List (List LifecycleCall)
  /-- The accesses in the order in which they were made. -/
  record : List Visit

namespace Race

def start (todos : List (List LifecycleCall)) : Race := ⟨.new, todos, []⟩

/-- The turn of a caller, which makes its next call. Where there is none, nothing happens. -/
def advance (r : Race) (caller : Nat) : Race :=
  match r.todos[caller]? with
  | some (call :: rest) =>
    let (reply, cell) := call.perform r.cell
    ⟨cell, r.todos.set caller rest, r.record ++ [⟨caller, call, r.cell, reply, cell⟩]⟩
  | _ => r

def advanceAll (r : Race) (turns : List Nat) : Race := turns.foldl advance r

end Race

end WebCrawl
