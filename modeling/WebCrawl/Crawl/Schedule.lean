import WebCrawl.Crawl.Pool

/-!
# Schedules

A schedule settles in which order the moves of a pool come. Any list of moves is one. The fair one
goes in rounds: each worker makes at most one move, in order, and the control takes a stop request
as soon as there is one. There the control samples only when nobody else can move, which is what a
wait that is long compared with the work comes down to.
-/

namespace WebCrawl

/-- Runs a pool as far as it is to go. -/
abbrev Schedule (S σ : Type) := Crew σ → Downloader σ → Pool S σ → Pool S σ

namespace Pool

variable {S σ : Type} [Frontier S]

/-- The moves of one round. A woken fetcher is the first that is parked. -/
def roundMoves (p : Pool S σ) : List Move :=
  (List.range p.fetchers.length).map (fun i => .fetch i 0) ++
    (List.range p.workers.length).map .process ++ [.takeStop, .proceed]

/-- The same move, with the first parked fetcher as the one to be woken. -/
def aim (p : Pool S σ) : Move → Move
  | .fetch index _ => .fetch index (p.fetchers.findIdx Fetcher.isAsleep)
  | m => m

/-- Makes those of the moves that are possible when their turn comes; also says how many were. -/
def tryMoves (crew : Crew σ) (downloader : Downloader σ) :
    List Move → Pool S σ → Nat × Pool S σ
  | [], p => (0, p)
  | m :: rest, p =>
    match p.advance crew downloader (p.aim m) with
    | some p =>
      let (n, p) := tryMoves crew downloader rest p
      (n + 1, p)
    | none => tryMoves crew downloader rest p

/-- Rounds until the control is done. A pool that cannot move and is not quiescent never ends, and
neither does one for which the fuel is too little. -/
def runRounds (crew : Crew σ) (downloader : Downloader σ) : Nat → Pool S σ → Pool S σ
  | 0, p => p
  | fuel + 1, p =>
    if p.control = .done then p
    else
      match tryMoves crew downloader p.roundMoves p with
      | (0, p) =>
        match p.advance crew downloader .sample with
        | some p => if p.control = .waiting then p else runRounds crew downloader fuel p
        | none => p
      | (_ + 1, p) => runRounds crew downloader fuel p

end Pool

namespace Schedule

variable {S σ : Type} [Frontier S]

def fair (fuel : Nat) : Schedule S σ := fun crew downloader p => p.runRounds crew downloader fuel

/-- The given moves; if they are not possible, nothing happens. -/
def along (moves : List Move) : Schedule S σ := fun crew downloader p =>
  (p.advanceAll crew downloader moves).getD p

end Schedule

end WebCrawl
