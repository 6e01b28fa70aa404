import WebCrawl.Crawl.Sequential
import WebCrawl.Proofs.Crawl.Calm
import WebCrawl.Proofs.Pool.Joining

/-!
# The crew is released once

When a start returns, all work is over: a sequential crawl has returned from its last call, and in a
pool every worker has ended and nobody can move. Then the lifecycle ends, and each downloader and
each pipeline is closed once, in the order of registration, whichever of them fail. Nothing was
closed before.
-/

namespace WebCrawl

/-- The call may fail, but it does not panic. -/
def Act.Returns {σ α : Type} (act : Act σ α) : Prop :=
  ∀ view w, ∃ a, (act view w).outcome = .returned a

/-- The calls are made in turn, each once and all of them in one phase, and nothing else happens to
the world. -/
inductive CalledInTurn {σ α : Type} (phase : Phase) : σ → List (Act σ α) → σ → Prop where
  | nil (w : σ) : CalledInTurn phase w [] w
  | cons {w w' : σ} {act : Act σ α} {acts : List (Act σ α)} (view : View)
      (seen : view.phase = phase) (rest : CalledInTurn phase (act view w).world acts w') :
      CalledInTurn phase w (act :: acts) w'

theorem CalledInTurn.append {σ α : Type} {phase : Phase} {w w' w'' : σ}
    {acts acts' : List (Act σ α)} (h : CalledInTurn phase w acts w')
    (h' : CalledInTurn phase w' acts' w'') : CalledInTurn phase w (acts ++ acts') w'' := by
  induction h with
  | nil => exact h'
  | cons view seen _ ih => exact .cons view seen (ih h')

namespace Crew

variable {σ : Type} (crew : Crew σ)

/-- How the resources of a crew are closed, in the order of their registration. -/
def closes : List (Act σ (Except CloseError Unit)) :=
  crew.downloaders.map (·.close) ++ crew.pipelines.map (·.close)

def closings : List Deed :=
  (List.range crew.downloaders.length).map (.closed .downloader) ++
    (List.range crew.pipelines.length).map (.closed .pipeline)

theorem map_close_resources : crew.resources.map (·.close) = crew.closes := by
  rw [resources, closes, List.map_append, List.map_map, List.map_map]
  congr 1
  · rw [← List.zipIdx_map_fst 0 crew.downloaders, List.map_map, List.zipIdx_map_fst]
    rfl
  · rw [← List.zipIdx_map_fst 0 crew.pipelines, List.map_map, List.zipIdx_map_fst]
    rfl

theorem map_closed_resources :
    (crew.resources.map fun r => Deed.closed r.kind r.index) = crew.closings := by
  rw [resources, closings, List.map_append, List.map_map, List.map_map, List.range_eq_range',
    List.range_eq_range', ← List.zipIdx_map_snd, ← List.zipIdx_map_snd, List.map_map, List.map_map]
  rfl

end Crew

namespace Working

variable {S σ : Type} {run run' run'' : Run S σ}
  {acts acts' : List (Act σ (Except CloseError Unit))} {deeds deeds' : List Deed}

/-- These resources were closed one after the other, and these deeds tell of it. -/
structure Closes (acts : List (Act σ (Except CloseError Unit))) (deeds : List Deed)
    (run run' : Run S σ) : Prop where
  phase : run'.core.phase = run.core.phase
  deeds : run'.core.journal.deeds = run.core.journal.deeds ++ deeds
  called : CalledInTurn run.core.phase run.world acts run'.world

namespace Closes

theorem say (run : Run S σ) (n : Note) : Closes [] [] run (run.update (·.say n)) :=
  ⟨rfl, by simp, .nil run.world⟩

theorem trans (h : Closes acts deeds run run') (h' : Closes acts' deeds' run' run'') :
    Closes (acts ++ acts') (deeds ++ deeds') run run'' := by
  refine ⟨h'.phase.trans h.phase, ?_, ?_⟩
  · rw [h'.deeds, h.deeds, List.append_assoc]
  · have called := h'.called
    rw [h.phase] at called
    exact h.called.append called

end Closes

theorem closes_of_closeOne {kind : ResourceKind} {index : Nat} {name : String}
    {close : Act σ (Except CloseError Unit)} {a : Unit}
    (h : closeOne kind index name close run = (.ok a, run')) :
    Closes [close] [.closed kind index] run run' := by
  obtain ⟨result, -, rest⟩ := perform_bind_eq_ok h
  have closed : Closes [close] [.closed kind index] run
      ((run.perform close).2.update (·.enter (.closed kind index))) :=
    ⟨rfl, by simp, .cons run.core.view rfl (.nil _)⟩
  have last := update_bind_eq_ok rest
  cases result with
  | ok =>
    cases last
    exact closed.trans (.say _ _)
  | error e =>
    cases last
    exact closed.trans (.say _ _)

theorem closes_of_closeAll {rs : List (Resource σ)} {a : Unit}
    (h : closeAll rs run = (.ok a, run')) :
    Closes (rs.map (·.close)) (rs.map fun r => .closed r.kind r.index) run run' := by
  induction rs generalizing run with
  | nil =>
    cases h
    exact ⟨rfl, (List.append_nil _).symm, .nil _⟩
  | cons r rs ih =>
    obtain ⟨_, next, closed, rest⟩ := bind_eq_ok h
    exact (closes_of_closeOne closed).trans (ih rest)

theorem closes_of_conclude {crew : Crew σ} {a : Unit} (running : run.core.phase = .running)
    (h : conclude crew run = (.ok a, run')) :
    Closes crew.closes crew.closings (run.update fun c => { c with phase := .ended }) run' := by
  obtain ⟨⟨phase, frontier, stats, engine, stops, journal⟩, w⟩ := run
  cases running
  have h := update_bind_eq_ok h
  have h := update_bind_eq_ok h
  obtain ⟨_, next, closed, last⟩ := bind_eq_ok h
  rw [release_eq] at closed
  have closed := closes_of_closeAll closed
  rw [crew.map_close_resources, crew.map_closed_resources] at closed
  have whole := ((Closes.say _ .releasing).trans closed).trans (.say next .finished)
  rw [List.nil_append, List.nil_append, List.append_nil, List.append_nil] at whole
  cases last
  exact whole

theorem closes_conclude {crew : Crew σ} (returns : ∀ close ∈ crew.closes, close.Returns)
    {run : Run S σ} (running : run.core.phase = .running) :
    Ensures (conclude crew) run fun _ run' =>
      Closes crew.closes crew.closings (run.update fun c => { c with phase := .ended }) run' := by
  rw [← crew.map_close_resources] at returns
  obtain ⟨a, run', ran, -⟩ := calm_conclude (List.forall_mem_map.mp returns) run
  exact ⟨a, run', ran, closes_of_conclude running ran⟩

end Working

/-- A crawl has gone on in its phase, and nothing was closed. -/
structure Core.StaysOpen {S : Type} (c c' : Core S) : Prop where
  phase : c'.phase = c.phase
  deeds : ∃ since, c'.journal.deeds = c.journal.deeds ++ since ∧
    since.countP Deed.isClosing = 0

namespace Core.StaysOpen

variable {S : Type} {c c' c'' : Core S}

theorem of_same (phase : c'.phase = c.phase) (deeds : c'.journal.deeds = c.journal.deeds) :
    StaysOpen c c' :=
  ⟨phase, [], deeds.trans (List.append_nil _).symm, rfl⟩

theorem refl (c : Core S) : StaysOpen c c := of_same rfl rfl

theorem trans (h : StaysOpen c c') (h' : StaysOpen c' c'') : StaysOpen c c'' := by
  obtain ⟨phase, since, deeds, opened⟩ := h
  obtain ⟨phase', since', deeds', opened'⟩ := h'
  refine ⟨phase'.trans phase, since ++ since', ?_, ?_⟩
  · rw [deeds', deeds, List.append_assoc]
  · rw [List.countP_append, opened, opened']

theorem say (c : Core S) (n : Note) : StaysOpen c (c.say n) := of_same rfl (c.deeds_say n)

theorem tally (c : Core S) (count : Statistics → Statistics) : StaysOpen c (c.tally count) :=
  of_same rfl rfl

theorem enter (c : Core S) (d : Deed) (opened : d.isClosing = false) : StaysOpen c (c.enter d) := by
  refine ⟨rfl, [d], c.deeds_enter d, ?_⟩
  rw [countP_cons_toNat, opened]
  rfl

theorem pushDiscovered [Frontier S] (c : Core S) (rs : List Request) :
    StaysOpen c (c.pushDiscovered rs).2 :=
  ⟨c.phase_pushDiscovered rs, _, (Elapsed.pushDiscovered c rs).deeds,
    Event.countP_deeds_offers (fun _ _ => rfl) _ _⟩

theorem requeue [Frontier S] (c : Core S) (r : Request) : StaysOpen c (c.requeue r) :=
  ⟨c.phase_requeue r, _, c.deeds_requeue r, rfl⟩

end Core.StaysOpen

namespace Working

variable {S σ α β : Type}

/-- Whether a panic cuts it short or not, the work closes nothing and leaves the phase alone. -/
def StaysOpen (x : Working S σ α) : Prop :=
  ∀ run : Run S σ, run.core.StaysOpen (x run).2.core

namespace StaysOpen

theorem pure (a : α) : StaysOpen (Pure.pure a : Working S σ α) := fun run => .refl run.core

theorem update {f : Core S → Core S} (h : ∀ c : Core S, c.StaysOpen (f c)) :
    StaysOpen (Working.update f : Working S σ Unit) := fun run => h run.core

theorem perform (act : Act σ α) : StaysOpen (Working.perform act : Working S σ α) := by
  intro run
  have called : run.core.StaysOpen (run.perform act).2.core :=
    .of_same rfl (run.deeds_perform act)
  rcases hp : run.perform act with ⟨outcome, next⟩
  rw [hp] at called
  cases outcome with
  | returned a =>
    rw [perform_of_returned hp]
    exact called
  | panicked message =>
    rw [perform_of_panicked hp]
    exact called

theorem bind {x : Working S σ α} {k : α → Working S σ β} (hx : StaysOpen x)
    (hk : ∀ a, StaysOpen (k a)) : StaysOpen (x >>= k) := by
  intro run
  have first := hx run
  rcases ran : x run with ⟨result, next⟩
  rw [ran] at first
  cases result with
  | error p =>
    rw [bind_of_error ran]
    exact first
  | ok a =>
    rw [bind_of_ok ran]
    exact first.trans (hk a next)

theorem say (n : Note) : StaysOpen (Working.say n : Working S σ Unit) :=
  update fun c => .say c n

theorem tally (count : Statistics → Statistics) :
    StaysOpen (Working.tally count : Working S σ Unit) :=
  update fun c => .tally c count

theorem enter (d : Deed) (opened : d.isClosing = false) :
    StaysOpen (Working.enter d : Working S σ Unit) :=
  update fun c => .enter c d opened

end StaysOpen

end Working

namespace Sequential

open Working

variable {S σ : Type}

theorem staysOpen_firstSupporting {α : Type} {ask : α → Act σ Bool} {deed : Nat → Bool → Deed}
    (opened : ∀ i verdict, (deed i verdict).isClosing = false) (k : Nat) (all : List α) :
    StaysOpen (firstSupporting ask deed k all : Working S σ (Option (Nat × α))) := by
  induction all generalizing k with
  | nil => exact .pure none
  | cons a rest ih =>
    refine .bind (.perform (ask a)) fun verdict => .bind (.enter _ (opened k verdict)) fun _ => ?_
    cases verdict with
    | true => exact .pure _
    | false => exact ih (k + 1)

theorem staysOpen_runPipelines (carrier : Carrier) (total k : Nat) (ps : List (Pipeline σ)) :
    StaysOpen (runPipelines carrier total k ps : Working S σ Unit) := by
  induction ps generalizing k with
  | nil => exact .pure ()
  | cons p rest ih =>
    refine .bind (.say _) fun _ => .bind (.perform (p.process carrier)) fun verdict =>
      .bind (.enter _ rfl) fun _ => ?_
    cases verdict with
    | true => exact ih (k + 1)
    | false => exact .bind (.say _) fun _ => .tally _

variable [Frontier S]

theorem staysOpen_handleResponse (crew : Crew σ) (response : Response) :
    StaysOpen (handleResponse crew response : Working S σ Unit) := by
  refine .bind (staysOpen_firstSupporting (fun _ _ => rfl) 0 crew.processors) fun chosen => ?_
  cases chosen with
  | none => exact .bind (.say _) fun _ => .bind (.enter _ rfl) fun _ => .tally _
  | some chosen =>
    refine .bind (.perform _) fun carrier => .bind (.enter _ rfl) fun _ =>
      .bind (staysOpen_runPipelines carrier _ 0 crew.pipelines) fun _ =>
        .bind (.enter _ rfl) fun _ => .bind (.tally _) fun _ => ?_
    exact .update fun c => .pushDiscovered c carrier.discovered

theorem staysOpen_fetch (crew : Crew σ) (k : Nat) (d : Downloader σ) (r : Request) :
    StaysOpen (fetch crew k d r : Working S σ Unit) := by
  refine .bind (.say _) fun _ => .bind (.tally _) fun _ => .bind (.perform _) fun result =>
    .bind (.enter _ rfl) fun _ => ?_
  cases result with
  | error cause =>
    exact .bind (.say _) fun _ => .bind (.tally _) fun _ => .update fun c => .requeue c r
  | ok response =>
    exact .bind (.tally _) fun _ => .bind (.tally _) fun _ =>
      staysOpen_handleResponse crew response

theorem staysOpen_serve (crew : Crew σ) (r : Request) :
    StaysOpen (serve crew r : Working S σ Unit) := by
  refine .bind (staysOpen_firstSupporting (fun _ _ => rfl) 0 crew.downloaders) fun chosen => ?_
  cases chosen with
  | none => exact .bind (.say _) fun _ => .tally _
  | some chosen => exact staysOpen_fetch crew chosen.1 chosen.2 r

theorem staysOpen_pollNext : StaysOpen (pollNext : Working S σ (Option Request)) := by
  intro run
  rcases answer : Frontier.poll run.core.frontier with ⟨found, s⟩
  simp only [pollNext, Core.poll, answer]
  cases found with
  | none => exact .of_same rfl rfl
  | some r => exact ⟨rfl, [.polled r], Core.deeds_enter _ _, rfl⟩

theorem staysOpen_crawl (crew : Crew σ) (fuel : Nat) :
    StaysOpen (crawl crew fuel : Working S σ Bool) := by
  induction fuel with
  | zero => exact .pure false
  | succ fuel ih =>
    have stepped : StaysOpen (step crew : Working S σ Bool) := by
      refine .bind staysOpen_pollNext fun found => ?_
      cases found with
      | none => exact .pure false
      | some r => exact .bind (staysOpen_serve crew r) fun _ => .pure true
    refine .bind stepped fun more => ?_
    cases more with
    | true => exact ih
    | false => exact .pure true

end Sequential

namespace Pool

variable {S σ : Type} [Frontier S] {crew : Crew σ} {d : Downloader σ} {p q : Pool S σ}

theorem staysOpen_of_advanceAll {moves : List Move} (h : p.advanceAll crew d moves = some q) :
    p.run.core.StaysOpen q.run.core := by
  obtain ⟨polls, takes, since, deeds, -, -, opened⟩ := entered_of_advanceAll h
  have phase : q.run.core.phase = p.run.core.phase :=
    invariant_of_step (I := fun q => q.run.core.phase = p.run.core.phase)
      (fun same step => (phase_of_step step).trans same) rfl h
  exact ⟨phase, since, deeds, opened⟩

end Pool

/-- The caller has got an answer. -/
def StartResult.returned : StartResult → Bool
  | finished => true
  | refused _ => true
  | panicked _ => false
  | unfinished => false

namespace Crawler

variable {S σ : Type} {c : Crawler S σ} {world : σ} {moves : List Move} {fuel : Nat}
  {granted : Granted σ}

/-- The run of a sequential engine once it has said that it starts. -/
def opened (run : Run S σ) (crew : Crew σ) : Run S σ :=
  run.update (·.say (.startingSequential crew.downloaders.length crew.processors.length
    crew.pipelines.length))

variable [Frontier S]

/-- All work of a crawl is over, and this is what it has left: no call of a component is under way,
and none will be made but to close the crew. -/
inductive Worked (c : Crawler S σ) (world : σ) (moves : List Move) (fuel : Nat) :
    Run S σ → Prop where
  | sequential {run : Run S σ} (engine : c.core.engine = .sequential)
      (drained : Sequential.crawl c.crew fuel
        (opened ⟨{ c.core with phase := .running }, world⟩ c.crew) = (.ok true, run)) :
      Worked c world moves fuel run
  | pooled {sizes : PoolSizes} {d : Downloader σ} {others : List (Downloader σ)} {q : Pool S σ}
      (engine : c.core.engine = .pooled sizes) (first : c.crew.downloaders = d :: others)
      (moved : (c.pool world sizes).advanceAll c.crew d moves = some q) (ended : q.Over)
      (still : ∀ m, q.advance c.crew d m = none) : Worked c world moves fuel q.run

theorem Worked.staysOpen {run : Run S σ} (h : c.Worked world moves fuel run) :
    Core.StaysOpen { c.core with phase := .running } run.core := by
  cases h with
  | sequential engine drained =>
    have crawled := Sequential.staysOpen_crawl c.crew fuel
      (opened ⟨{ c.core with phase := .running }, world⟩ c.crew)
    rw [drained] at crawled
    exact (Core.StaysOpen.say _ _).trans crawled
  | pooled engine first moved ended still =>
    exact (Core.StaysOpen.say _ _).trans (Pool.staysOpen_of_advanceAll moved)

theorem worked_of_done {sizes : PoolSizes} {d : Downloader σ} {others : List (Downloader σ)}
    {q : Pool S σ} (engine : c.core.engine = .pooled sizes)
    (first : c.crew.downloaders = d :: others)
    (moved : (c.pool world sizes).advanceAll c.crew d moves = some q) (done : q.control = .done) :
    c.Worked world moves fuel q.run := by
  have ended := Pool.over_of_done moved done
  exact .pooled engine first moved ended ended.advance_eq_none

theorem finished_of_returned (started : (c.change .start).1 = .ok granted)
    {schedule : Schedule S σ} (returned : (c.startBy world schedule fuel).1.returned = true) :
    (c.startBy world schedule fuel).1 = .finished := by
  obtain ⟨initializing, complete⟩ := initializing_of_started started
  simp only [startBy, change_start initializing complete, Granted.crew] at returned ⊢
  generalize crawl c.core.engine c.crew schedule fuel _ = ran at returned ⊢
  obtain ⟨result, run⟩ := ran
  cases result with
  | error p => cases returned
  | ok done =>
    cases done with
    | true => rfl
    | false => cases returned

theorem worked_of_finished {c' : Crawler S σ} {world' : σ}
    (started : (c.change .start).1 = .ok granted)
    (finished : c.startBy world (.along moves) fuel = (.finished, c', world')) :
    ∃ run, c.Worked world moves fuel run := by
  obtain ⟨initializing, complete⟩ := initializing_of_started started
  rcases engine : c.core.engine with _ | sizes
  · obtain ⟨-, run, ran, -⟩ := ran_of_finished finished
    rw [engine] at ran
    obtain ⟨drained, next, crawled, rest⟩ := Working.bind_eq_ok (Working.update_bind_eq_ok ran)
    cases drained with
    | true => exact ⟨next, .sequential engine crawled⟩
    | false => cases rest
  · rcases first : c.crew.downloaders with _ | ⟨d, others⟩
    · simp only [checkCrew, engine, first] at complete
      cases complete
    · obtain ⟨q, moved, done⟩ := done_of_finished initializing engine first finished
      exact ⟨q.run, worked_of_done engine first moved done⟩

theorem Worked.startBy {run : Run S σ} (h : c.Worked world moves fuel run)
    (started : (c.change .start).1 = .ok granted) {P : Unit → Run S σ → Prop}
    (concluded : Working.Ensures (Working.conclude c.crew) run P) :
    ∃ run', c.startBy world (.along moves) fuel = (.finished, ⟨run'.core, .empty⟩, run'.world) ∧
      P () run' := by
  obtain ⟨initializing, complete⟩ := initializing_of_started started
  cases h with
  | sequential engine drained =>
    obtain ⟨_, run', ran, post⟩ := concluded
    refine startBy_of_ensures initializing complete ⟨true, run', ?_, rfl, post⟩
    rw [engine]
    exact (Working.bind_of_ok rfl).trans
      ((Working.bind_of_ok drained).trans (Working.bind_of_ok ran))
  | pooled engine first moved ended still =>
    exact startBy_of_done fuel initializing engine first moved ended.control concluded

theorem Worked.released {run : Run S σ} (h : c.Worked world moves fuel run)
    (started : (c.change .start).1 = .ok granted)
    (returns : ∀ close ∈ c.crew.closes, close.Returns) : ∃ run',
      c.startBy world (.along moves) fuel = (.finished, ⟨run'.core, .empty⟩, run'.world) ∧
      Working.Closes c.crew.closes c.crew.closings
        (run.update fun core => { core with phase := .ended }) run' :=
  h.startBy started (Working.closes_conclude returns h.staysOpen.phase)

/-- Whatever the components do and however the moves are interleaved, a start that was granted
returns just when all work is over, if no close panics. It has finished then: every downloader and
every pipeline was closed once, in the order of registration, when the lifecycle had ended, and
nothing was closed before. -/
theorem releases_once (c : Crawler S σ) (granted : Granted σ)
    (started : (c.change .start).1 = .ok granted)
    (returns : ∀ close ∈ c.crew.closes, close.Returns) (world : σ) (moves : List Move)
    (fuel : Nat) :
    ((c.startBy world (.along moves) fuel).1.returned = true ↔
      ∃ run, c.Worked world moves fuel run) ∧
    ∀ run, c.Worked world moves fuel run → ∃ (run' : Run S σ) (since : List Deed),
      c.startBy world (.along moves) fuel = (.finished, ⟨run'.core, .empty⟩, run'.world) ∧
      run'.core.phase = .ended ∧
      run.core.journal.deeds = c.core.journal.deeds ++ since ∧
      since.countP Deed.isClosing = 0 ∧
      run'.core.journal.deeds = run.core.journal.deeds ++ c.crew.closings ∧
      CalledInTurn .ended run.world c.crew.closes run'.world := by
  refine ⟨⟨?_, ?_⟩, ?_⟩
  · intro returned
    have finished := finished_of_returned started returned
    exact worked_of_finished started (Prod.ext finished rfl)
  · rintro ⟨run, worked⟩
    obtain ⟨run', finished, -⟩ := worked.released started returns
    rw [finished]
    rfl
  · intro run worked
    obtain ⟨run', finished, closed⟩ := worked.released started returns
    obtain ⟨since, deeds, opened⟩ := worked.staysOpen.deeds
    exact ⟨run', since, finished, closed.phase, deeds, opened, closed.deeds, closed.called⟩

def busyDownloader : Downloader Unit := { Pool.blank with close := .pure (.error ⟨["busy"]⟩) }

/-- A downloader that fails to close, and a processor that panics. -/
def frailCrew : Crew Unit where
  downloaders := [busyDownloader]
  processors := [⟨fun _ => .pure true, fun _ => .panic "broken" id⟩]
  pipelines := [⟨"pipeline", fun _ => .pure true, .pure (.ok ())⟩]

theorem returns_frailCrew : ∀ close ∈ frailCrew.closes, close.Returns := by
  intro close member
  rcases List.mem_cons.mp member with rfl | member
  · exact fun _ _ => ⟨_, rfl⟩
  · cases List.mem_singleton.mp member
    exact fun _ _ => ⟨_, rfl⟩

def frailPool : Crawler (Layered Queue) Unit :=
  ⟨.new (.pooled ⟨1, 1, default⟩) (.bare (.ofList [default])), frailCrew⟩

/-- The page is fetched, the process worker dies of it, and the control ends the crawl. -/
def frailMoves : List Move :=
  List.replicate 10 (.fetch 0 0) ++ List.replicate 5 (.process 0) ++
    [.sample, .proceed, .proceed, .fetch 0 0] ++ List.replicate 5 .proceed

theorem releases_once_of_frailPool :
    (frailPool.change .start).1 = .ok (.begun frailCrew) ∧
      (∀ close ∈ frailPool.crew.closes, close.Returns) ∧
      ∃ run, frailPool.Worked () frailMoves 0 run ∧ ∃ (run' : Run (Layered Queue) Unit),
        frailPool.startBy () (.along frailMoves) 0 =
          (.finished, ⟨run'.core, .empty⟩, run'.world) ∧
        run'.core.journal.deeds = run.core.journal.deeds ++
          [.closed .downloader 0, .closed .pipeline 0] ∧
        CalledInTurn .ended run.world frailPool.crew.closes run'.world := by
  have started : (frailPool.change .start).1 = .ok (.begun frailCrew) := rfl
  have ran : (frailPool.startBy () (.along frailMoves) 0).1.returned = true := rfl
  obtain ⟨answered, released⟩ := releases_once frailPool _ started returns_frailCrew () frailMoves 0
  obtain ⟨run, worked⟩ := answered.mp ran
  obtain ⟨run', since, finished, -, -, -, closings, called⟩ := released run worked
  exact ⟨started, returns_frailCrew, run, worked, run', finished, closings, called⟩

end Crawler

end WebCrawl
