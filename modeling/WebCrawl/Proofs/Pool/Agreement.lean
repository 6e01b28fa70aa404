import WebCrawl.Proofs.Pool.Debt
import WebCrawl.Proofs.Pool.Parking
import WebCrawl.Proofs.Sequential.Closure

/-!
# Both engines agree

A pool whose end began with a quiet sample has paid all that it owed, whoever did what and in
whatever order. So its books are closed as those of a sequential crawl are, and books that were
opened with the same seeds are closed with the same marks.
-/

namespace WebCrawl

namespace Deed

/-- A processed page: the fingerprint of the carrier, and its fields. -/
def page? : Deed → Option (String × Dict Json)
  | processed _ _ c => some (c.request.fingerprint, c.fields)
  | _ => none

/-- The fingerprint of a carrier that the pipeline with the given index has seen. -/
def shown? (k : Nat) : Deed → Option String
  | piped j c _ => if j = k then some c.request.fingerprint else none
  | _ => none

end Deed

namespace Mark

def page? : Mark → Option (String × Dict Json)
  | page u fields => some (u, fields)
  | _ => none

def shown? (k : Nat) : Mark → Option String
  | shown j u _ => if j = k then some u else none
  | _ => none

end Mark

/-- Both crawls have processed the same pages, have shown each pipeline the same carriers, and have
counted the same. -/
structure Core.Agrees {S : Type} (c c' : Core S) : Prop where
  pages : (c.journal.deeds.filterMap Deed.page?).Perm (c'.journal.deeds.filterMap Deed.page?)
  shown : ∀ k, (c.journal.deeds.filterMap (Deed.shown? k)).Perm
    (c'.journal.deeds.filterMap (Deed.shown? k))
  stats : c.stats = c'.stats

namespace Closed

variable {b : Conduct} {seeds : List String} {core core' : Core (Layered Queue)}
  {M M' : Multiset Mark}

theorem perm {α : Type} {f : Mark → Option α} (h : Closed b seeds core M)
    (h' : Closed b seeds core' M') (counts : ∀ c, f (.counted c) = none) :
    (core.journal.deeds.filterMap fun d => d.mark?.bind f).Perm
      (core'.journal.deeds.filterMap fun d => d.mark?.bind f) := by
  obtain ⟨seen, left, books⟩ := h.books
  obtain ⟨seen', left', books'⟩ := h'.books
  have same := h'.record.marks counts
  rw [← books.marks_unique books', h.record.marks counts] at same
  exact Multiset.coe_eq_coe.mp same

theorem agrees (h : Closed b seeds core M) (h' : Closed b seeds core' M') :
    core.Agrees core' where
  pages := by
    have page : (fun d : Deed => d.mark?.bind Mark.page?) = Deed.page? := by
      funext d
      cases d with
      | downloaded k r result => cases result <;> rfl
      | _ => rfl
    have same := h.perm h' (f := Mark.page?) fun _ => rfl
    rwa [page] at same
  shown k := by
    have shown : (fun d : Deed => d.mark?.bind (Mark.shown? k)) = Deed.shown? k := by
      funext d
      cases d with
      | downloaded k r result => cases result <;> rfl
      | _ => rfl
    have same := h.perm h' (f := Mark.shown? k) fun _ => rfl
    rwa [shown] at same
  stats := h.stats_eq h'

end Closed

section idle

variable {σ : Type} {b : Conduct} {rd : Reading σ} {x : Multiset Mark}

theorem Fetcher.Owes.eq_zero {f : Fetcher} (h : f.Owes b rd x) (idle : f.isIdle = true) :
    x = 0 := by
  cases h with
  | rests => rfl
  | _ => cases idle

theorem Worker.Owes.eq_zero {w : Worker} (h : w.Owes b rd x) (idle : w.isIdle = true) :
    x = 0 := by
  cases h with
  | rests => rfl
  | _ => cases idle

end idle

namespace Pool

variable {σ : Type} {b : Conduct} {rd : Reading σ} {seeds : List String}
  {p q : Pool (Layered Queue) σ} {crew : Crew σ} {d : Downloader σ}

theorem Balanced.settled (h : Balanced b rd seeds p) (idle : Idle p) :
    InOrder b rd seeds p.run 0 := by
  obtain ⟨F, H, W, hF, hH, hW, ledger⟩ := h
  have fetchers : F = 0 := hF.eq_zero fun f hf _ owes => owes.eq_zero (idle.fetchers f hf)
  have workers : W = 0 := hW.eq_zero fun w hw _ owes => owes.eq_zero (idle.workers w hw)
  rw [idle.handoff] at hH
  cases hH
  rw [fetchers, workers, add_zero, add_zero] at ledger
  exact ledger

theorem settled_of_done {run : Run (Layered Queue) σ} {sizes : PoolSizes} {moves : List Move}
    (follows : crew.Follows b rd) (fetches : ∀ r, d.Fetches b rd r)
    (supported : ∀ u, (b.downloader u).isSome = true)
    (stripped : ∀ u c, rd.yields u c → rd.yields u c.takeRequests.2)
    (start : InOrder b rd seeds run 0) (unstopped : Move.takeStop ∉ moves)
    (h : (ofRun run sizes).advanceAll crew d moves = some q) (done : q.control = .done) :
    InOrder b rd seeds q.run 0 ∧ Idle q ∧ q.run.core.phase = run.core.phase := by
  have idle : Idle q := idle_of_ending unstopped h fun waits => by cases done.symm.trans waits
  have balanced : Balanced b rd seeds q :=
    invariant_of_step (balanced_of_step follows fetches supported stripped)
      (balanced_ofRun sizes start) h
  have phase : q.run.core.phase = run.core.phase :=
    invariant_of_step (I := fun q => q.run.core.phase = run.core.phase)
      (fun same step => (phase_of_step step).trans same) rfl h
  exact ⟨balanced.settled idle, idle, phase⟩

end Pool

namespace Crawler

variable {S σ : Type} {c c' : Crawler S σ} {world world' : σ} {sizes : PoolSizes}
  {crew : Crew σ} {d : Downloader σ} {schedule : Schedule S σ} {run : Run S σ}

def announced (run : Run S σ) (crew : Crew σ) (sizes : PoolSizes) : Run S σ :=
  run.update (·.say (.startingPool sizes.fetchers.toNat sizes.processors.toNat
    crew.processors.length crew.pipelines.length))

/-- The pool that a start sets to work. -/
def pool (c : Crawler S σ) (world : σ) (sizes : PoolSizes) : Pool S σ :=
  .ofRun (announced ⟨{ c.core with phase := .running }, world⟩ c.crew sizes) sizes

theorem runPooled_of_done {p : Pool S σ}
    (worked : schedule crew d (.ofRun (announced run crew sizes) sizes) = p)
    (done : p.control = .done) : runPooled schedule crew d sizes run =
      (Working.conclude crew >>= fun _ => pure true) p.run := by
  have answer : work schedule crew d sizes (announced run crew sizes) = (.ok true, p.run) := by
    simp only [work, worked, done, decide_true]
  exact (Working.bind_of_ok rfl).trans (Working.bind_of_ok answer)

theorem runPooled_of_not_done {p : Pool S σ}
    (worked : schedule crew d (.ofRun (announced run crew sizes) sizes) = p)
    (busy : p.control ≠ .done) : runPooled schedule crew d sizes run = (.ok false, p.run) := by
  have answer : work schedule crew d sizes (announced run crew sizes) = (.ok false, p.run) := by
    simp only [work, worked, busy, decide_false]
  exact (Working.bind_of_ok rfl).trans (Working.bind_of_ok answer)

variable [Frontier S] {others : List (Downloader σ)}

theorem crawl_of_pooled {engine : Engine} (pooled : engine = .pooled sizes)
    (first : crew.downloaders = d :: others) (fuel : Nat) :
    crawl engine crew schedule fuel = runPooled schedule crew d sizes := by
  simp only [crawl, pooled, first]

theorem startBy_of_not_done {moves : List Move} (fuel : Nat)
    (initializing : c.phase = .initializing) (engine : c.core.engine = .pooled sizes)
    (first : c.crew.downloaders = d :: others)
    (busy : ∀ q, (c.pool world sizes).advanceAll c.crew d moves = some q → q.control ≠ .done) :
    (c.startBy world (.along moves) fuel).1 = .unfinished := by
  have complete : c.checkCrew = .ok () := by simp only [checkCrew, engine, first]
  have open_end : ((Schedule.along moves : Schedule S σ) c.crew d (c.pool world sizes)).control ≠
      .done := by
    unfold Schedule.along
    cases moved : (c.pool world sizes).advanceAll c.crew d moves with
    | none =>
      intro done
      cases done
    | some q => exact busy q moved
  obtain ⟨run, ran⟩ : ∃ run, crawl c.core.engine c.crew (.along moves) fuel
      ⟨{ c.core with phase := .running }, world⟩ = (.ok false, run) := by
    rw [crawl_of_pooled engine first]
    exact ⟨_, runPooled_of_not_done rfl open_end⟩
  simp only [startBy, change_start initializing complete, Granted.crew, ran]

theorem done_of_finished {moves : List Move} {fuel : Nat} (initializing : c.phase = .initializing)
    (engine : c.core.engine = .pooled sizes) (first : c.crew.downloaders = d :: others)
    (finished : c.startBy world (.along moves) fuel = (.finished, c', world')) :
    ∃ q, (c.pool world sizes).advanceAll c.crew d moves = some q ∧ q.control = .done := by
  by_contra never
  have busy : ∀ q, (c.pool world sizes).advanceAll c.crew d moves = some q →
      q.control ≠ .done := fun q moved done => never ⟨q, moved, done⟩
  have unfinished := startBy_of_not_done fuel initializing engine first busy
  rw [finished] at unfinished
  cases unfinished

theorem startBy_of_done {moves : List Move} (fuel : Nat) (initializing : c.phase = .initializing)
    (engine : c.core.engine = .pooled sizes) (first : c.crew.downloaders = d :: others)
    {q : Pool S σ} (moved : (c.pool world sizes).advanceAll c.crew d moves = some q)
    (done : q.control = .done)
    {P : Unit → Run S σ → Prop} (concluded : Working.Ensures (Working.conclude c.crew) q.run P) :
    ∃ run, c.startBy world (.along moves) fuel = (.finished, ⟨run.core, .empty⟩, run.world) ∧
      P () run := by
  have complete : c.checkCrew = .ok () := by simp only [checkCrew, engine, first]
  refine startBy_of_ensures initializing complete ?_
  obtain ⟨_, run, ran, post⟩ := concluded
  refine ⟨true, run, ?_, rfl, post⟩
  have worked : (Schedule.along moves : Schedule S σ) c.crew d (c.pool world sizes) = q := by
    rw [Schedule.along, moved]
    rfl
  rw [crawl_of_pooled engine first]
  exact (runPooled_of_done worked done).trans (Working.bind_of_ok ran)

theorem inOrder_announced {b : Conduct} {rd : Reading σ} {seeds : List String}
    {c : Crawler (Layered Queue) σ} (h : InOrder b rd seeds ⟨c.core, world⟩ 0) :
    InOrder b rd seeds (announced ⟨{ c.core with phase := .running }, world⟩ c.crew sizes) 0 := by
  have running : InOrder b rd seeds ⟨{ c.core with phase := .running }, world⟩ 0 :=
    h.of_same rfl rfl rfl rfl
  exact running.say _

end Crawler

namespace Pool

variable {σ : Type}

variable {b : Conduct} {rd : Reading σ} {crew : Crew σ} {d : Downloader σ}

theorem closed_of_finished (follows : crew.Follows b rd) (only : crew.downloaders = [d])
    (supported : ∀ u, b.downloader u = some 0)
    (stripped : ∀ u c, rd.yields u c → rd.yields u c.takeRequests.2) {requests : List Request}
    {world world' : σ} (fresh : rd.left b.failures world) {sizes : PoolSizes}
    {c c' : Crawler (Layered Queue) σ} {order : PollOrder}
    (ready : c = .prepared (.pooled sizes) (exactly [] (.empty order)) crew requests)
    {moves : List Move} (unstopped : Move.takeStop ∉ moves) {fuel : Nat}
    (finished : c.startBy world (.along moves) fuel = (.finished, c', world')) :
    (∃ M, Closed b (requests.map Request.fingerprint) c'.core M) ∧
      ∃ q, (c.pool world sizes).advanceAll crew d moves = some q ∧ q.control = .done ∧
        q.handoff = [] := by
  subst ready
  have prepared := underWay_prepared (.pooled sizes) order crew requests fresh
  have engine := Crawler.engine_pushAll
    (Core.new (.pooled sizes) (exactly [] (.empty order))) requests
  obtain ⟨q, moved, done⟩ :=
    Crawler.done_of_finished prepared.progress.phase engine only finished
  have fetches : ∀ r, d.Fetches b rd r := by
    intro r
    exact follows.fetches r 0 d (by rw [only]; rfl) (supported _)
  have somebody : ∀ u, (b.downloader u).isSome = true := by
    intro u
    rw [supported u]
    rfl
  obtain ⟨settled, idle, phase⟩ := settled_of_done follows fetches somebody stripped
    (Crawler.inOrder_announced prepared.ledger) unstopped moved done
  have pending : q.run.core.frontier.base.pending = [] :=
    List.length_eq_zero_iff.mp idle.frontier
  obtain ⟨M, closed⟩ := Closed.of_inOrder settled pending
  obtain ⟨seen, queue, left, M', standing⟩ := settled
  have concluded := Working.ensures_conclude follows phase standing.world
  obtain ⟨run, started, released⟩ :=
    Crawler.startBy_of_done fuel prepared.progress.phase engine only moved done concluded
  cases finished.symm.trans started
  exact ⟨⟨M, closed.of_concluded released⟩, q, moved, done, idle.handoff⟩

/-- A crawl with pools of workers that was not stopped agrees with a sequential one on the same
seeds, however its moves were interleaved: nothing is pending in the frontier or in the handoff
queue, the same pages were processed and shown to each pipeline, and the statistics are the same. A
pipeline may see the carrier before or after the discovered requests were taken from it. -/
theorem agrees_with_sequential (crew : Crew σ) (b : Conduct) (rd : Reading σ)
    (follows : crew.Follows b rd) (d : Downloader σ) (only : crew.downloaders = [d])
    (supported : ∀ u, b.downloader u = some 0)
    (stripped : ∀ u c, rd.yields u c → rd.yields u c.takeRequests.2)
    (requests : List Request) (world : σ) (fresh : rd.left b.failures world)
    (finite : {u | b.Reachable (requests.map Request.fingerprint) u}.Finite)
    (sizes : PoolSizes) (order : PollOrder) (c₀ c c' : Crawler (Layered Queue) σ)
    (made : Crawler.pooled ((Layered.bare (.empty order)).wrap .exact) d sizes = .ok c₀)
    (configured : c₀.changeAll (crew.changes requests) = .ok c) (moves : List Move)
    (unstopped : Move.takeStop ∉ moves) (fuel : Nat) (world' : σ)
    (finished : c.startBy world (.along moves) fuel = (.finished, c', world')) :
    (c'.core.frontier.base.pending = [] ∧
      ∃ q, (c.pool world sizes).advanceAll crew d moves = some q ∧ q.control = .done ∧
        q.handoff = []) ∧
    ∃ enough, ∀ order' : PollOrder, ∃ s : Crawler (Layered Queue) σ,
      (Crawler.sequential ((Layered.bare (.empty order')).wrap .exact)).changeAll
          (crew.downloaders.map .downloader ++ crew.changes requests) = .ok s ∧
      ∀ fuel', enough < fuel' → ∃ s' world'', s.start world fuel' = (.finished, s', world'') ∧
        c'.core.Agrees s'.core := by
  cases Crawler.eq_of_pooled made
  rw [← only] at configured
  have ready := Except.ok.inj (configured.symm.trans (Crawler.changeAll_changes crew requests))
  obtain ⟨⟨M, closed⟩, emptied⟩ :=
    closed_of_finished follows only supported stripped fresh ready unstopped finished
  refine ⟨⟨closed.pending, emptied⟩, ?_⟩
  obtain ⟨bound, bounded⟩ := Sequential.exists_bound rd finite
  refine ⟨bound, fun order' => ⟨Sequential.overQueue order' crew requests,
    Crawler.sequential_changeAll _ crew requests, ?_⟩⟩
  intro fuel' enough
  obtain ⟨run, ran, -, ⟨M', sequential⟩, -⟩ :=
    Sequential.start_overQueue follows bounded fresh order' enough
  exact ⟨_, _, ran, closed.agrees sequential⟩

/-- The circle, before it is crawled by one fetcher and one process worker. -/
def circlePool : Crawler (Layered Queue) (String → Nat) :=
  .prepared (.pooled ⟨1, 1, Config.default.waitInterval⟩)
    ((Layered.bare (.empty .fifo)).wrap .exact) (Conduct.circle.players Conduct.circleLinks)
    [.named "a"]

/-- The two workers take turns until both are asleep. -/
def circleMoves : List Move :=
  List.replicate 10 (.fetch 0 0) ++ List.replicate 5 (.process 0) ++
    List.replicate 22 (.fetch 0 0) ++ List.replicate 13 (.process 0) ++
    [.sample, .proceed, .proceed, .fetch 0 0, .proceed, .process 0] ++ List.replicate 4 .proceed

theorem agrees_with_sequential_of_circle :
    ∃ (c₀ c' : Crawler (Layered Queue) (String → Nat)) (world' : String → Nat),
      Crawler.pooled ((Layered.bare (.empty .fifo)).wrap .exact) Conduct.circle.playedDownloader
        ⟨1, 1, Config.default.waitInterval⟩ = .ok c₀ ∧
      c₀.changeAll ((Conduct.circle.players Conduct.circleLinks).changes [.named "a"]) =
        .ok circlePool ∧
      circlePool.startBy Conduct.circle.failures (.along circleMoves) 0 =
        (.finished, c', world') ∧
      c'.core.frontier.base.pending = [] ∧
      ∃ enough, ∀ order : PollOrder, ∃ s : Crawler (Layered Queue) (String → Nat),
        (Crawler.sequential ((Layered.bare (.empty order)).wrap .exact)).changeAll
            ([Conduct.circle.playedDownloader].map .downloader ++
              (Conduct.circle.players Conduct.circleLinks).changes [.named "a"]) = .ok s ∧
        ∀ fuel, enough < fuel → ∃ s' world'',
          s.start Conduct.circle.failures fuel = (.finished, s', world'') ∧
            c'.core.Agrees s'.core := by
  have made : Crawler.pooled (exactly [] (.empty .fifo)) Conduct.circle.playedDownloader
      ⟨1, 1, Config.default.waitInterval⟩ =
        .ok ⟨.new _ _, ⟨[Conduct.circle.playedDownloader], [], []⟩⟩ := rfl
  have configured : Crawler.changeAll ⟨.new _ _, ⟨[Conduct.circle.playedDownloader], [], []⟩⟩
      ((Conduct.circle.players Conduct.circleLinks).changes [.named "a"]) = .ok circlePool :=
    Crawler.changeAll_changes (Conduct.circle.players Conduct.circleLinks) [.named "a"]
  have ran : (circlePool.startBy Conduct.circle.failures (.along circleMoves) 0).1 =
      .finished := rfl
  obtain ⟨⟨pending, -⟩, enough, h⟩ := agrees_with_sequential _ _ _
    (Conduct.follows_players Conduct.playable_circle) _ rfl (fun _ => rfl)
    (fun _ _ yields => yields)
    [.named "a"] Conduct.circle.failures rfl Conduct.finite_circle _ .fifo _ _ _ made configured
    circleMoves (by decide) 0 _ (Prod.ext ran rfl)
  exact ⟨_, _, _, made, configured, Prod.ext ran rfl, pending, enough, h⟩

end Pool

end WebCrawl
