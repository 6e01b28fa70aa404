import WebCrawl.Proofs.Pool.Parking

/-!
# No wake-up is lost

As long as nothing is cancelled, a fetcher that sleeps leaves every pending request to somebody
else: there are at least as many fetchers about to look for work as there are requests. The
responses in the handoff queue are looked after in the same way, or somebody is about to wake all
the sleepers. A pool in which nobody can move has therefore nothing left to do, and the next sample
sees it.
-/

namespace WebCrawl

namespace Fetcher

/-- On the way to its next poll. -/
def searches : Fetcher → Bool
  | seeking | looking | woken => true
  | _ => false

def isAnnouncing : Fetcher → Bool
  | announcing => true
  | _ => false

def isExited : Fetcher → Bool
  | exited => true
  | _ => false

@[simp] theorem isAsleep_wake (f : Fetcher) : f.wake.isAsleep = false := by
  cases f <;> rfl

@[simp] theorem isAnnouncing_wake (f : Fetcher) : f.wake.isAnnouncing = f.isAnnouncing := by
  cases f <;> rfl

@[simp] theorem isExited_wake (f : Fetcher) : f.wake.isExited = f.isExited := by
  cases f <;> rfl

end Fetcher

namespace Worker

def searches : Worker → Bool
  | seeking | looking | woken => true
  | _ => false

def isAsleep : Worker → Bool
  | asleep => true
  | _ => false

def isExited : Worker → Bool
  | exited => true
  | _ => false

@[simp] theorem isAsleep_wake (w : Worker) : w.wake.isAsleep = false := by
  cases w <;> rfl

@[simp] theorem isExited_wake (w : Worker) : w.wake.isExited = w.isExited := by
  cases w <;> rfl

/-- Inside no processor but one of the crew. -/
def Staffed {σ : Type} (crew : Crew σ) : Worker → Prop
  | processing _ k => k < crew.processors.length
  | _ => True

theorem staffed_wake {σ : Type} {crew : Crew σ} {w : Worker} (h : w.Staffed crew) :
    w.wake.Staffed crew := by
  cases w <;> exact h

end Worker

namespace Pool

variable {S σ : Type} [Frontier S] {crew : Crew σ} {d : Downloader σ} {p p' : Pool S σ}

/-- What is pending while somebody sleeps is no more than what those who are awake will look for. -/
structure Attended (p : Pool S σ) : Prop where
  fetchers : 0 < p.fetchers.countP Fetcher.isAsleep →
    Frontier.size p.run.core.frontier ≤ p.fetchers.countP Fetcher.searches
  workers : 0 < p.workers.countP Worker.isAsleep →
    p.handoff.length ≤ p.workers.countP Worker.searches ∨
      0 < p.fetchers.countP Fetcher.isAnnouncing
  nobodyLeft : p.fetchers.countP Fetcher.isExited + p.workers.countP Worker.isExited = 0

/-- Nobody but a sleeper that wakes up for no reason can move. -/
structure Stuck (crew : Crew σ) (d : Downloader σ) (p : Pool S σ) : Prop where
  fetchers : ∀ i wakes, p.advance crew d (.fetch i wakes) = none
  workers : ∀ i, p.advance crew d (.process i) = none

theorem attended_ofRun (run : Run S σ) (sizes : PoolSizes) : Attended (ofRun run sizes) := by
  constructor <;>
    simp [ofRun, List.countP_replicate, Fetcher.isAsleep, Worker.isAsleep, Fetcher.isExited,
      Worker.isExited]

variable [LawfulFrontier S]

theorem attended_of_fetcherStep {i wakes : Nat} {f : Fetcher} (ha : Attended p)
    (on : p.cancelled = false) (here : p.fetchers[i]? = some f)
    (step : FetcherStep d p i wakes f p') : Attended p' := by
  obtain ⟨hf, hw, hleft⟩ := ha
  have searching := toNat_le_countP Fetcher.searches here
  have announcing := toNat_le_countP Fetcher.isAnnouncing here
  have left := toNat_le_countP Fetcher.isExited here
  cases step with
  | leaves free raised =>
    rw [on] at raised
    cases raised
  | resumesAndLeaves free raised =>
    rw [on] at raised
    cases raised
  | takes r s found =>
    have grown := LawfulFrontier.size_of_poll_some found
    constructor <;>
      simp only [countP_set_eq _ _ here, Fetcher.isAsleep, Fetcher.searches,
        Fetcher.isAnnouncing, Fetcher.isExited, Bool.toNat_false, Bool.toNat_true,
        Run.core_update, Core.frontier_enter] at searching announcing left ⊢ <;>
      omega
  | parks s dry =>
    have empty := (LawfulFrontier.size_of_dry_poll dry).2
    constructor <;>
      simp only [countP_set_eq _ _ here, Fetcher.isAsleep, Fetcher.searches,
        Fetcher.isAnnouncing, Fetcher.isExited, Bool.toNat_false, Bool.toNat_true,
        Run.core_update, Core.frontier_say] at searching announcing left ⊢ <;>
      omega
  | announces =>
    constructor <;>
      simp only [countP_set_eq _ _ here, Fetcher.isAsleep, Fetcher.searches,
        Fetcher.isAnnouncing, Fetcher.isExited, Bool.toNat_false, Bool.toNat_true,
        countP_map_of_none Worker.isAsleep_wake,
        countP_map_of_same Worker.isExited_wake] at searching announcing left ⊢ <;>
      omega
  | handsOff response free =>
    constructor <;>
      simp only [countP_set_eq _ _ here, Fetcher.isAsleep, Fetcher.searches,
        Fetcher.isAnnouncing, Fetcher.isExited, Bool.toNat_false, Bool.toNat_true,
        Run.core_update, Core.frontier_enter] at searching announcing left ⊢ <;>
      omega
  | requeues r free nobody =>
    -- The request comes back, but nobody sleeps who could miss it.
    have awake : (p.fetchers.set i .seeking).countP Fetcher.isAsleep = 0 :=
      List.countP_eq_zero.mpr (List.any_eq_false.mp nobody)
    constructor <;>
      simp only [awake, countP_set_eq _ _ here, Fetcher.searches, Fetcher.isAnnouncing,
        Fetcher.isExited, Bool.toNat_false] at announcing left ⊢ <;>
      omega
  | requeuesAndWakes r free sleeper =>
    have grown : Frontier.size (p.run.core.requeue r).frontier ≤
        Frontier.size p.run.core.frontier + 1 := LawfulFrontier.size_requeue_le _ r
    have sleeping := toNat_le_countP Fetcher.isAsleep sleeper
    constructor <;>
      simp only [countP_set_eq _ _ sleeper, countP_set_eq _ _ here, Fetcher.isAsleep,
        Fetcher.searches, Fetcher.isAnnouncing, Fetcher.isExited, Bool.toNat_false,
        Bool.toNat_true, Run.core_update] at searching announcing left sleeping ⊢ <;>
      omega
  | _ =>
    constructor <;>
      simp only [countP_set_eq _ _ here, Fetcher.isAsleep, Fetcher.searches,
        Fetcher.isAnnouncing, Fetcher.isExited, Bool.toNat_false, Bool.toNat_true,
        Run.core_update, Run.frontier_perform, Core.frontier_enter, Core.frontier_say,
        Core.frontier_tally] at searching announcing left ⊢ <;>
      omega

theorem attended_of_workerStep {i : Nat} {w : Worker} (ha : Attended p)
    (on : p.cancelled = false) (here : p.workers[i]? = some w)
    (step : WorkerStep crew p i w p') : Attended p' := by
  obtain ⟨hf, hw, hleft⟩ := ha
  have searching := toNat_le_countP Worker.searches here
  have sleeping := toNat_le_countP Worker.isAsleep here
  have left := toNat_le_countP Worker.isExited here
  cases step with
  | leaves free raised =>
    rw [on] at raised
    cases raised
  | resumesAndLeaves free raised =>
    rw [on] at raised
    cases raised
  | takes response rest found =>
    simp only [found, List.length_cons] at hw
    constructor <;>
      simp only [countP_set_eq _ _ here, Worker.isAsleep, Worker.searches, Worker.isExited,
        Bool.toNat_false, Bool.toNat_true, Run.core_update, Core.frontier_say,
        Core.frontier_enter] at searching sleeping left ⊢ <;>
      omega
  | parks dry =>
    constructor <;>
      simp only [dry, List.length_nil, countP_set_eq _ _ here, Worker.isAsleep, Worker.searches,
        Worker.isExited, Bool.toNat_false, Bool.toNat_true, Run.core_update,
        Core.frontier_say] at searching sleeping left ⊢ <;>
      omega
  | publishes carrier free =>
    have grown := LawfulFrontier.size_pushDiscovered p.run.core carrier.discovered
    split
    · constructor <;>
        simp only [countP_set_eq _ _ here, Worker.isAsleep, Worker.searches, Worker.isExited,
          Bool.toNat_false, Run.core_update, Core.frontier_say] at searching sleeping left ⊢ <;>
        omega
    · constructor <;>
        simp only [countP_map_of_none Fetcher.isAsleep_wake,
          countP_map_of_same Fetcher.isAnnouncing_wake,
          countP_map_of_same Fetcher.isExited_wake, countP_set_eq _ _ here, Worker.isAsleep,
          Worker.searches, Worker.isExited, Bool.toNat_false] at searching sleeping left ⊢ <;>
        omega
  | _ =>
    constructor <;>
      simp only [countP_set_eq _ _ here, Worker.isAsleep, Worker.searches, Worker.isExited,
        Bool.toNat_false, Bool.toNat_true, core_entering, Run.core_update,
        Run.frontier_perform, Core.frontier_enter, Core.frontier_say,
        Core.frontier_tally] at searching sleeping left ⊢ <;>
      omega

omit [LawfulFrontier S] in
theorem on_of_step {m : Move} (step : Step crew d p m p') (on : p'.cancelled = false) :
    p.cancelled = false := by
  cases step with
  | fetch i wakes f _ here step => cases step <;> exact on
  | process i w _ here step => cases step <;> exact on
  | proceed _ step =>
    generalize p.control = c at step
    cases step with
    | cancels => cases on
    | _ => exact on
  | _ => exact on

omit [LawfulFrontier S] in
theorem attended_of_controlStep {c : Control} (ha : Attended p) (on : p'.cancelled = false)
    (step : ControlStep p c p') : Attended p' := by
  obtain ⟨hf, hw, hleft⟩ := ha
  cases step with
  | cancels => cases on
  | wakesFetchers =>
    constructor <;>
      simp only [countP_map_of_none Fetcher.isAsleep_wake,
        countP_map_of_same Fetcher.isAnnouncing_wake,
        countP_map_of_same Fetcher.isExited_wake] <;>
      omega
  | wakesProcessors =>
    constructor <;>
      simp only [countP_map_of_none Worker.isAsleep_wake,
        countP_map_of_same Worker.isExited_wake] <;>
      omega
  | _ => exact ⟨hf, hw, hleft⟩

theorem attended_of_step {m : Move} (ha : p.cancelled = false → Attended p)
    (step : Step crew d p m p') (on' : p'.cancelled = false) : Attended p' := by
  have on := on_of_step step on'
  have attended := ha on
  cases step with
  | fetch i wakes f _ here step => exact attended_of_fetcherStep attended on here step
  | process i w _ here step => exact attended_of_workerStep attended on here step
  | stirsFetcher i here =>
    obtain ⟨hf, hw, hleft⟩ := attended
    have sleeping := toNat_le_countP Fetcher.isAsleep here
    constructor <;>
      simp only [countP_set_eq _ _ here, Fetcher.isAsleep, Fetcher.searches,
        Fetcher.isAnnouncing, Fetcher.isExited, Bool.toNat_false,
        Bool.toNat_true] at sleeping ⊢ <;>
      omega
  | stirsWorker i here =>
    obtain ⟨hf, hw, hleft⟩ := attended
    have sleeping := toNat_le_countP Worker.isAsleep here
    constructor <;>
      simp only [countP_set_eq _ _ here, Worker.isAsleep, Worker.searches, Worker.isExited,
        Bool.toNat_false, Bool.toNat_true] at sleeping ⊢ <;>
      omega
  | proceed _ step => exact attended_of_controlStep attended on' step
  | _ => exact ⟨attended.fetchers, attended.workers, attended.nobodyLeft⟩

theorem attended_of_reachable {run : Run S σ} {sizes : PoolSizes} {moves : List Move}
    {q : Pool S σ} (h : (ofRun run sizes).advanceAll crew d moves = some q)
    (on : q.cancelled = false) : Attended q :=
  invariant_of_step (I := fun q => q.cancelled = false → Attended q) attended_of_step
    (fun _ => attended_ofRun run sizes) h on

omit [LawfulFrontier S] in
theorem staffed_of_step {m : Move} (hs : ∀ w ∈ p.workers, w.Staffed crew)
    (step : Step crew d p m p') : ∀ w ∈ p'.workers, w.Staffed crew := by
  have woken : ∀ w ∈ p.workers.map Worker.wake, w.Staffed crew := by
    intro w hw
    obtain ⟨w, old, rfl⟩ := List.mem_map.mp hw
    exact Worker.staffed_wake (hs w old)
  cases step with
  | fetch i wakes f _ here step =>
    cases step with
    | announces => exact woken
    | _ => exact hs
  | process i w _ here step =>
    cases step with
    | selects response k processor asked =>
      exact forall_mem_set hs (List.getElem?_eq_some_iff.mp asked).1
    | _ => exact forall_mem_set hs trivial
  | stirsWorker i here => exact forall_mem_set hs trivial
  | proceed _ step =>
    generalize p.control = c at step
    cases step with
    | wakesProcessors => exact woken
    | _ => exact hs
  | _ => exact hs

omit [LawfulFrontier S] in
theorem staffed_of_reachable {run : Run S σ} {sizes : PoolSizes} {moves : List Move}
    {q : Pool S σ} (h : (ofRun run sizes).advanceAll crew d moves = some q) :
    ∀ w ∈ q.workers, w.Staffed crew := by
  refine invariant_of_step (I := fun q => ∀ w ∈ q.workers, w.Staffed crew) staffed_of_step ?_ h
  intro w hw
  rw [List.eq_of_mem_replicate hw]
  trivial

omit [LawfulFrontier S] in
theorem exists_moveFetcher {i : Nat} {f : Fetcher} (free : p.frontierFree = true)
    (freeHandoff : p.handoffFree = true) (stays : f.isExited = false) (awake : f ≠ .asleep)
    (alive : f ≠ .dead) : ∃ wakes p', p.moveFetcher d i wakes f = some p' := by
  cases f with
  | asleep => exact absurd rfl awake
  | exited => cases stays
  | dead => exact absurd rfl alive
  | looking =>
    refine ⟨0, ?_⟩
    simp only [moveFetcher]
    split <;> exact ⟨_, rfl⟩
  | downloading r =>
    refine ⟨0, ?_⟩
    simp only [moveFetcher]
    split
    · split <;> exact ⟨_, rfl⟩
    · exact ⟨_, rfl⟩
  | requeueing r =>
    -- The fetcher to be woken is any that sleeps.
    by_cases sleeper : ∃ j : Nat, (p.fetchers.set i .seeking)[j]? = some Fetcher.asleep
    · obtain ⟨j, sleeper⟩ := sleeper
      have some_asleep : (p.fetchers.set i .seeking).any Fetcher.isAsleep = true :=
        List.any_eq_true.mpr ⟨.asleep, List.mem_of_getElem? sleeper, rfl⟩
      refine ⟨j, ?_⟩
      simp [moveFetcher, free, wakeFetcher?, setFetcher, update, some_asleep, sleeper]
    · have none_asleep : ¬ (p.fetchers.set i .seeking).any Fetcher.isAsleep = true := by
        intro some_asleep
        obtain ⟨f, hf, asleep⟩ := List.any_eq_true.mp some_asleep
        obtain ⟨j, at_j⟩ := List.mem_iff_getElem?.mp hf
        cases f with
        | asleep => exact sleeper ⟨j, at_j⟩
        | _ => cases asleep
      refine ⟨0, ?_⟩
      simp [moveFetcher, free, wakeFetcher?, setFetcher, update, none_asleep]
  | _ =>
    refine ⟨0, ?_⟩
    simp [moveFetcher, free, freeHandoff]

omit [LawfulFrontier S] in
theorem exists_moveWorker {i : Nat} {w : Worker} (free : p.frontierFree = true)
    (freeHandoff : p.handoffFree = true) (staffed : w.Staffed crew) (stays : w.isExited = false)
    (awake : w ≠ .asleep) (alive : w ≠ .dead) : ∃ p', p.moveWorker crew i w = some p' := by
  cases w with
  | asleep => exact absurd rfl awake
  | exited => cases stays
  | dead => exact absurd rfl alive
  | looking =>
    simp only [moveWorker]
    split <;> exact ⟨_, rfl⟩
  | selecting response k =>
    simp only [moveWorker]
    split
    · exact ⟨_, rfl⟩
    · split <;> exact ⟨_, rfl⟩
  | processing response k =>
    have known : crew.processors[k]? = some crew.processors[k] := List.getElem?_eq_getElem staffed
    simp only [moveWorker, known]
    split <;> exact ⟨_, rfl⟩
  | piping carrier k =>
    simp only [moveWorker]
    split
    · exact ⟨_, rfl⟩
    · split
      · split <;> exact ⟨_, rfl⟩
      · exact ⟨_, rfl⟩
  | _ => simp [moveWorker, free, freeHandoff]

omit [LawfulFrontier S] in
theorem Stuck.moveFetcher {i : Nat} {f : Fetcher} (hs : Stuck crew d p) (wakes : Nat)
    (here : p.fetchers[i]? = some f) : p.moveFetcher d i wakes f = none := by
  have h := hs.fetchers i wakes
  simp only [advance, here] at h
  exact h

omit [LawfulFrontier S] in
theorem Stuck.moveWorker {i : Nat} {w : Worker} (hs : Stuck crew d p)
    (here : p.workers[i]? = some w) : p.moveWorker crew i w = none := by
  have h := hs.workers i
  simp only [advance, here] at h
  exact h

omit [LawfulFrontier S] in
theorem Stuck.frontierFree (hs : Stuck crew d p) : p.frontierFree = true := by
  rw [Pool.frontierFree, Bool.not_eq_true', List.any_eq_false]
  intro f hf looking
  obtain ⟨i, here⟩ := List.mem_iff_getElem?.mp hf
  have blocked := hs.moveFetcher 0 here
  cases f with
  | looking =>
    simp only [Pool.moveFetcher] at blocked
    split at blocked <;> cases blocked
  | _ => cases looking

omit [LawfulFrontier S] in
theorem Stuck.handoffFree (hs : Stuck crew d p) : p.handoffFree = true := by
  rw [Pool.handoffFree, Bool.not_eq_true', List.any_eq_false]
  intro w hw looking
  obtain ⟨i, here⟩ := List.mem_iff_getElem?.mp hw
  have blocked := hs.moveWorker here
  cases w with
  | looking =>
    simp only [Pool.moveWorker] at blocked
    split at blocked <;> cases blocked
  | _ => cases looking

omit [LawfulFrontier S] in
theorem Stuck.fetcher (hs : Stuck crew d p) {f : Fetcher} (hf : f ∈ p.fetchers)
    (stays : f.isExited = false) : f = .asleep ∨ f = .dead := by
  obtain ⟨i, here⟩ := List.mem_iff_getElem?.mp hf
  by_cases asleep : f = .asleep
  · exact .inl asleep
  by_cases dead : f = .dead
  · exact .inr dead
  obtain ⟨wakes, p', moved⟩ : ∃ wakes p', p.moveFetcher d i wakes f = some p' :=
    exists_moveFetcher hs.frontierFree hs.handoffFree stays asleep dead
  rw [hs.moveFetcher wakes here] at moved
  cases moved

omit [LawfulFrontier S] in
theorem Stuck.worker (hs : Stuck crew d p) {w : Worker} (hw : w ∈ p.workers)
    (staffed : w.Staffed crew) (stays : w.isExited = false) : w = .asleep ∨ w = .dead := by
  obtain ⟨i, here⟩ := List.mem_iff_getElem?.mp hw
  by_cases asleep : w = .asleep
  · exact .inl asleep
  by_cases dead : w = .dead
  · exact .inr dead
  obtain ⟨p', moved⟩ : ∃ p', p.moveWorker crew i w = some p' :=
    exists_moveWorker hs.frontierFree hs.handoffFree staffed stays asleep dead
  rw [hs.moveWorker here] at moved
  cases moved

omit [LawfulFrontier S] in
theorem stuck_of_rest (restF : ∀ f ∈ p.fetchers, f = .asleep ∨ f = .dead)
    (restW : ∀ w ∈ p.workers, w = .asleep ∨ w = .dead) : Stuck crew d p := by
  constructor
  · intro i wakes
    simp only [advance]
    cases here : p.fetchers[i]? with
    | none => rfl
    | some f => rcases restF f (List.mem_of_getElem? here) with rfl | rfl <;> rfl
  · intro i
    simp only [advance]
    cases here : p.workers[i]? with
    | none => rfl
    | some w => rcases restW w (List.mem_of_getElem? here) with rfl | rfl <;> rfl

omit [LawfulFrontier S] in
/-- A pool that is stuck before its cancellation is asleep, but for those a panic has ended. -/
theorem Stuck.rest (hs : Stuck crew d p) (ha : Attended p)
    (staffed : ∀ w ∈ p.workers, w.Staffed crew) :
    (∀ f ∈ p.fetchers, f = .asleep ∨ f = .dead) ∧
      ∀ w ∈ p.workers, w = .asleep ∨ w = .dead := by
  have left := ha.nobodyLeft
  have fetchers : ∀ f ∈ p.fetchers, ¬ f.isExited = true := List.countP_eq_zero.mp (by omega)
  have workers : ∀ w ∈ p.workers, ¬ w.isExited = true := List.countP_eq_zero.mp (by omega)
  exact ⟨fun f hf => hs.fetcher hf (Bool.eq_false_iff.mpr (fetchers f hf)),
    fun w hw => hs.worker hw (staffed w hw) (Bool.eq_false_iff.mpr (workers w hw))⟩

omit [LawfulFrontier S] in
theorem Attended.frontier_empty (ha : Attended p)
    (rest : ∀ f ∈ p.fetchers, f = .asleep ∨ f = .dead)
    (alive : ∃ f ∈ p.fetchers, f.isDead = false) : Frontier.size p.run.core.frontier = 0 := by
  have asleep : 0 < p.fetchers.countP Fetcher.isAsleep := by
    obtain ⟨f, hf, alive⟩ := alive
    rcases rest f hf with rfl | rfl
    · exact List.countP_pos_iff.mpr ⟨_, hf, rfl⟩
    · cases alive
  have nobody : p.fetchers.countP Fetcher.searches = 0 := by
    apply List.countP_eq_zero.mpr
    intro f hf
    rcases rest f hf with rfl | rfl <;> exact Bool.false_ne_true
  have covered := ha.fetchers asleep
  omega

omit [LawfulFrontier S] in
theorem Attended.handoff_empty (ha : Attended p)
    (restF : ∀ f ∈ p.fetchers, f = .asleep ∨ f = .dead)
    (restW : ∀ w ∈ p.workers, w = .asleep ∨ w = .dead)
    (alive : ∃ w ∈ p.workers, w.isDead = false) : p.handoff = [] := by
  have asleep : 0 < p.workers.countP Worker.isAsleep := by
    obtain ⟨w, hw, alive⟩ := alive
    rcases restW w hw with rfl | rfl
    · exact List.countP_pos_iff.mpr ⟨_, hw, rfl⟩
    · cases alive
  have nobody : p.workers.countP Worker.searches = 0 := by
    apply List.countP_eq_zero.mpr
    intro w hw
    rcases restW w hw with rfl | rfl <;> exact Bool.false_ne_true
  have silent : p.fetchers.countP Fetcher.isAnnouncing = 0 := by
    apply List.countP_eq_zero.mpr
    intro f hf
    rcases restF f hf with rfl | rfl <;> exact Bool.false_ne_true
  have covered := ha.workers asleep
  exact List.length_eq_zero_iff.mp (by omega)

omit [Frontier S] [LawfulFrontier S] in
theorem Parked.eq_size_of_rest (hp : Parked p)
    (restF : ∀ f ∈ p.fetchers, f = .asleep ∨ f = .dead)
    (restW : ∀ w ∈ p.workers, w = .asleep ∨ w = .dead) : p.parked = p.size := by
  have fetchers : p.fetchers.countP Fetcher.isCounted = p.fetchers.length := by
    apply List.countP_eq_length.mpr
    intro f hf
    rcases restF f hf with rfl | rfl <;> rfl
  have workers : p.workers.countP Worker.isCounted = p.workers.length := by
    apply List.countP_eq_length.mpr
    intro w hw
    rcases restW w hw with rfl | rfl <;> rfl
  unfold Parked at hp
  unfold size
  omega

end Pool

namespace Pool

variable {σ : Type}

/-- A pool that has not been cancelled, in which a worker of either kind is left and in which nobody
can move, has nothing left to do, and the control sees it with its next sample. -/
theorem no_lost_wakeup (crew : Crew σ) (d : Downloader σ) (run : Run (Layered Queue) σ)
    (sizes : PoolSizes) (moves : List Move) (q : Pool (Layered Queue) σ)
    (h : (ofRun run sizes).advanceAll crew d moves = some q) (on : q.cancelled = false)
    (fetcher : ∃ f ∈ q.fetchers, f.isDead = false)
    (worker : ∃ w ∈ q.workers, w.isDead = false) (stuck : Stuck crew d q) :
    q.run.core.frontier.base.pending = [] ∧ q.handoff = [] ∧ q.quiescent = true ∧
      (∀ f ∈ q.fetchers, f = .asleep ∨ f = .dead) ∧
      (∀ w ∈ q.workers, w = .asleep ∨ w = .dead) ∧
      (q.control = .waiting →
        ∃ q', q.advance crew d .sample = some q' ∧ q'.control = .cancelling) := by
  have attended : Attended q := attended_of_reachable h on
  have parked : Parked q := parked_of_reachable h
  obtain ⟨restF, restW⟩ := stuck.rest attended (staffed_of_reachable h)
  have frontier := attended.frontier_empty restF fetcher
  have handoff := attended.handoff_empty restF restW worker
  have quiet : q.quiescent = true := by
    simp [quiescent, parked.eq_size_of_rest restF restW, LawfulFrontier.isEmpty_eq, frontier,
      handoff]
  refine ⟨List.length_eq_zero_iff.mp frontier, handoff, quiet, restF, restW, ?_⟩
  intro waiting
  have possible : q.advance crew d .sample = some q.takeSample :=
    if_pos ⟨waiting, stuck.frontierFree, stuck.handoffFree⟩
  refine ⟨q.takeSample, possible, ?_⟩
  have quiet_said : (q.say q.sampleNote).quiescent = true := quiet
  exact congrArg Pool.control (if_pos quiet_said)

theorem no_lost_wakeup_of_one_page :
    ∃ q, (ofRun onePage ⟨1, 1, default⟩).advanceAll .empty blank
        (List.replicate 10 (.fetch 0 0) ++ List.replicate 6 (.process 0)) = some q ∧
      q.cancelled = false ∧ Stuck .empty blank q ∧ q.handoff = [] ∧ q.quiescent = true := by
  have end_of_run : ((ofRun onePage ⟨1, 1, default⟩).advanceAll .empty blank
      (List.replicate 10 (.fetch 0 0) ++ List.replicate 6 (.process 0))).map
        (fun q => (q.cancelled, q.fetchers, q.workers)) =
          some (false, [.asleep], [.asleep]) := rfl
  obtain ⟨q, h, values⟩ := Option.map_eq_some_iff.mp end_of_run
  obtain ⟨on, workers⟩ := Prod.mk.inj values
  obtain ⟨fetchers, workers⟩ := Prod.mk.inj workers
  have stuck : Stuck .empty blank q := by
    constructor
    · intro i wakes
      cases i <;> simp [advance, fetchers, moveFetcher]
    · intro i
      cases i <;> simp [advance, workers, moveWorker]
  have lost := no_lost_wakeup .empty blank onePage ⟨1, 1, default⟩ _ q h on
    ⟨.asleep, by simp [fetchers], rfl⟩ ⟨.asleep, by simp [workers], rfl⟩ stuck
  exact ⟨q, h, on, stuck, lost.2.1, lost.2.2.1⟩

end Pool

end WebCrawl
