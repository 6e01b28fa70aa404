import WebCrawl.Proofs.Pool.Cancellation

/-!
# Joining the workers

The control joins the fetchers in order, then the process workers, and waits for each until it has
ended, by an exit or by a panic. Who has ended stays so, and once all are joined a pool makes no
further move.
-/

namespace WebCrawl

/-- Whether the control is past the worker with the given index. -/
def Control.HasJoined : Control → Role → Nat → Prop
  | joining .fetch k, .fetch, i => i < k
  | joining .process _, .fetch, _ => True
  | joining .process k, .process, i => i < k
  | done, _, _ => True
  | _, _, _ => False

theorem Control.hasWokenAll_of_hasJoined {c : Control} {role : Role} {i : Nat}
    (h : c.HasJoined role i) : c.hasWokenAll = true := by
  cases c with
  | joining => rfl
  | done => rfl
  | _ => cases h

namespace Pool

variable {S σ : Type} {crew : Crew σ} {d : Downloader σ} {p p' : Pool S σ}

/-- Whoever was joined has ended. -/
structure Joined (crew : Crew σ) (p : Pool S σ) : Prop where
  fetchers : ∀ i, p.control.HasJoined .fetch i → weightAt Fetcher.stepsLeft p.fetchers i = 0
  workers : ∀ i, p.control.HasJoined .process i →
    weightAt (Worker.stepsLeft crew) p.workers i = 0

theorem Joined.early (early : p.control.hasWokenAll = false) : Joined crew p := by
  constructor
  · intro i joined
    rw [Control.hasWokenAll_of_hasJoined joined] at early
    cases early
  · intro i joined
    rw [Control.hasWokenAll_of_hasJoined joined] at early
    cases early

theorem joined_of_controlStep {c : Control} (here : p.control = c) (joined : Joined crew p)
    (step : ControlStep p c p') : Joined crew p' := by
  obtain ⟨fetchers, workers⟩ := joined
  rw [here] at fetchers workers
  cases step with
  | cancels => exact .early rfl
  | wakesFetchers => exact .early rfl
  | wakesProcessors => exact ⟨fun i h => absurd h (Nat.not_lt_zero i), fun i h => h.elim⟩
  | joinsFetcher k f byPanic next ended =>
    have light : f.stepsLeft = 0 := Fetcher.stepsLeft_eq_zero.mpr (by rw [ended]; rfl)
    exact ⟨weightAt_succ next light fetchers, fun i h => h.elim⟩
  | joinedFetchers k none =>
    exact ⟨fun i _ => weightAt_of_outside none fetchers i, fun i h => absurd h (Nat.not_lt_zero i)⟩
  | joinsWorker k w byPanic next ended =>
    have light : w.stepsLeft crew = 0 := (Worker.stepsLeft_eq_zero crew).mpr (by rw [ended]; rfl)
    exact ⟨fun i _ => fetchers i trivial, weightAt_succ next light workers⟩
  | joinedWorkers k none =>
    exact ⟨fun i _ => fetchers i trivial, fun i _ => weightAt_of_outside none workers i⟩

variable [Frontier S]

theorem joined_of_same {m : Move} (reaching : Reaching p) (joined : Joined crew p)
    (step : Step crew d p m p') (same : p'.control = p.control) : Joined crew p' := by
  -- The joined have no move left, and no step gives them one.
  constructor
  · intro i h
    rw [same] at h
    have raised := (reaching.dispersed (Control.hasWokenAll_of_hasJoined h)).raised
    have lighter := (steps_of_step raised step i).1
    have light := joined.fetchers i h
    omega
  · intro i h
    rw [same] at h
    have raised := (reaching.dispersed (Control.hasWokenAll_of_hasJoined h)).raised
    have lighter := (steps_of_step raised step i).2
    have light := joined.workers i h
    omega

theorem joined_of_step {m : Move} (reaching : Reaching p) (joined : Joined crew p)
    (step : Step crew d p m p') : Joined crew p' := by
  have whole := step
  cases step with
  | fetch i wakes f _ here step =>
    exact joined_of_same reaching joined whole (control_of_fetcherStep step)
  | process i w _ here step =>
    exact joined_of_same reaching joined whole (control_of_workerStep step)
  | stops => exact .early rfl
  | ends => exact .early rfl
  | proceed _ step => exact joined_of_controlStep rfl joined step
  | _ => exact joined_of_same reaching joined whole rfl

theorem joined_of_reachable {run : Run S σ} {sizes : PoolSizes} {moves : List Move}
    {q : Pool S σ} (h : (ofRun run sizes).advanceAll crew d moves = some q) : Joined crew q := by
  refine (invariant_of_step (I := fun q => Reaching q ∧ Joined crew q) ?_ ?_ h).2
  · intro q m q' ⟨reaching, joined⟩ step
    exact ⟨reaching_of_step reaching step, joined_of_step reaching joined step⟩
  · exact ⟨.early rfl, .early rfl⟩

/-- All workers have ended and the control is done with them. -/
structure Over (p : Pool S σ) : Prop where
  control : p.control = .done
  fetchers : ∀ f ∈ p.fetchers, f.ended?.isSome = true
  workers : ∀ w ∈ p.workers, w.ended?.isSome = true

theorem over_of_done {run : Run S σ} {sizes : PoolSizes} {moves : List Move} {q : Pool S σ}
    (h : (ofRun run sizes).advanceAll crew d moves = some q) (done : q.control = .done) :
    Over q := by
  obtain ⟨fetchers, workers⟩ := joined_of_reachable h
  rw [done] at fetchers workers
  refine ⟨done, ?_, ?_⟩
  · intro f hf
    obtain ⟨i, here⟩ := List.mem_iff_getElem?.mp hf
    have light := fetchers i trivial
    rw [weightAt_of_getElem? here] at light
    exact Fetcher.stepsLeft_eq_zero.mp light
  · intro w hw
    obtain ⟨i, here⟩ := List.mem_iff_getElem?.mp hw
    have light := workers i trivial
    rw [weightAt_of_getElem? here] at light
    exact (Worker.stepsLeft_eq_zero crew).mp light

theorem Over.advance_eq_none (h : Over p) (m : Move) : p.advance crew d m = none := by
  rw [Option.eq_none_iff_forall_ne_some]
  intro p' moved
  cases step_of_advance moved with
  | fetch i wakes f _ here step =>
    have ended := h.fetchers f (List.mem_of_getElem? here)
    cases step <;> cases ended
  | process i w _ here step =>
    have ended := h.workers w (List.mem_of_getElem? here)
    cases step <;> cases ended
  | stirsFetcher i here => cases h.fetchers _ (List.mem_of_getElem? here)
  | stirsWorker i here => cases h.workers _ (List.mem_of_getElem? here)
  | stops waiting => cases h.control.symm.trans waiting
  | goesOn waiting => cases h.control.symm.trans waiting
  | ends waiting => cases h.control.symm.trans waiting
  | proceed _ step =>
    rw [h.control] at step
    cases step

end Pool

end WebCrawl
