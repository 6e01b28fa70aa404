import Mathlib.Algebra.Order.BigOperators.Group.Finset
import WebCrawl.Proofs.Pool.Joining

/-!
# A pool winds up

Once the control is past its waiting, the end of the crawl cannot be held up: as long as the control
is not done, somebody can make a move that needs no wake-up out of nothing, and from the
cancellation on every such move brings the end nearer by one.
-/

namespace WebCrawl

/-- Wakes somebody for no reason. -/
def Move.isStir : Move → Bool
  | stir .. => true
  | _ => false

/-- How many moves the control makes at most until it is done with pools of these sizes. -/
def Control.stepsLeft (fetchers workers : Nat) : Control → Nat
  | waiting => fetchers + workers + 6
  | cancelling => fetchers + workers + 5
  | wakingFetchers => fetchers + workers + 4
  | wakingProcessors => fetchers + workers + 3
  | joining .fetch k => fetchers - k + workers + 2
  | joining .process k => workers - k + 1
  | done => 0

section weightAt

variable {α : Type} {weight : α → Nat} {l l' : List α}

theorem sum_map_eq (weight : α → Nat) (l : List α) :
    (l.map weight).sum = ∑ i ∈ Finset.range l.length, weightAt weight l i := by
  induction l with
  | nil => rfl
  | cons a rest ih =>
    rw [List.map_cons, List.sum_cons, List.length_cons, Finset.sum_range_succ', ih, Nat.add_comm]
    rfl

theorem sum_map_le (length : l'.length = l.length)
    (lighter : ∀ j, weightAt weight l' j ≤ weightAt weight l j) :
    (l'.map weight).sum ≤ (l.map weight).sum := by
  rw [sum_map_eq, sum_map_eq, length]
  apply Finset.sum_le_sum
  intro j _
  exact lighter j

theorem sum_map_lt {i : Nat} (length : l'.length = l.length)
    (lighter : ∀ j, weightAt weight l' j ≤ weightAt weight l j)
    (lightened : weightAt weight l' i < weightAt weight l i) :
    (l'.map weight).sum < (l.map weight).sum := by
  have inside : i < l.length := by
    by_contra outside
    rw [weightAt_of_none (List.getElem?_eq_none_iff.mpr (Nat.le_of_not_lt outside))] at lightened
    exact absurd lightened (Nat.not_lt_zero _)
  rw [sum_map_eq, sum_map_eq, length]
  apply Finset.sum_lt_sum
  · intro j _
    exact lighter j
  · exact ⟨i, Finset.mem_range.mpr inside, lightened⟩

end weightAt

namespace Pool

variable {S σ : Type} {crew : Crew σ} {d : Downloader σ} {p p' q : Pool S σ}

/-- How many moves are made at most once the cancellation is raised, but for those that wake
somebody for no reason. -/
def movesLeft (crew : Crew σ) (p : Pool S σ) : Nat :=
  (p.fetchers.map Fetcher.stepsLeft).sum + (p.workers.map (Worker.stepsLeft crew)).sum +
    p.control.stepsLeft p.fetchers.length p.workers.length

theorem stepsLeft_of_controlStep {c : Control} (step : ControlStep p c p') :
    p'.control.stepsLeft p.fetchers.length p.workers.length <
      c.stepsLeft p.fetchers.length p.workers.length := by
  cases step with
  | joinsFetcher k f byPanic next =>
    have known := (List.getElem?_eq_some_iff.mp next).1
    simp only [Control.stepsLeft]
    omega
  | joinsWorker k w byPanic next =>
    have known := (List.getElem?_eq_some_iff.mp next).1
    simp only [Control.stepsLeft]
    omega
  | _ =>
    simp only [Control.stepsLeft]
    omega

variable [Frontier S]

theorem hasRaised_of_step {m : Move} (h : p.cancelled = true → p.control.hasRaised = true)
    (step : Step crew d p m p') : p'.cancelled = true → p'.control.hasRaised = true := by
  cases step with
  | fetch i wakes f _ here step => cases step <;> exact h
  | process i w _ here step => cases step <;> exact h
  | stops waiting =>
    rw [waiting] at h
    exact h
  | ends waiting =>
    rw [waiting] at h
    exact h
  | proceed _ step =>
    generalize p.control = c at step
    cases step <;> exact fun _ => rfl
  | _ => exact h

theorem hasRaised_of_reachable {run : Run S σ} {sizes : PoolSizes} {moves : List Move}
    (h : (ofRun run sizes).advanceAll crew d moves = some q) (raised : q.cancelled = true) :
    q.control.hasRaised = true := by
  refine invariant_of_step (I := fun q => q.cancelled = true → q.control.hasRaised = true)
    hasRaised_of_step ?_ h raised
  intro raised
  cases raised

/-- After the cancellation every move that is not a wake-up out of nothing brings the end nearer. -/
theorem movesLeft_of_step {m : Move} (raised : p.cancelled = true)
    (further : p.control.hasRaised = true) (step : Step crew d p m p') :
    (!m.isStir).toNat + p'.movesLeft crew ≤ p.movesLeft crew := by
  obtain ⟨lengthF, lengthW⟩ := length_of_step step
  have steps := steps_of_step raised step
  have lighterF : ∀ j, weightAt Fetcher.stepsLeft p'.fetchers j ≤
      weightAt Fetcher.stepsLeft p.fetchers j := by
    intro j
    have bound := (steps j).1
    omega
  have lighterW : ∀ j, weightAt (Worker.stepsLeft crew) p'.workers j ≤
      weightAt (Worker.stepsLeft crew) p.workers j := by
    intro j
    have bound := (steps j).2
    omega
  have fetchers := sum_map_le lengthF lighterF
  have workers := sum_map_le lengthW lighterW
  rw [movesLeft, movesLeft, lengthF, lengthW]
  -- Who moves has one move less, and nobody has more.
  cases step with
  | fetch i wakes f _ here step =>
    have moved := (steps i).1
    rw [Move.isFetch, beq_self_eq_true, Bool.toNat_true] at moved
    have fewer := sum_map_lt (i := i) lengthF lighterF (by omega)
    rw [control_of_fetcherStep step]
    simp only [Move.isStir, Bool.not_false, Bool.toNat_true]
    omega
  | process i w _ here step =>
    have moved := (steps i).2
    rw [Move.isProcess, beq_self_eq_true, Bool.toNat_true] at moved
    have fewer := sum_map_lt (i := i) lengthW lighterW (by omega)
    rw [control_of_workerStep step]
    simp only [Move.isStir, Bool.not_false, Bool.toNat_true]
    omega
  | stirsFetcher i here =>
    simp only [Move.isStir, Bool.not_true, Bool.toNat_false] at fetchers workers ⊢
    omega
  | stirsWorker i here =>
    simp only [Move.isStir, Bool.not_true, Bool.toNat_false] at fetchers workers ⊢
    omega
  | stops waiting =>
    rw [waiting] at further
    cases further
  | goesOn waiting =>
    rw [waiting] at further
    cases further
  | ends waiting =>
    rw [waiting] at further
    cases further
  | proceed _ step =>
    have nearer := stepsLeft_of_controlStep step
    simp only [Move.isStir, Bool.not_false, Bool.toNat_true]
    omega

theorem movesLeft_of_advanceAll {moves : List Move} (raised : p.cancelled = true)
    (further : p.control.hasRaised = true) (h : p.advanceAll crew d moves = some q) :
    moves.countP (!·.isStir) + q.movesLeft crew ≤ p.movesLeft crew := by
  induction moves generalizing p with
  | nil =>
    cases h
    exact (Nat.zero_add _).le
  | cons m rest ih =>
    obtain ⟨next, moved, h⟩ := Option.bind_eq_some_iff.mp h
    have step := step_of_advance moved
    have first := movesLeft_of_step raised further step
    have raised' := raised_of_step raised step
    have others := ih raised' (hasRaised_of_step (fun _ => further) step raised') h
    rw [countP_cons_toNat]
    omega

theorem exists_move_of_not_stuck (h : ¬ Stuck crew d p) :
    ∃ m q, m.isStir = false ∧ p.advance crew d m = some q := by
  by_contra still
  apply h
  constructor
  · intro i wakes
    rw [Option.eq_none_iff_forall_ne_some]
    intro q moved
    exact still ⟨.fetch i wakes, q, rfl, moved⟩
  · intro i
    rw [Option.eq_none_iff_forall_ne_some]
    intro q moved
    exact still ⟨.process i, q, rfl, moved⟩

theorem Stuck.fetcher_ended (stuck : Stuck crew d p) (dispersed : Dispersed p) {f : Fetcher}
    (hf : f ∈ p.fetchers) : ∃ byPanic, f.ended? = some byPanic := by
  cases gone : f.isExited with
  | true =>
    cases f with
    | exited => exact ⟨false, rfl⟩
    | _ => cases gone
  | false =>
    rcases stuck.fetcher hf gone with rfl | rfl
    · cases dispersed.fetchers _ hf
    · exact ⟨true, rfl⟩

theorem Stuck.worker_ended (stuck : Stuck crew d p) (dispersed : Dispersed p) {w : Worker}
    (hw : w ∈ p.workers) (staffed : w.Staffed crew) : ∃ byPanic, w.ended? = some byPanic := by
  cases gone : w.isExited with
  | true =>
    cases w with
    | exited => exact ⟨false, rfl⟩
    | _ => cases gone
  | false =>
    rcases stuck.worker hw staffed gone with rfl | rfl
    · cases dispersed.workers _ hw
    · exact ⟨true, rfl⟩

theorem Stuck.proceeds (stuck : Stuck crew d p) (reaching : Reaching p)
    (staffed : ∀ w ∈ p.workers, w.Staffed crew) (begun : p.control ≠ .waiting)
    (busy : p.control ≠ .done) : ∃ q, p.advance crew d .proceed = some q := by
  rw [advance]
  rcases control : p.control with _ | _ | _ | _ | ⟨role, k⟩ | _
  · exact absurd control begun
  · exact ⟨_, rfl⟩
  · exact ⟨_, if_pos stuck.frontierFree⟩
  · exact ⟨_, if_pos stuck.handoffFree⟩
  · have dispersed := reaching.dispersed (by rw [control]; rfl)
    rcases role with _ | _
    · simp only [moveControl]
      split
      · exact ⟨_, rfl⟩
      · rename_i f here
        obtain ⟨byPanic, ended⟩ := stuck.fetcher_ended dispersed (List.mem_of_getElem? here)
        rw [ended]
        exact ⟨_, rfl⟩
    · simp only [moveControl]
      split
      · exact ⟨_, rfl⟩
      · rename_i w here
        have member := List.mem_of_getElem? here
        obtain ⟨byPanic, ended⟩ := stuck.worker_ended dispersed member (staffed w member)
        rw [ended]
        exact ⟨_, rfl⟩
  · exact absurd control busy

/-- As long as the control is not done, somebody makes a move after which the cancellation is
raised, and from then on the moves that are left are counted. -/
structure WindsUp (crew : Crew σ) (d : Downloader σ) (p : Pool S σ) : Prop where
  goes_on : p.control ≠ .done →
    ∃ m q, m.isStir = false ∧ p.advance crew d m = some q ∧ q.cancelled = true
  bounded : p.cancelled = true → ∀ moves q, p.advanceAll crew d moves = some q →
    moves.countP (!·.isStir) + q.movesLeft crew ≤ p.movesLeft crew

theorem windsUp_of_reachable {run : Run S σ} {sizes : PoolSizes} {moves : List Move}
    (h : (ofRun run sizes).advanceAll crew d moves = some q) (begun : q.control ≠ .waiting) :
    WindsUp crew d q := by
  have reaching := reaching_of_reachable h
  constructor
  · intro busy
    by_cases raised : q.cancelled = true
    · obtain ⟨m, next, quiet, moved⟩ : ∃ m next, m.isStir = false ∧
          q.advance crew d m = some next := by
        by_cases stuck : Stuck crew d q
        · obtain ⟨next, moved⟩ := stuck.proceeds reaching (staffed_of_reachable h) begun busy
          exact ⟨.proceed, next, rfl, moved⟩
        · exact exists_move_of_not_stuck stuck
      exact ⟨m, next, quiet, moved, raised_of_step raised (step_of_advance moved)⟩
    · -- The control is about to raise it.
      have early : q.control = .cancelling := by
        rcases control : q.control with _ | _ | _ | _ | _ | _
        · exact absurd control begun
        · rfl
        all_goals exact absurd (reaching.raised (by rw [control]; rfl)) raised
      obtain ⟨next, moved⟩ : ∃ next, q.advance crew d .proceed = some next := by
        rw [advance, early]
        exact ⟨_, rfl⟩
      refine ⟨.proceed, next, rfl, moved, ?_⟩
      cases step_of_advance moved with
      | proceed _ step =>
        rw [early] at step
        cases step
        rfl
  · intro raised moves q' moved
    exact movesLeft_of_advanceAll raised (hasRaised_of_reachable h raised) moved

theorem begun_of_step {m : Move} (begun : p.control ≠ .waiting) (step : Step crew d p m p') :
    p'.control ≠ .waiting := by
  cases step with
  | fetch i wakes f _ here step => rwa [control_of_fetcherStep step]
  | process i w _ here step => rwa [control_of_workerStep step]
  | proceed _ step =>
    generalize p.control = c at step
    cases step <;> intro waiting <;> cases waiting
  | stops => exact fun waiting => by cases waiting
  | ends => exact fun waiting => by cases waiting
  | _ => exact begun

end Pool

end WebCrawl
