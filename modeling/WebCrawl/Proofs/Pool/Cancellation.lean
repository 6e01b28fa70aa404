import Mathlib.Data.Multiset.AddSub
import WebCrawl.Proofs.Pool.Conservation
import WebCrawl.Proofs.Pool.StepsLeft

/-!
# A cancellation is prompt and reaches everybody

The control takes each lock once after it has raised the cancellation. When it has both behind it,
everybody who slept is woken, and nobody is left who could poll, take or park: all finish what they
have in hand and leave. A frontier is only offered requests from then on, so that what is pending
stays pending.
-/

namespace WebCrawl

namespace Fetcher

/-- May still go to sleep, or sleeps already. -/
def lingers : Fetcher → Bool
  | looking | asleep => true
  | _ => false

@[simp] theorem lingers_wake (f : Fetcher) : f.wake.lingers = f.isLooking := by
  cases f <;> rfl

theorem isLooking_of_lingers {f : Fetcher} (up : f.lingers = false) : f.isLooking = false := by
  cases f <;> first | rfl | cases up

end Fetcher

namespace Worker

def lingers : Worker → Bool
  | looking | asleep => true
  | _ => false

@[simp] theorem lingers_wake (w : Worker) : w.wake.lingers = w.isLooking := by
  cases w <;> rfl

theorem isLooking_of_lingers {w : Worker} (up : w.lingers = false) : w.isLooking = false := by
  cases w <;> first | rfl | cases up

end Worker

namespace Control

def hasRaised : Control → Bool
  | waiting | cancelling => false
  | _ => true

/-- The cancellation has reached every fetcher. -/
def hasWokenFetchers : Control → Bool
  | wakingProcessors | joining .. | done => true
  | _ => false

/-- The cancellation has reached everybody. -/
def hasWokenAll : Control → Bool
  | joining .. | done => true
  | _ => false

theorem hasWokenFetchers_of_hasWokenAll {c : Control} (h : c.hasWokenAll = true) :
    c.hasWokenFetchers = true := by
  cases c <;> first | rfl | cases h

theorem hasRaised_of_hasWokenFetchers {c : Control} (h : c.hasWokenFetchers = true) :
    c.hasRaised = true := by
  cases c <;> first | rfl | cases h

end Control

/-- A frontier goes from one state to another by pushes and requeues alone. -/
inductive Offered {S : Type} [Frontier S] : S → S → Prop where
  | refl (s : S) : Offered s s
  | push {s s' : S} (r : Request) (before : Offered s s') : Offered s (Frontier.push s' r).2
  | requeue {s s' : S} (r : Request) (before : Offered s s') : Offered s (Frontier.requeue s' r).2

namespace Offered

variable {S : Type} [Frontier S] {s s' s'' : S}

theorem trans (h : Offered s s') (h' : Offered s' s'') : Offered s s'' := by
  induction h' with
  | refl => exact h
  | push r _ ih => exact .push r ih
  | requeue r _ ih => exact .requeue r ih

theorem pushAll (s : S) (rs : List Request) : Offered s (Frontier.pushAll s rs).2 := by
  induction rs generalizing s with
  | nil => exact .refl s
  | cons r rs ih => exact (push r (.refl s)).trans (ih (Frontier.push s r).2)

theorem le {pending : S → Multiset Request} (h : Offered s s')
    (pushes : ∀ s r, pending s ≤ pending (Frontier.push s r).2)
    (requeues : ∀ s r, pending s ≤ pending (Frontier.requeue s r).2) : pending s ≤ pending s' := by
  induction h with
  | refl => exact le_refl _
  | push r _ ih => exact ih.trans (pushes _ r)
  | requeue r _ ih => exact ih.trans (requeues _ r)

end Offered

namespace ListedFrontier

variable {S : Type} [Frontier S] [ListedFrontier S]

end ListedFrontier

namespace Pool

variable {S σ : Type} [Frontier S] {crew : Crew σ} {d : Downloader σ} {p p' : Pool S σ}

/-- Nobody sleeps, and nobody is about to poll, to take or to park. -/
structure Dispersed (p : Pool S σ) : Prop where
  raised : p.cancelled = true
  fetchers : ∀ f ∈ p.fetchers, f.lingers = false
  workers : ∀ w ∈ p.workers, w.lingers = false

theorem up_of_woken_fetchers {l : List Fetcher} (free : ∀ f ∈ l, f.isLooking = false) :
    ∀ f ∈ l.map Fetcher.wake, f.lingers = false := by
  intro f hf
  obtain ⟨f, old, rfl⟩ := List.mem_map.mp hf
  rw [Fetcher.lingers_wake]
  exact free f old

theorem up_of_woken_workers {l : List Worker} (free : ∀ w ∈ l, w.isLooking = false) :
    ∀ w ∈ l.map Worker.wake, w.lingers = false := by
  intro w hw
  obtain ⟨w, old, rfl⟩ := List.mem_map.mp hw
  rw [Worker.lingers_wake]
  exact free w old

theorem fetchers_of_step {m : Move} (raised : p.cancelled = true)
    (up : ∀ f ∈ p.fetchers, f.lingers = false) (step : Step crew d p m p') :
    ∀ f ∈ p'.fetchers, f.lingers = false := by
  have woken : ∀ f ∈ p.fetchers.map Fetcher.wake, f.lingers = false :=
    up_of_woken_fetchers fun f hf => Fetcher.isLooking_of_lingers (up f hf)
  cases step with
  | fetch i wakes f _ here step =>
    have here_up := up f (List.mem_of_getElem? here)
    cases step with
    | looks free on =>
      rw [raised] at on
      cases on
    | resumes free on =>
      rw [raised] at on
      cases on
    | takes => cases here_up
    | parks => cases here_up
    | requeuesAndWakes => exact forall_mem_set (forall_mem_set up rfl) rfl
    | _ => exact forall_mem_set up rfl
  | process i w _ here step =>
    cases step with
    | publishes carrier =>
      dsimp only
      split
      · exact up
      · exact woken
    | _ => exact up
  | stirsFetcher i here => exact forall_mem_set up rfl
  | proceed _ step =>
    generalize p.control = c at step
    cases step with
    | wakesFetchers => exact woken
    | _ => exact up
  | _ => exact up

theorem workers_of_step {m : Move} (raised : p.cancelled = true)
    (up : ∀ w ∈ p.workers, w.lingers = false) (step : Step crew d p m p') :
    ∀ w ∈ p'.workers, w.lingers = false := by
  have woken : ∀ w ∈ p.workers.map Worker.wake, w.lingers = false :=
    up_of_woken_workers fun w hw => Worker.isLooking_of_lingers (up w hw)
  cases step with
  | fetch i wakes f _ here step =>
    cases step with
    | announces => exact woken
    | _ => exact up
  | process i w _ here step =>
    have here_up := up w (List.mem_of_getElem? here)
    cases step with
    | looks free on =>
      rw [raised] at on
      cases on
    | resumes free on =>
      rw [raised] at on
      cases on
    | takes => cases here_up
    | parks => cases here_up
    | _ => exact forall_mem_set up rfl
  | stirsWorker i here => exact forall_mem_set up rfl
  | proceed _ step =>
    generalize p.control = c at step
    cases step with
    | wakesProcessors => exact woken
    | _ => exact up
  | _ => exact up

/-- How far the cancellation has come, by what the control has done. -/
structure Reaching (p : Pool S σ) : Prop where
  raised : p.control.hasRaised = true → p.cancelled = true
  fetchers : p.control.hasWokenFetchers = true → ∀ f ∈ p.fetchers, f.lingers = false
  workers : p.control.hasWokenAll = true → ∀ w ∈ p.workers, w.lingers = false

omit [Frontier S] in
theorem Reaching.dispersed (h : Reaching p) (all : p.control.hasWokenAll = true) :
    Dispersed p := by
  have woken := Control.hasWokenFetchers_of_hasWokenAll all
  exact ⟨h.raised (Control.hasRaised_of_hasWokenFetchers woken), h.fetchers woken, h.workers all⟩

omit [Frontier S] in
theorem Reaching.early (early : p.control.hasRaised = false) : Reaching p := by
  have unwoken : p.control.hasWokenFetchers = true → False := by
    intro woken
    rw [Control.hasRaised_of_hasWokenFetchers woken] at early
    cases early
  constructor
  · intro raised
    rw [early] at raised
    cases raised
  · intro woken
    exact (unwoken woken).elim
  · intro all
    exact (unwoken (Control.hasWokenFetchers_of_hasWokenAll all)).elim

theorem reaching_of_same {m : Move} (h : Reaching p) (step : Step crew d p m p')
    (same : p'.control = p.control) : Reaching p' := by
  constructor
  · intro raised
    exact raised_of_step (h.raised (same ▸ raised)) step
  · intro woken
    rw [same] at woken
    have raised := h.raised (Control.hasRaised_of_hasWokenFetchers woken)
    exact fetchers_of_step raised (h.fetchers woken) step
  · intro all
    rw [same] at all
    have woken := Control.hasWokenFetchers_of_hasWokenAll all
    have raised := h.raised (Control.hasRaised_of_hasWokenFetchers woken)
    exact workers_of_step raised (h.workers all) step

omit [Frontier S] in
theorem reaching_of_controlStep {c : Control} (here : p.control = c) (h : Reaching p)
    (step : ControlStep p c p') : Reaching p' := by
  cases step with
  | cancels => exact ⟨fun _ => rfl, (by cases ·), (by cases ·)⟩
  | wakesFetchers free =>
    -- The control has the lock: nobody is between the look at the flag and the sleep.
    have raised := h.raised (by rw [here]; rfl)
    have nobody := List.countP_eq_zero.mp (nobody_of_frontierFree free)
    refine ⟨fun _ => raised, fun _ => up_of_woken_fetchers ?_, (by cases ·)⟩
    intro f hf
    exact Bool.eq_false_iff.mpr (nobody f hf)
  | wakesProcessors free =>
    have raised := h.raised (by rw [here]; rfl)
    have fetchers := h.fetchers (by rw [here]; rfl)
    have nobody := List.countP_eq_zero.mp (nobody_of_handoffFree free)
    refine ⟨fun _ => raised, fun _ => fetchers, fun _ => up_of_woken_workers ?_⟩
    intro w hw
    exact Bool.eq_false_iff.mpr (nobody w hw)
  | _ =>
    have all := h.dispersed (by rw [here]; rfl)
    exact ⟨fun _ => all.raised, fun _ => all.fetchers, fun _ => all.workers⟩

theorem reaching_of_step {m : Move} (h : Reaching p) (step : Step crew d p m p') :
    Reaching p' := by
  have whole := step
  cases step with
  | fetch i wakes f _ here step => exact reaching_of_same h whole (control_of_fetcherStep step)
  | process i w _ here step => exact reaching_of_same h whole (control_of_workerStep step)
  | stops => exact .early rfl
  | ends => exact .early rfl
  | proceed _ step => exact reaching_of_controlStep rfl h step
  | _ => exact reaching_of_same h whole rfl

theorem reaching_of_reachable {run : Run S σ} {sizes : PoolSizes} {moves : List Move}
    {q : Pool S σ} (h : (ofRun run sizes).advanceAll crew d moves = some q) : Reaching q :=
  invariant_of_step reaching_of_step (.early rfl) h

omit [Frontier S] in
theorem Dispersed.frontierFree (h : Dispersed p) : p.frontierFree = true := by
  rw [Pool.frontierFree, Bool.not_eq_true', List.any_eq_false]
  intro f hf
  rw [Fetcher.isLooking_of_lingers (h.fetchers f hf)]
  exact Bool.false_ne_true

omit [Frontier S] in
theorem Dispersed.handoffFree (h : Dispersed p) : p.handoffFree = true := by
  rw [Pool.handoffFree, Bool.not_eq_true', List.any_eq_false]
  intro w hw
  rw [Worker.isLooking_of_lingers (h.workers w hw)]
  exact Bool.false_ne_true

end Pool

end WebCrawl
