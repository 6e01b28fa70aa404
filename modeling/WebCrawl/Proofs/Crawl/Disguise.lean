import WebCrawl.Crawl.Sequential
import WebCrawl.Proofs.Crawl.Resources
import WebCrawl.Proofs.Frontier.Disguise

/-!
# A crawl in disguise

A core looks at its frontier only through the operations of a frontier. So work on a crawl answers
the same in disguise and leaves the same in disguise, whichever function of the sequential engine
it is.
-/

namespace WebCrawl

variable {S T σ α : Type} {φ : S → T}

namespace Core

def map (φ : S → T) (c : Core S) : Core T :=
  ⟨c.phase, φ c.frontier, c.stats, c.engine, c.stops, c.journal⟩

variable [Frontier S] [Frontier T]

theorem map_push (h : Frontier.Disguise φ) (c : Core S) (r : Request) :
    (c.map φ).push r = ((c.push r).1, (c.push r).2.map φ) := by
  simp only [push, map, h.push]
  rfl

theorem map_pushAll (h : Frontier.Disguise φ) (c : Core S) (rs : List Request) :
    (c.map φ).pushAll rs = ((c.pushAll rs).1, (c.pushAll rs).2.map φ) := by
  induction rs generalizing c with
  | nil => rfl
  | cons r rest ih => simp only [pushAll, map_push h, ih]

theorem map_pushDiscovered (h : Frontier.Disguise φ) (c : Core S) (rs : List Request) :
    (c.map φ).pushDiscovered rs =
      ((c.pushDiscovered rs).1, (c.pushDiscovered rs).2.map φ) := by
  simp only [pushDiscovered, map_pushAll h]
  split <;> rfl

theorem map_poll (h : Frontier.Disguise φ) (c : Core S) :
    (c.map φ).poll = (c.poll.1, c.poll.2.map φ) := by
  rcases answer : Frontier.poll c.frontier with ⟨found, s⟩
  have other : Frontier.poll (c.map φ).frontier = (found, φ s) := by
    rw [map, h.poll, answer]
  cases found with
  | none => simp only [poll, answer, other]; rfl
  | some r => simp only [poll, answer, other]; rfl

theorem map_requeue (h : Frontier.Disguise φ) (c : Core S) (r : Request) :
    (c.map φ).requeue r = (c.requeue r).map φ := by
  simp only [requeue, map, h.requeue]
  split <;> rfl

end Core

namespace Run

def map (φ : S → T) (run : Run S σ) : Run T σ := ⟨run.core.map φ, run.world⟩

theorem map_perform (run : Run S σ) (act : Act σ α) :
    (run.map φ).perform act = ((run.perform act).1, (run.perform act).2.map φ) := rfl

theorem map_update (run : Run S σ) {f : Core S → Core S} {g : Core T → Core T}
    (same : ∀ c : Core S, g (c.map φ) = (f c).map φ) :
    (run.map φ).update g = (run.update f).map φ :=
  congrArg (Run.mk · run.world) (same run.core)

end Run

/-- Two pieces of work do the same, the one over a frontier and the other over its disguise. -/
def Working.Agree (φ : S → T) (x : Working S σ α) (y : Working T σ α) : Prop :=
  ∀ run, y (run.map φ) = ((x run).1, (x run).2.map φ)

namespace Working.Agree

variable {β : Type}

theorem pure (a : α) : Agree φ (Pure.pure a : Working S σ α) (Pure.pure a) := fun _ => rfl

theorem bind {x : Working S σ α} {y : Working T σ α} {k : α → Working S σ β}
    {k' : α → Working T σ β} (first : Agree φ x y) (rest : ∀ a, Agree φ (k a) (k' a)) :
    Agree φ (x >>= k) (y >>= k') := by
  intro run
  have done := first run
  rcases ran : x run with ⟨result, next⟩
  rw [ran] at done
  cases result with
  | error p => rw [bind_of_error ran, bind_of_error done]
  | ok a => rw [bind_of_ok ran, bind_of_ok done, rest a next]

theorem perform (act : Act σ α) :
    Agree φ (Working.perform act : Working S σ α) (Working.perform act) := by
  intro run
  rcases ran : run.perform act with ⟨outcome, next⟩
  have other : (run.map φ).perform act = (outcome, next.map φ) := by
    rw [Run.map_perform, ran]
  cases outcome with
  | returned a => rw [perform_of_returned ran, perform_of_returned other]
  | panicked message => rw [perform_of_panicked ran, perform_of_panicked other]

theorem update {f : Core S → Core S} {g : Core T → Core T}
    (same : ∀ c : Core S, g (c.map φ) = (f c).map φ) :
    Agree φ (Working.update f : Working S σ Unit) (Working.update g) :=
  fun run => congrArg (Except.ok (), ·) (run.map_update same)

theorem say (n : Note) : Agree φ (Working.say n : Working S σ Unit) (Working.say n) :=
  update fun _ => rfl

theorem enter (d : Deed) : Agree φ (Working.enter d : Working S σ Unit) (Working.enter d) :=
  update fun _ => rfl

theorem tally (count : Statistics → Statistics) :
    Agree φ (Working.tally count : Working S σ Unit) (Working.tally count) :=
  update fun _ => rfl

theorem closeOne (kind : ResourceKind) (index : Nat) (name : String)
    (close : Act σ (Except CloseError Unit)) :
    Agree φ (Working.closeOne kind index name close) (Working.closeOne kind index name close) := by
  refine (perform close).bind fun result => (enter _).bind fun _ => ?_
  cases result with
  | ok => exact say _
  | error e => exact say _

theorem closeAll (rs : List (Resource σ)) :
    Agree φ (Working.closeAll rs) (Working.closeAll rs) := by
  induction rs with
  | nil => exact pure ()
  | cons r rest ih => exact (closeOne _ _ _ _).bind fun _ => ih

theorem release (crew : Crew σ) : Agree φ (Working.release crew) (Working.release crew) := by
  rw [release_eq, release_eq]
  exact closeAll crew.resources

theorem conclude (crew : Crew σ) : Agree φ (Working.conclude crew) (Working.conclude crew) := by
  refine Agree.bind (update ?_) fun _ => (say _).bind fun _ => (release crew).bind fun _ => say _
  intro c
  rcases finish : c.phase.finish with ⟨result, phase⟩
  have other : (c.map φ).phase.finish = (result, phase) := finish
  cases result with
  | ok => simp only [other]; rfl
  | error e => simp only [other]; rfl

end Working.Agree

namespace Sequential

open Working

variable {β : Type}

theorem agree_firstSupporting (ask : β → Act σ Bool) (deed : Nat → Bool → Deed) (index : Nat)
    (all : List β) :
    Agree φ (firstSupporting ask deed index all) (firstSupporting ask deed index all) := by
  induction all generalizing index with
  | nil => exact .pure _
  | cons a rest ih =>
    refine (Agree.perform (ask a)).bind fun verdict => (Agree.enter _).bind fun _ => ?_
    cases verdict with
    | true => exact .pure _
    | false => exact ih (index + 1)

theorem agree_runPipelines (carrier : Carrier) (total index : Nat) (ps : List (Pipeline σ)) :
    Agree φ (runPipelines carrier total index ps) (runPipelines carrier total index ps) := by
  induction ps generalizing index with
  | nil => exact .pure ()
  | cons p rest ih =>
    refine (Agree.say _).bind fun _ => (Agree.perform (p.process carrier)).bind fun verdict =>
      (Agree.enter _).bind fun _ => ?_
    cases verdict with
    | true => exact ih (index + 1)
    | false => exact (Agree.say _).bind fun _ => .tally _

variable [Frontier S] [Frontier T]

theorem agree_handleResponse (h : Frontier.Disguise φ) (crew : Crew σ) (response : Response) :
    Agree φ (handleResponse crew response) (handleResponse crew response) := by
  refine (agree_firstSupporting _ _ 0 crew.processors).bind fun chosen => ?_
  cases chosen with
  | none => exact (Agree.say _).bind fun _ => (Agree.enter _).bind fun _ => .tally _
  | some chosen =>
    obtain ⟨index, p⟩ := chosen
    refine (Agree.perform (p.process response)).bind fun carrier =>
      (Agree.enter _).bind fun _ => (agree_runPipelines carrier _ 0 _).bind fun _ =>
        (Agree.enter _).bind fun _ => (Agree.tally _).bind fun _ => .update fun c => ?_
    rw [Core.map_pushDiscovered h]

theorem agree_fetch (h : Frontier.Disguise φ) (crew : Crew σ) (index : Nat) (d : Downloader σ)
    (r : Request) : Agree φ (fetch crew index d r) (fetch crew index d r) := by
  refine (Agree.say _).bind fun _ => (Agree.tally _).bind fun _ =>
    (Agree.perform (d.download r)).bind fun result => (Agree.enter _).bind fun _ => ?_
  cases result with
  | error cause =>
    exact (Agree.say _).bind fun _ => (Agree.tally _).bind fun _ =>
      .update fun c => c.map_requeue h r
  | ok response =>
    exact (Agree.tally _).bind fun _ => (Agree.tally _).bind fun _ =>
      agree_handleResponse h crew response

theorem agree_serve (h : Frontier.Disguise φ) (crew : Crew σ) (r : Request) :
    Agree φ (serve crew r) (serve crew r) := by
  refine (agree_firstSupporting _ _ 0 crew.downloaders).bind fun chosen => ?_
  cases chosen with
  | none => exact (Agree.say _).bind fun _ => .tally _
  | some chosen =>
    obtain ⟨index, d⟩ := chosen
    exact agree_fetch h crew index d r

theorem agree_pollNext (h : Frontier.Disguise φ) :
    Agree φ (pollNext : Working S σ (Option Request)) pollNext := by
  intro run
  simp only [pollNext, Run.map, Core.map_poll h]

theorem agree_step (h : Frontier.Disguise φ) (crew : Crew σ) :
    Agree φ (step crew) (step crew) := by
  refine (agree_pollNext h).bind fun found => ?_
  cases found with
  | none => exact .pure false
  | some r => exact (agree_serve h crew r).bind fun _ => .pure true

theorem agree_crawl (h : Frontier.Disguise φ) (crew : Crew σ) (fuel : Nat) :
    Agree φ (crawl crew fuel) (crawl crew fuel) := by
  induction fuel with
  | zero => exact .pure false
  | succ fuel ih =>
    refine (agree_step h crew).bind fun more => ?_
    cases more with
    | true => exact ih
    | false => exact .pure true

end Sequential

end WebCrawl
