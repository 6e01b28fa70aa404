import WebCrawl.Crawl.Schedule
import WebCrawl.Proofs.Crawl.Disguise

/-!
# A pool in disguise

The workers of a pool share the core of a crawl and have nothing else to do with the frontier. So
the same moves are possible in disguise, and they lead to the same pool in disguise.
-/

namespace WebCrawl

variable {S T σ α : Type} {φ : S → T}

namespace Pool

def map (φ : S → T) (p : Pool S σ) : Pool T σ :=
  ⟨p.run.map φ, p.handoff, p.parked, p.cancelled, p.fetchers, p.workers, p.control⟩

theorem map_perform (p : Pool S σ) (act : Act σ α) :
    (p.map φ).perform act = ((p.perform act).1, (p.perform act).2.map φ) := rfl

theorem fetchers_map (p : Pool S σ) : (p.map φ).fetchers = p.fetchers := rfl

theorem workers_map (p : Pool S σ) : (p.map φ).workers = p.workers := rfl

theorem frontierFree_map (p : Pool S σ) : (p.map φ).frontierFree = p.frontierFree := rfl

theorem handoffFree_map (p : Pool S σ) : (p.map φ).handoffFree = p.handoffFree := rfl

theorem map_wakeFetcher? (p : Pool S σ) (index : Nat) :
    (p.map φ).wakeFetcher? index = (p.wakeFetcher? index).map (map φ) := by
  simp only [wakeFetcher?, fetchers_map]
  rw [apply_ite (Option.map (map φ))]
  rcases p.fetchers[index]? with _ | f
  · rfl
  · cases f <;> rfl

theorem map_lookFetcher (p : Pool S σ) (index : Nat) :
    (p.map φ).lookFetcher index = (p.lookFetcher index).map φ := by
  unfold lookFetcher
  rw [apply_ite (map φ)]
  rfl

theorem map_lookWorker (p : Pool S σ) (index : Nat) :
    (p.map φ).lookWorker index = (p.lookWorker index).map φ := by
  unfold lookWorker
  rw [apply_ite (map φ)]
  rfl

variable [Frontier S] [Frontier T]

theorem map_moveFetcher (h : Frontier.Disguise φ) (d : Downloader σ) (p : Pool S σ)
    (index wakes : Nat) (f : Fetcher) :
    (p.map φ).moveFetcher d index wakes f = (p.moveFetcher d index wakes f).map (map φ) := by
  cases f with
  | seeking =>
    simp only [moveFetcher, frontierFree_map, map_lookFetcher, apply_ite (Option.map (map φ))]
    rfl
  | looking =>
    rcases answer : p.run.core.poll with ⟨found, core⟩
    have other : (p.map φ).run.core.poll = (found, core.map φ) :=
      (Core.map_poll h p.run.core).trans (by rw [answer])
    cases found with
    | none => simp only [moveFetcher, answer, other]; rfl
    | some r => simp only [moveFetcher, answer, other]; rfl
  | woken =>
    have unparked : (p.map φ).unpark .fetch = (p.unpark .fetch).map φ := rfl
    simp only [moveFetcher, frontierFree_map, unparked, map_lookFetcher,
      apply_ite (Option.map (map φ))]
    rfl
  | downloading r =>
    rcases answer : p.perform (d.download r) with ⟨outcome, q⟩
    have other : (p.map φ).perform (d.download r) = (outcome, q.map φ) := by
      rw [map_perform, answer]
    cases outcome with
    | returned result => cases result <;> simp only [moveFetcher, answer, other] <;> rfl
    | panicked message => simp only [moveFetcher, answer, other]; rfl
  | handing response =>
    simp only [moveFetcher, handoffFree_map, apply_ite (Option.map (map φ))]
    rfl
  | requeueing r =>
    have requeued : ((p.map φ).update (·.requeue r)).setFetcher index .seeking =
        ((p.update (·.requeue r)).setFetcher index .seeking).map φ :=
      congrArg (fun core => ((⟨⟨core, p.run.world⟩, p.handoff, p.parked, p.cancelled, p.fetchers,
        p.workers, p.control⟩ : Pool T σ).setFetcher index .seeking)) (p.run.core.map_requeue h r)
    simp only [moveFetcher, frontierFree_map, requeued, map_wakeFetcher?,
      apply_ite (Option.map (map φ))]
    rfl
  | unwinding =>
    simp only [moveFetcher, frontierFree_map, apply_ite (Option.map (map φ))]
    rfl
  | _ => rfl

theorem map_moveWorker (h : Frontier.Disguise φ) (crew : Crew σ) (p : Pool S σ) (index : Nat)
    (w : Worker) :
    (p.map φ).moveWorker crew index w = (p.moveWorker crew index w).map (map φ) := by
  cases w with
  | seeking =>
    simp only [moveWorker, handoffFree_map, map_lookWorker, apply_ite (Option.map (map φ))]
    rfl
  | looking =>
    have same : (p.map φ).handoff = p.handoff := rfl
    cases waiting : p.handoff with
    | nil => simp only [moveWorker, same, waiting]; rfl
    | cons response rest => simp only [moveWorker, same, waiting]; rfl
  | woken =>
    have unparked : (p.map φ).unpark .process = (p.unpark .process).map φ := rfl
    simp only [moveWorker, handoffFree_map, unparked, map_lookWorker,
      apply_ite (Option.map (map φ))]
    rfl
  | selecting response k =>
    cases known : crew.processors[k]? with
    | none => simp only [moveWorker, known]; rfl
    | some processor =>
      rcases answer : p.perform (processor.supports response) with ⟨outcome, q⟩
      have other : (p.map φ).perform (processor.supports response) = (outcome, q.map φ) := by
        rw [map_perform, answer]
      cases outcome <;> simp only [moveWorker, known, answer, other] <;> rfl
  | processing response k =>
    cases known : crew.processors[k]? with
    | none => simp only [moveWorker, known]; rfl
    | some processor =>
      rcases answer : p.perform (processor.process response) with ⟨outcome, q⟩
      have other : (p.map φ).perform (processor.process response) = (outcome, q.map φ) := by
        rw [map_perform, answer]
      cases outcome <;> simp only [moveWorker, known, answer, other] <;> rfl
  | publishing carrier =>
    rcases answer : p.run.core.pushDiscovered carrier.takeRequests.1 with ⟨accepted, core⟩
    have other : (p.map φ).run.core.pushDiscovered carrier.takeRequests.1 =
        (accepted, core.map φ) :=
      (p.run.core.map_pushDiscovered h _).trans (by rw [answer])
    simp only [moveWorker, frontierFree_map, answer, other, apply_ite (Option.map (map φ))]
    cases accepted <;> rfl
  | piping carrier k =>
    cases known : crew.pipelines[k]? with
    | none => simp only [moveWorker, known]; rfl
    | some pipeline =>
      let note := Note.entersPipeline carrier.request.line pipeline.name (k + 1)
        crew.pipelines.length
      rcases answer : (p.say note).perform (pipeline.process carrier) with ⟨outcome, q⟩
      have other : ((p.map φ).say note).perform (pipeline.process carrier) =
          (outcome, q.map φ) :=
        (map_perform (p.say note) _).trans (by rw [answer])
      cases outcome with
      | returned verdict =>
        cases verdict <;> simp only [moveWorker, known, answer, other, note] <;> rfl
      | panicked message => simp only [moveWorker, known, answer, other, note]; rfl
  | unwinding =>
    simp only [moveWorker, handoffFree_map, apply_ite (Option.map (map φ))]
    rfl
  | _ => rfl

omit [Frontier S] [Frontier T] in
theorem map_moveControl (p : Pool S σ) (c : Control) :
    (p.map φ).moveControl c = (p.moveControl c).map (map φ) := by
  cases c with
  | wakingFetchers =>
    simp only [moveControl, frontierFree_map, apply_ite (Option.map (map φ))]
    rfl
  | wakingProcessors =>
    simp only [moveControl, handoffFree_map, apply_ite (Option.map (map φ))]
    rfl
  | joining role index =>
    cases role with
    | fetch =>
      simp only [moveControl, fetchers_map]
      rcases p.fetchers[index]? with _ | f
      · rfl
      · cases f <;> rfl
    | process =>
      simp only [moveControl, workers_map]
      rcases p.workers[index]? with _ | w
      · rfl
      · cases w <;> rfl
  | _ => rfl

theorem quiescent_map (h : Frontier.Disguise φ) (p : Pool S σ) :
    (p.map φ).quiescent = p.quiescent := by
  have dry : Frontier.isEmpty (p.map φ).run.core.frontier =
      Frontier.isEmpty p.run.core.frontier := h.isEmpty _
  simp only [quiescent, dry]
  rfl

theorem map_takeSample (h : Frontier.Disguise φ) (p : Pool S σ) :
    (p.map φ).takeSample = p.takeSample.map φ := by
  have size : Frontier.size (p.map φ).run.core.frontier = Frontier.size p.run.core.frontier :=
    h.size _
  have said : ∀ n, (p.map φ).say n = (p.say n).map φ := fun _ => rfl
  simp only [takeSample, size, said, quiescent_map h, apply_ite (map φ)]
  rfl

theorem map_advance (h : Frontier.Disguise φ) (crew : Crew σ) (d : Downloader σ) (p : Pool S σ)
    (m : Move) : (p.map φ).advance crew d m = (p.advance crew d m).map (map φ) := by
  cases m with
  | fetch index wakes =>
    simp only [advance, fetchers_map]
    rcases p.fetchers[index]? with _ | f
    · rfl
    · exact p.map_moveFetcher h d index wakes f
  | process index =>
    simp only [advance, workers_map]
    rcases p.workers[index]? with _ | w
    · rfl
    · exact p.map_moveWorker h crew index w
  | stir role index =>
    cases role with
    | fetch =>
      simp only [advance, fetchers_map]
      rcases p.fetchers[index]? with _ | f
      · rfl
      · cases f <;> rfl
    | process =>
      simp only [advance, workers_map]
      rcases p.workers[index]? with _ | w
      · rfl
      · cases w <;> rfl
  | takeStop =>
    simp only [advance, apply_ite (Option.map (map φ))]
    rfl
  | sample =>
    simp only [advance, frontierFree_map, handoffFree_map, map_takeSample h,
      apply_ite (Option.map (map φ))]
    rfl
  | proceed => exact p.map_moveControl p.control

theorem map_advanceAll (h : Frontier.Disguise φ) (crew : Crew σ) (d : Downloader σ)
    (p : Pool S σ) (moves : List Move) :
    (p.map φ).advanceAll crew d moves = (p.advanceAll crew d moves).map (map φ) := by
  induction moves generalizing p with
  | nil => rfl
  | cons m rest ih =>
    rw [advanceAll, advanceAll, map_advance h, Option.bind_map, Option.map_bind]
    exact congrArg (p.advance crew d m).bind (funext ih)

end Pool

end WebCrawl
