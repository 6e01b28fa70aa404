import WebCrawl.Crawler.Start
import WebCrawl.Proofs.Crawl.Work

/-!
# Crews that do not panic

Of a calm crew nothing is known but that its components return: at every call they may answer
otherwise, fail, speak and change the world. No piece of sequential work with such a crew is cut
short, in whatever state it begins.
-/

namespace WebCrawl

variable {S σ α β : Type}

/-- The call returns, whatever the component sees and whatever the world is like. -/
def Act.Calm (act : Act σ α) : Prop := ∀ view world, ∃ a, (act view world).outcome = .returned a

theorem Act.calm_pure (a : α) : (Act.pure a : Act σ α).Calm := fun _ _ => ⟨a, rfl⟩

structure Crew.Calm (crew : Crew σ) : Prop where
  downloader_supports : ∀ d ∈ crew.downloaders, ∀ r, (d.supports r).Calm
  downloads : ∀ d ∈ crew.downloaders, ∀ r, (d.download r).Calm
  processor_supports : ∀ p ∈ crew.processors, ∀ response, (p.supports response).Calm
  processes : ∀ p ∈ crew.processors, ∀ response, (p.process response).Calm
  pipes : ∀ p ∈ crew.pipelines, ∀ carrier, (p.process carrier).Calm
  downloaders_close : ∀ d ∈ crew.downloaders, d.close.Calm
  pipelines_close : ∀ p ∈ crew.pipelines, p.close.Calm

namespace Working

/-- In whatever state the work begins, it ends without a panic and its answer is as said. -/
def Calm (x : Working S σ α) (good : α → Prop) : Prop := ∀ run, Ensures x run fun a _ => good a

namespace Calm

variable {good : α → Prop} {good' : β → Prop}

theorem pure {a : α} (h : good a) : Calm (Pure.pure a : Working S σ α) good := fun _ => .pure h

theorem update (f : Core S → Core S) :
    Calm (Working.update f : Working S σ Unit) fun _ => True := fun _ => .update trivial

theorem bind {x : Working S σ α} {k : α → Working S σ β} (hx : Calm x good)
    (hk : ∀ a, good a → Calm (k a) good') : Calm (x >>= k) good' :=
  fun run => (hx run).bind fun a run' ha => hk a ha run'

theorem bind_update {f : Core S → Core S} {k : Unit → Working S σ β} (hk : Calm (k ()) good') :
    Calm (Working.update f >>= k) good' :=
  (update f).bind fun _ _ => hk

theorem bind_perform {act : Act σ α} {k : α → Working S σ β} (calm : act.Calm)
    (hk : ∀ a, Calm (k a) good') : Calm (Working.perform act >>= k) good' := by
  intro run
  obtain ⟨a, outcome⟩ := calm run.core.view run.world
  exact Ensures.bind_perform outcome (hk a _)

end Calm

variable {crew : Crew σ}

theorem calm_closeOne (kind : ResourceKind) (index : Nat) (name : String)
    {close : Act σ (Except CloseError Unit)} (calm : close.Calm) :
    Calm (closeOne kind index name close : Working S σ Unit) fun _ => True := by
  refine .bind_perform calm fun result => .bind_update ?_
  cases result with
  | ok => exact .update _
  | error e => exact .update _

theorem calm_closeAll {rs : List (Resource σ)} (calm : ∀ r ∈ rs, r.close.Calm) :
    Calm (closeAll rs : Working S σ Unit) fun _ => True := by
  induction rs with
  | nil => exact .pure trivial
  | cons r rs ih =>
    obtain ⟨first, others⟩ := List.forall_mem_cons.mp calm
    exact (calm_closeOne _ _ _ first).bind fun _ _ => ih others

theorem calm_conclude (calm : ∀ r ∈ crew.resources, r.close.Calm) :
    Calm (conclude crew : Working S σ Unit) fun _ => True := by
  have released : Calm (release crew : Working S σ Unit) fun _ => True := by
    rw [release_eq]
    exact calm_closeAll calm
  exact .bind_update (.bind_update (released.bind fun _ _ => .update _))

end Working

namespace Sequential

open Working

variable {crew : Crew σ}

theorem calm_firstSupporting {ask : α → Act σ Bool} {all : List α}
    (calm : ∀ a ∈ all, (ask a).Calm) (deed : Nat → Bool → Deed) (index : Nat) :
    Calm (firstSupporting ask deed index all : Working S σ (Option (Nat × α)))
      fun chosen => ∀ k a, chosen = some (k, a) → a ∈ all := by
  induction all generalizing index with
  | nil => exact .pure nofun
  | cons a rest ih =>
    obtain ⟨first, others⟩ := List.forall_mem_cons.mp calm
    refine .bind_perform first fun verdict => .bind_update ?_
    cases verdict with
    | true =>
      refine .pure ?_
      rintro k b ⟨rfl, rfl⟩
      exact List.mem_cons_self
    | false =>
      intro run
      obtain ⟨chosen, run', ran, among⟩ := ih others (index + 1) run
      exact ⟨chosen, run', ran, fun k b found => List.mem_cons_of_mem a (among k b found)⟩

theorem calm_runPipelines {ps : List (Pipeline σ)} {carrier : Carrier}
    (calm : ∀ p ∈ ps, (p.process carrier).Calm) (total index : Nat) :
    Calm (runPipelines carrier total index ps : Working S σ Unit) fun _ => True := by
  induction ps generalizing index with
  | nil => exact .pure trivial
  | cons p ps ih =>
    obtain ⟨first, others⟩ := List.forall_mem_cons.mp calm
    refine .bind_update (.bind_perform first fun verdict => .bind_update ?_)
    cases verdict with
    | true => exact ih others (index + 1)
    | false => exact .bind_update (.update _)

variable [Frontier S]

theorem calm_handleResponse (calm : crew.Calm) (response : Response) :
    Calm (handleResponse crew response : Working S σ Unit) fun _ => True := by
  have asked := calm_firstSupporting (S := S)
    (fun p hp => calm.processor_supports p hp response) (.askedProcessor · response ·) 0
  refine asked.bind fun chosen among => ?_
  cases chosen with
  | none => exact .bind_update (.bind_update (.update _))
  | some chosen =>
    obtain ⟨index, p⟩ := chosen
    refine .bind_perform (calm.processes p (among index p rfl) response) fun carrier => ?_
    have piped := calm_runPipelines (S := S) (fun p hp => calm.pipes p hp carrier)
      crew.pipelines.length 0
    exact .bind_update (piped.bind fun _ _ => .bind_update (.bind_update (.update _)))

theorem calm_fetch (calm : crew.Calm) (index : Nat) {d : Downloader σ}
    (enrolled : d ∈ crew.downloaders) (r : Request) :
    Calm (fetch crew index d r : Working S σ Unit) fun _ => True := by
  refine .bind_update (.bind_update (.bind_perform (calm.downloads d enrolled r) ?_))
  intro result
  refine .bind_update ?_
  cases result with
  | error cause => exact .bind_update (.bind_update (.update _))
  | ok response => exact .bind_update (.bind_update (calm_handleResponse calm response))

theorem calm_serve (calm : crew.Calm) (r : Request) :
    Calm (serve crew r : Working S σ Unit) fun _ => True := by
  have asked := calm_firstSupporting (S := S)
    (fun d hd => calm.downloader_supports d hd r) (.askedDownloader · r ·) 0
  refine asked.bind fun chosen among => ?_
  cases chosen with
  | none => exact .bind_update (.update _)
  | some chosen =>
    obtain ⟨index, d⟩ := chosen
    exact calm_fetch calm index (among index d rfl) r

theorem calm_pollNext : Calm (pollNext : Working S σ (Option Request)) fun _ => True :=
  fun run => ⟨run.core.poll.1, { run with core := run.core.poll.2 }, rfl, trivial⟩

theorem calm_step (calm : crew.Calm) : Calm (step crew : Working S σ Bool) fun _ => True := by
  refine calm_pollNext.bind fun found _ => ?_
  cases found with
  | none => exact .pure trivial
  | some r => exact (calm_serve calm r).bind fun _ _ => .pure trivial

theorem calm_crawl (calm : crew.Calm) (fuel : Nat) :
    Calm (crawl crew fuel : Working S σ Bool) fun _ => True := by
  induction fuel with
  | zero => exact .pure trivial
  | succ fuel ih =>
    refine (calm_step calm).bind fun more _ => ?_
    cases more with
    | true => exact ih
    | false => exact .pure trivial

end Sequential

theorem Crawler.calm_runSequential [Frontier S] {crew : Crew σ} (calm : crew.Calm) (fuel : Nat) :
    Working.Calm (runSequential crew fuel : Working S σ Bool) fun _ => True := by
  refine .bind_update ((Sequential.calm_crawl calm fuel).bind fun drained _ => ?_)
  cases drained with
  | true =>
    have closes := Crew.forall_close calm.downloaders_close calm.pipelines_close
    exact (Working.calm_conclude closes).bind fun _ _ => .pure trivial
  | false => exact .pure trivial

end WebCrawl
