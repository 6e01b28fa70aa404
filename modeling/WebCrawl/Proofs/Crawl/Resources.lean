import WebCrawl.Crawl.Working

/-!
# The resources of a crew

A release closes the downloaders and then the pipelines, each under its number in the order of
registration. All of them are resources, and a release closes one list of them.
-/

namespace WebCrawl

structure Resource (σ : Type) where
  kind : ResourceKind
  index : Nat
  name : String
  close : Act σ (Except CloseError Unit)

namespace Crew

variable {σ : Type} (crew : Crew σ)

/-- What there is to close, in the order in which it is closed. -/
def resources : List (Resource σ) :=
  (crew.downloaders.zipIdx.map fun e => ⟨.downloader, e.2, e.1.name, e.1.close⟩) ++
    crew.pipelines.zipIdx.map fun e => ⟨.pipeline, e.2, e.1.name, e.1.close⟩

variable {crew}

theorem forall_resources {P : Resource σ → Prop}
    (downloaders : ∀ k d, crew.downloaders[k]? = some d → P ⟨.downloader, k, d.name, d.close⟩)
    (pipelines : ∀ k p, crew.pipelines[k]? = some p → P ⟨.pipeline, k, p.name, p.close⟩) :
    ∀ r ∈ crew.resources, P r := by
  intro r member
  rcases List.mem_append.mp member with member | member
  · obtain ⟨⟨d, k⟩, enrolled, rfl⟩ := List.mem_map.mp member
    exact downloaders k d (List.mk_mem_zipIdx_iff_getElem?.mp enrolled)
  · obtain ⟨⟨p, k⟩, enrolled, rfl⟩ := List.mem_map.mp member
    exact pipelines k p (List.mk_mem_zipIdx_iff_getElem?.mp enrolled)

theorem forall_close {P : Act σ (Except CloseError Unit) → Prop}
    (downloaders : ∀ d ∈ crew.downloaders, P d.close)
    (pipelines : ∀ p ∈ crew.pipelines, P p.close) : ∀ r ∈ crew.resources, P r.close :=
  forall_resources (fun _ d enrolled => downloaders d (List.mem_of_getElem? enrolled))
    fun _ p enrolled => pipelines p (List.mem_of_getElem? enrolled)

end Crew

namespace Working

variable {S σ : Type}

def closeAll : List (Resource σ) → Working S σ Unit
  | [] => pure ()
  | r :: rest => do
    closeOne r.kind r.index r.name r.close
    closeAll rest

theorem closeAll_append (rs rs' : List (Resource σ)) :
    (closeAll (rs ++ rs') : Working S σ Unit) = closeAll rs >>= fun _ => closeAll rs' := by
  induction rs with
  | nil => rw [List.nil_append, closeAll, pure_bind]
  | cons r rs ih => rw [List.cons_append, closeAll, closeAll, ih, bind_assoc]

theorem closeDownloaders_eq (index : Nat) (ds : List (Downloader σ)) :
    (closeDownloaders index ds : Working S σ Unit) =
      closeAll ((ds.zipIdx index).map fun e => ⟨.downloader, e.2, e.1.name, e.1.close⟩) := by
  induction ds generalizing index with
  | nil => rfl
  | cons d ds ih => rw [closeDownloaders, ih, List.zipIdx_cons, List.map_cons, closeAll]

theorem closePipelines_eq (index : Nat) (ps : List (Pipeline σ)) :
    (closePipelines index ps : Working S σ Unit) =
      closeAll ((ps.zipIdx index).map fun e => ⟨.pipeline, e.2, e.1.name, e.1.close⟩) := by
  induction ps generalizing index with
  | nil => rfl
  | cons p ps ih => rw [closePipelines, ih, List.zipIdx_cons, List.map_cons, closeAll]

theorem release_eq (crew : Crew σ) :
    (release crew : Working S σ Unit) = closeAll crew.resources := by
  rw [release, closeDownloaders_eq, closePipelines_eq, Crew.resources, closeAll_append]

end Working

end WebCrawl
