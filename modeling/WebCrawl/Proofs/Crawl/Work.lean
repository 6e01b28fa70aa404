import WebCrawl.Proofs.Crawl.Resources
import WebCrawl.Proofs.Site.Conduct

/-!
# What a piece of work ensures

Work that no panic cuts short, and rules for putting it together. The release of a crew that
follows a conduct is such work: it ends the crawl and leaves everything else as it was.
-/

namespace WebCrawl

namespace Working

variable {S σ α β : Type}

/-- The work ends without a panic, and its answer and what it leaves are as said. -/
def Ensures (x : Working S σ α) (run : Run S σ) (post : α → Run S σ → Prop) : Prop :=
  ∃ a run', x run = (.ok a, run') ∧ post a run'

namespace Ensures

variable {run : Run S σ} {P : α → Run S σ → Prop} {Q : β → Run S σ → Prop}

theorem pure {a : α} (h : P a run) : Ensures (Pure.pure a : Working S σ α) run P :=
  ⟨a, run, rfl, h⟩

theorem update {f : Core S → Core S} {P : Unit → Run S σ → Prop} (h : P () (run.update f)) :
    Ensures (Working.update f) run P :=
  ⟨(), run.update f, rfl, h⟩

theorem bind {x : Working S σ α} {k : α → Working S σ β} (hx : Ensures x run P)
    (hk : ∀ a run', P a run' → Ensures (k a) run' Q) : Ensures (x >>= k) run Q := by
  obtain ⟨a, run', ran, post⟩ := hx
  obtain ⟨c, run'', ran', post'⟩ := hk a run' post
  exact ⟨c, run'', (bind_of_ok ran).trans ran', post'⟩

theorem bind_ok {x : Working S σ α} {k : α → Working S σ β} {a : α} {run' : Run S σ}
    (ran : x run = (.ok a, run')) (hk : Ensures (k a) run' Q) : Ensures (x >>= k) run Q := by
  obtain ⟨c, run'', ran', post⟩ := hk
  exact ⟨c, run'', (bind_of_ok ran).trans ran', post⟩

theorem bind_update {f : Core S → Core S} {k : Unit → Working S σ β}
    (hk : Ensures (k ()) (run.update f) Q) : Ensures (Working.update f >>= k) run Q :=
  bind_ok rfl hk

theorem bind_perform {act : Act σ α} {a : α} {k : α → Working S σ β}
    (outcome : (run.perform act).1 = .returned a)
    (hk : Ensures (k a) (run.perform act).2 Q) : Ensures (Working.perform act >>= k) run Q :=
  bind_ok (perform_of_returned (Prod.ext outcome rfl)) hk

end Ensures

/-- The crew was released; nothing else happened. -/
structure Released (run run' : Run S σ) : Prop where
  phase : run'.core.phase = run.core.phase
  frontier : run'.core.frontier = run.core.frontier
  stats : run'.core.stats = run.core.stats
  deeds : ∃ closed : List (ResourceKind × Nat),
    run'.core.journal.deeds = run.core.journal.deeds ++ closed.map fun c => .closed c.1 c.2

namespace Released

variable {run run' run'' : Run S σ}

theorem refl (run : Run S σ) : Released run run :=
  ⟨rfl, rfl, rfl, [], (List.append_nil _).symm⟩

theorem trans (h : Released run run') (h' : Released run' run'') : Released run run'' := by
  obtain ⟨closed, deeds⟩ := h.deeds
  obtain ⟨closed', deeds'⟩ := h'.deeds
  refine ⟨h'.phase.trans h.phase, h'.frontier.trans h.frontier, h'.stats.trans h.stats,
    closed ++ closed', ?_⟩
  rw [deeds', deeds, List.map_append, List.append_assoc]

theorem say (run : Run S σ) (n : Note) : Released run (run.update (·.say n)) :=
  ⟨rfl, rfl, rfl, [], by simp⟩

end Released

variable {rd : Reading σ} {left : String → Nat} {run : Run S σ}

theorem ensures_closeOne {close : Act σ (Except CloseError Unit)} (kind : ResourceKind)
    (index : Nat) (name : String) (steady : rd.Steady close fun _ => True)
    (world : rd.left left run.world) :
    Ensures (closeOne kind index name close) run fun _ run' =>
      Released run run' ∧ rd.left left run'.world := by
  obtain ⟨result, outcome, -, world'⟩ := steady run.core.view run.world left world
  have closed : Released run ((run.perform close).2.update (·.enter (.closed kind index))) :=
    ⟨rfl, rfl, rfl, [(kind, index)], by simp⟩
  refine Ensures.bind_perform outcome (Ensures.bind_update ?_)
  cases result with
  | ok => exact .update ⟨closed.trans (.say _ _), world'⟩
  | error e => exact .update ⟨closed.trans (.say _ _), world'⟩

theorem ensures_closeAll {rs : List (Resource σ)}
    (steady : ∀ r ∈ rs, rd.Steady r.close fun _ => True) (world : rd.left left run.world) :
    Ensures (closeAll rs) run fun _ run' => Released run run' ∧ rd.left left run'.world := by
  induction rs generalizing run with
  | nil => exact .pure ⟨.refl run, world⟩
  | cons r rs ih =>
    obtain ⟨first, others⟩ := List.forall_mem_cons.mp steady
    rw [closeAll]
    refine Ensures.bind (ensures_closeOne r.kind r.index r.name first world) ?_
    rintro _ run' ⟨released, world'⟩
    obtain ⟨a, run'', ran, released', world''⟩ := ih others world'
    exact ⟨a, run'', ran, released.trans released', world''⟩

theorem ensures_release {crew : Crew σ} {b : Conduct} (follows : crew.Follows b rd)
    (world : rd.left left run.world) :
    Ensures (release crew) run fun _ run' => Released run run' := by
  have steady := Crew.forall_close (P := fun close => rd.Steady close fun _ => True)
    follows.downloaders_close follows.pipelines_close
  obtain ⟨a, run', ran, released, -⟩ := ensures_closeAll steady world
  rw [release_eq]
  exact ⟨a, run', ran, released⟩

theorem ensures_conclude {crew : Crew σ} {b : Conduct} (follows : crew.Follows b rd)
    (running : run.core.phase = .running) (world : rd.left left run.world) :
    Ensures (conclude crew) run fun _ run' =>
      Released (run.update fun c => { c with phase := .ended }) run' := by
  obtain ⟨⟨phase, frontier, stats, engine, stops, journal⟩, w⟩ := run
  cases running
  have released : Ensures (release crew)
      (Run.update ⟨⟨.ended, frontier, stats, engine, stops, journal⟩, w⟩ (·.say .releasing))
        fun _ run' => Released _ run' :=
    ensures_release follows world
  rw [conclude]
  refine Ensures.bind_update (Ensures.bind_update (Ensures.bind released ?_))
  intro _ run' released
  exact .update ((Released.say _ _).trans (released.trans (.say _ _)))

end Working

end WebCrawl
