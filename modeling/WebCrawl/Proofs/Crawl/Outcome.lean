import WebCrawl.Proofs.Crawl.Events
import WebCrawl.Proofs.Crawl.Work

/-!
# What a piece of work has done if it ended

Nothing is assumed of the components here. A piece of work that was not cut short by a panic is
taken apart into the pieces it is made of, each of which was not cut short either. The release of
any crew, if it ended, did nothing but close the resources.
-/

namespace WebCrawl

namespace Working

variable {S σ α β : Type} {run run' run'' : Run S σ}

theorem bind_eq_ok {x : Working S σ α} {k : α → Working S σ β} {c : β}
    (h : (x >>= k) run = (.ok c, run'')) :
    ∃ a run', x run = (.ok a, run') ∧ k a run' = (.ok c, run'') := by
  rcases hx : x run with ⟨result, run'⟩
  cases result with
  | error p =>
    rw [bind_of_error hx] at h
    cases h
  | ok a =>
    rw [bind_of_ok hx] at h
    exact ⟨a, run', rfl, h⟩

theorem bind_eq_error {x : Working S σ α} {k : α → Working S σ β} {p : Panic}
    (h : (x >>= k) run = (.error p, run'')) :
    x run = (.error p, run'') ∨ ∃ a run', x run = (.ok a, run') ∧ k a run' = (.error p, run'') := by
  rcases hx : x run with ⟨result, run'⟩
  cases result with
  | error p' =>
    rw [bind_of_error hx] at h
    cases h
    exact .inl rfl
  | ok a =>
    rw [bind_of_ok hx] at h
    exact .inr ⟨a, run', rfl, h⟩

theorem update_bind_eq_ok {f : Core S → Core S} {k : Unit → Working S σ β} {c : β}
    (h : (update f >>= k) run = (.ok c, run'')) : k () (run.update f) = (.ok c, run'') := by
  rwa [bind_of_ok (update_apply f run)] at h

theorem perform_eq_ok {act : Act σ α} {a : α}
    (h : (perform act : Working S σ α) run = (.ok a, run')) :
    run' = (run.perform act).2 ∧ (run.perform act).1 = .returned a := by
  rcases hp : run.perform act with ⟨outcome, next⟩
  cases outcome with
  | panicked message =>
    rw [perform_of_panicked hp] at h
    cases h
  | returned b =>
    rw [perform_of_returned hp] at h
    cases h
    exact ⟨rfl, rfl⟩

theorem perform_bind_eq_ok {act : Act σ α} {k : α → Working S σ β} {c : β}
    (h : (perform act >>= k) run = (.ok c, run'')) :
    ∃ a, (run.perform act).1 = .returned a ∧ k a (run.perform act).2 = (.ok c, run'') := by
  obtain ⟨a, run', ran, rest⟩ := bind_eq_ok h
  obtain ⟨rfl, outcome⟩ := perform_eq_ok ran
  exact ⟨a, outcome, rest⟩

theorem released_of_closeOne {kind : ResourceKind} {index : Nat} {name : String}
    {close : Act σ (Except CloseError Unit)} {a : Unit}
    (h : closeOne kind index name close run = (.ok a, run')) : Released run run' := by
  obtain ⟨result, -, rest⟩ := perform_bind_eq_ok h
  have closed : Released run ((run.perform close).2.update (·.enter (.closed kind index))) :=
    ⟨rfl, rfl, rfl, [(kind, index)], by simp⟩
  have last := update_bind_eq_ok rest
  cases result with
  | ok =>
    cases last
    exact closed.trans (.say _ _)
  | error e =>
    cases last
    exact closed.trans (.say _ _)

theorem released_of_closeAll {rs : List (Resource σ)} {a : Unit}
    (h : closeAll rs run = (.ok a, run')) : Released run run' := by
  induction rs generalizing run with
  | nil =>
    cases h
    exact .refl _
  | cons r rs ih =>
    obtain ⟨_, next, closed, rest⟩ := bind_eq_ok h
    exact (released_of_closeOne closed).trans (ih rest)

theorem released_of_release {crew : Crew σ} {a : Unit}
    (h : release crew run = (.ok a, run')) : Released run run' := by
  rw [release_eq] at h
  exact released_of_closeAll h

theorem released_of_conclude {crew : Crew σ} {a : Unit}
    (h : conclude crew run = (.ok a, run')) :
    Released (run.update fun c => { c with phase := c.phase.finish.2 }) run' := by
  obtain ⟨_, _, left, h⟩ := bind_eq_ok h
  obtain ⟨_, _, told, h⟩ := bind_eq_ok h
  obtain ⟨_, next, released, last⟩ := bind_eq_ok h
  cases left
  cases told
  cases last
  have after := (released_of_release released).trans (.say next .finished)
  rcases finish : run.core.phase.finish with ⟨result, phase⟩
  cases result with
  | ok =>
    simp only [Run.update, finish] at after ⊢
    exact (Released.say _ .releasing).trans after
  | error e =>
    simp only [Run.update, finish] at after ⊢
    exact ((Released.say _ (.endedOutOfPhase e)).trans (.say _ .releasing)).trans after

def closings (closed : List (ResourceKind × Nat)) : List Event :=
  closed.map fun c => .did (.closed c.1 c.2)

theorem forall_closings {P : Event → Prop} (each : ∀ kind index, P (.did (.closed kind index)))
    (closed : List (ResourceKind × Nat)) : ∀ e ∈ closings closed, P e := by
  intro e he
  obtain ⟨c, -, rfl⟩ := List.mem_map.mp he
  exact each c.1 c.2

theorem countP_raises_closings (k : Counter) (closed : List (ResourceKind × Nat)) :
    (closings closed).countP (Event.raises k) = 0 :=
  List.countP_eq_zero.mpr (forall_closings (fun _ _ => Bool.false_ne_true) closed)

theorem elapsed_closings [Frontier S] {c c' : Core S} {closed : List (ResourceKind × Nat)}
    (frontier : c'.frontier = c.frontier) (stats : c'.stats = c.stats)
    (deeds : c'.journal.deeds = c.journal.deeds ++ closed.map fun c => .closed c.1 c.2) :
    Elapsed c c' (closings closed) := by
  have entered : (closings closed).filterMap Event.deed? = closed.map fun c => .closed c.1 c.2 := by
    rw [closings, List.filterMap_map]
    exact congrFun List.filterMap_eq_map' closed
  have counted : (closings closed).filterMap Event.count? = [] := by
    rw [closings, List.filterMap_map]
    exact List.filterMap_eq_nil_iff.mpr fun _ _ => rfl
  refine ⟨by rw [entered, deeds], by rw [counted, stats]; rfl, ?_⟩
  rw [frontier]
  generalize c.frontier = s
  clear entered counted deeds
  induction closed with
  | nil => exact .done s
  | cons c closed ih => exact .skip rfl ih

theorem elapsed_of_conclude [Frontier S] {crew : Crew σ} {a : Unit}
    (h : conclude crew run = (.ok a, run')) :
    ∃ closed, Elapsed run.core run'.core (closings closed) := by
  have released := released_of_conclude h
  obtain ⟨closed, deeds⟩ := released.deeds
  exact ⟨closed, elapsed_closings released.frontier released.stats deeds⟩

end Working

end WebCrawl
