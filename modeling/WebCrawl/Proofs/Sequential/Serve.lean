import WebCrawl.Crawl.Sequential
import WebCrawl.Proofs.Crawl.Work
import WebCrawl.Proofs.Site.Keeping

/-!
# Serving one request

What the sequential engine makes of one polled request when its crew follows a conduct: it pays all
that the request owes, or gives it back to the frontier, and ends without a panic. Besides the
ledger, the milestones in the journal are followed, in order.
-/

namespace WebCrawl

/-- Polls, successful downloads and calls of processors. -/
def Deed.isMilestone : Deed → Bool
  | polled _ => true
  | downloaded _ _ (.ok _) => true
  | processed .. => true
  | _ => false

def Core.milestones {S : Type} (c : Core S) : List Deed := c.journal.deeds.filter Deed.isMilestone

theorem Core.filterMap_milestones {S α : Type} {f : Deed → Option α}
    (silent : ∀ d, d.isMilestone = false → f d = none) (c : Core S) :
    c.milestones.filterMap f = c.journal.deeds.filterMap f := by
  rw [milestones, List.filterMap_filter]
  apply List.filterMap_congr
  intro d _
  cases milestone : d.isMilestone with
  | false => exact (silent d milestone).symm
  | true => rfl

/-- From one moment to another in the same phase, these milestones were passed. -/
structure Progress {S σ : Type} (run run' : Run S σ) (passed : List Deed) : Prop where
  milestones : run'.core.milestones = run.core.milestones ++ passed
  phase : run'.core.phase = run.core.phase

namespace Progress

variable {S σ : Type} {run run' run'' : Run S σ} {l : List Deed}

theorem refl (run : Run S σ) : Progress run run [] := ⟨(List.append_nil _).symm, rfl⟩

theorem of_same (h : Progress run run' l)
    (deeds : run''.core.journal.deeds = run'.core.journal.deeds)
    (phase : run''.core.phase = run'.core.phase) : Progress run run'' l :=
  ⟨by rw [Core.milestones, deeds, ← Core.milestones, h.milestones], phase.trans h.phase⟩

theorem say (h : Progress run run' l) (n : Note) : Progress run (run'.update (·.say n)) l :=
  h.of_same (Core.deeds_say _ n) rfl

theorem tally (h : Progress run run' l) (count : Statistics → Statistics) :
    Progress run (run'.update (·.tally count)) l :=
  h.of_same rfl rfl

theorem perform {α : Type} (h : Progress run run' l) (act : Act σ α) :
    Progress run (run'.perform act).2 l :=
  h.of_same (Run.deeds_perform _ act) rfl

theorem enter_plain {d : Deed} (h : Progress run run' l) (plain : d.isMilestone = false) :
    Progress run (run'.update (·.enter d)) l := by
  refine ⟨?_, h.phase⟩
  rw [← h.milestones, Core.milestones, Run.core_update, Core.deeds_enter, List.filter_append,
    List.filter_cons_of_neg (by simp [plain]), List.filter_nil, List.append_nil, Core.milestones]

theorem enter {d : Deed} (h : Progress run run' l) (milestone : d.isMilestone = true) :
    Progress run (run'.update (·.enter d)) (l ++ [d]) := by
  refine ⟨?_, h.phase⟩
  rw [← List.append_assoc, ← h.milestones, Core.milestones, Run.core_update, Core.deeds_enter,
    List.filter_append, List.filter_cons_of_pos milestone, List.filter_nil, Core.milestones]

variable [Frontier S]

theorem push (h : Progress run run' l) (r : Request) :
    Progress run (run'.update fun c => (c.push r).2) l := by
  refine ⟨?_, (Core.phase_push _ r).trans h.phase⟩
  rw [← h.milestones, Core.milestones, Run.core_update, Core.deeds_push, List.filter_append]
  exact List.append_nil _

theorem pushAll (h : Progress run run' l) (rs : List Request) :
    Progress run (run'.update fun c => (c.pushAll rs).2) l := by
  induction rs generalizing run' with
  | nil => exact h
  | cons r rs ih => exact ih (h.push r)

theorem pushDiscovered (h : Progress run run' l) (rs : List Request) :
    Progress run (run'.update fun c => (c.pushDiscovered rs).2) l := by
  have pushed := h.pushAll rs
  by_cases nothing : (run'.core.pushAll rs).1 = 0
  · exact pushed.of_same (by simp [Core.pushDiscovered, nothing])
      (by simp [Core.pushDiscovered, nothing])
  · exact pushed.of_same (by simp [Core.pushDiscovered, nothing])
      (by simp [Core.pushDiscovered, nothing])

theorem requeue (h : Progress run run' l) (r : Request) :
    Progress run (run'.update (·.requeue r)) l := by
  refine ⟨?_, (Core.phase_requeue _ r).trans h.phase⟩
  rw [← h.milestones, Core.milestones, Run.core_update, Core.deeds_requeue, List.filter_append]
  exact List.append_nil _

end Progress

variable {σ : Type}

/-- Since the moment of `run₀`, these milestones were passed, and the debt `D` is in hand. -/
structure UnderWay (b : Conduct) (rd : Reading σ) (seeds : List String)
    (run₀ run : Run (Layered Queue) σ) (passed : List Deed) (D : Multiset Mark) : Prop where
  ledger : InOrder b rd seeds run D
  progress : Progress run₀ run passed

namespace UnderWay

variable {b : Conduct} {rd : Reading σ} {seeds : List String}
  {run run₀ : Run (Layered Queue) σ} {l : List Deed} {D : Multiset Mark}

theorem say (h : UnderWay b rd seeds run₀ run l D) (n : Note) :
    UnderWay b rd seeds run₀ (run.update (·.say n)) l D :=
  ⟨h.ledger.say n, h.progress.say n⟩

theorem tally {c : Count} (h : UnderWay b rd seeds run₀ run l (.counted c ::ₘ D)) :
    UnderWay b rd seeds run₀ (run.update (·.tally c.record)) l D :=
  ⟨h.ledger.tally, h.progress.tally c.record⟩

theorem perform {α : Type} {act : Act σ α} {good : α → Prop}
    (h : UnderWay b rd seeds run₀ run l D) (steady : rd.Steady act good) :
    ∃ a, (run.perform act).1 = .returned a ∧ good a ∧
      UnderWay b rd seeds run₀ (run.perform act).2 l D := by
  obtain ⟨a, outcome, good, ledger⟩ := h.ledger.perform steady
  exact ⟨a, outcome, good, ledger, h.progress.perform act⟩

theorem enter_silent {d : Deed} (h : UnderWay b rd seeds run₀ run l D) (no_mark : d.mark? = none)
    (plain : d.isMilestone = false) :
    UnderWay b rd seeds run₀ (run.update (·.enter d)) l D :=
  ⟨h.ledger.enter_silent no_mark, h.progress.enter_plain plain⟩

theorem enter {d : Deed} {m : Mark} (h : UnderWay b rd seeds run₀ run l (m ::ₘ D))
    (mark : d.mark? = some m) (plain : d.isMilestone = false) (no_offer : m.offered? = none)
    (no_fetch : m.fetched? = none) : UnderWay b rd seeds run₀ (run.update (·.enter d)) l D :=
  ⟨h.ledger.enter mark no_offer no_fetch, h.progress.enter_plain plain⟩

theorem pass {d : Deed} {m : Mark} (h : UnderWay b rd seeds run₀ run l (m ::ₘ D))
    (mark : d.mark? = some m) (milestone : d.isMilestone = true) (no_offer : m.offered? = none)
    (no_fetch : m.fetched? = none) :
    UnderWay b rd seeds run₀ (run.update (·.enter d)) (l ++ [d]) D :=
  ⟨h.ledger.enter mark no_offer no_fetch, h.progress.enter milestone⟩

theorem pushDiscovered {rs : List Request}
    (h : UnderWay b rd seeds run₀ run l (Conduct.offers (rs.map Request.fingerprint) + D)) :
    UnderWay b rd seeds run₀ (run.update fun c => (c.pushDiscovered rs).2) l D :=
  ⟨h.ledger.pushDiscovered, h.progress.pushDiscovered rs⟩

theorem requeue {r : Request}
    (h : UnderWay b rd seeds run₀ run l (b.full r.fingerprint + D)) :
    UnderWay b rd seeds run₀ (run.update (·.requeue r)) l D :=
  ⟨h.ledger.requeue, h.progress.requeue r⟩

end UnderWay

namespace Sequential

open Working

inductive Handles (b : Conduct) (u : String) (response : Response) : List Deed → Prop where
  | drops (unwanted : b.processor u = none) : Handles b u response []
  | processes (k : Nat) (c : Carrier) (wanted : (b.processor u).isSome = true) :
      Handles b u response [.processed k response c]

/-- The milestones of a request once it has been polled. -/
inductive Serves (b : Conduct) (r : Request) : List Deed → Prop where
  | fetchesNothing : Serves b r []
  | fetches (k : Nat) (response : Response) (handled : List Deed)
      (handles : Handles b r.fingerprint response handled) :
      Serves b r (.downloaded k r (.ok response) :: handled)

variable {crew : Crew σ} {b : Conduct} {rd : Reading σ} {seeds : List String}
  {run run₀ : Run (Layered Queue) σ} {D : Multiset Mark} {l : List Deed}

theorem ensures_firstSupporting {α : Type} (ask : α → Act σ Bool) (deed : Nat → Bool → Deed)
    (no_mark : ∀ i verdict, (deed i verdict).mark? = none)
    (plain : ∀ i verdict, (deed i verdict).isMilestone = false) {chosen : Option Nat}
    {all : List α} (lt : ∀ c, chosen = some c → c < all.length)
    (steady : ∀ i a, all[i]? = some a → (∀ c, chosen = some c → i ≤ c) →
      rd.Steady (ask a) (· = decide (chosen = some i)))
    (k : Nat) (from_k : ∀ c, chosen = some c → k ≤ c) (h : UnderWay b rd seeds run₀ run l D) :
    Ensures (firstSupporting ask deed k (all.drop k)) run fun found run' =>
      found = chosen.bind (fun c => all[c]?.map (c, ·)) ∧
        UnderWay b rd seeds run₀ run' l D := by
  induction hn : all.length - k generalizing k run with
  | zero =>
    have none_chosen : chosen = none := by
      cases chosen with
      | none => rfl
      | some c =>
        have := lt c rfl
        have := from_k c rfl
        omega
    rw [List.drop_eq_nil_of_le (by omega), firstSupporting]
    exact .pure ⟨by rw [none_chosen]; rfl, h⟩
  | succ n ih =>
    have hk : k < all.length := by omega
    rw [List.drop_eq_getElem_cons hk, firstSupporting]
    obtain ⟨verdict, outcome, rfl, asked⟩ :=
      h.perform (steady k all[k] (List.getElem?_eq_getElem hk) from_k)
    have entered := asked.enter_silent (no_mark k (decide (chosen = some k))) (plain k _)
    refine Ensures.bind_perform outcome (Ensures.bind_update ?_)
    by_cases here : chosen = some k
    · rw [if_pos (decide_eq_true here)]
      refine .pure ⟨?_, entered⟩
      rw [here, Option.bind_some, List.getElem?_eq_getElem hk, Option.map_some]
    · rw [if_neg (by simpa using here)]
      refine ih (k + 1) ?_ entered (by omega)
      intro c hc
      have ne : c ≠ k := fun same => here (same ▸ hc)
      have := from_k c hc
      omega

theorem ensures_runPipelines (follows : crew.Follows b rd) {u : String} {carrier : Carrier}
    (tells : carrier.Tells b rd u) (total k : Nat)
    (h : UnderWay b rd seeds run₀ run l (b.shows u k (b.stages - k) + D)) :
    Ensures (runPipelines carrier total k (crew.pipelines.drop k)) run fun _ run' =>
      UnderWay b rd seeds run₀ run' l D := by
  have stages := follows.stages
  induction hn : b.stages - k generalizing k run with
  | zero =>
    rw [hn, Conduct.shows, zero_add] at h
    rw [List.drop_eq_nil_of_le (by omega), runPipelines]
    exact .pure h
  | succ n ih =>
    have hk : k < crew.pipelines.length := by omega
    rw [Conduct.shows_of_lt u (stages ▸ hk), Multiset.cons_add] at h
    rw [List.drop_eq_getElem_cons hk, runPipelines]
    obtain ⟨verdict, outcome, rfl, shown⟩ := (h.say _).perform
      (follows.pipes u carrier k _ tells.yields (List.getElem?_eq_getElem hk))
    have mark : (Deed.piped k carrier (b.passes k u)).mark? =
        some (.shown k (b.subject u) (b.passes k u)) := by
      rw [Deed.mark?, tells.subject]
    have entered := shown.enter mark rfl rfl rfl
    refine Ensures.bind_update (Ensures.bind_perform outcome (Ensures.bind_update ?_))
    by_cases passes : b.passes k u = true
    · rw [if_pos passes] at entered
      rw [if_pos passes]
      exact ih (k + 1) entered (by omega)
    · rw [if_neg passes] at entered
      rw [if_neg passes]
      exact .bind_update (.update (entered.say _).tally)

theorem ensures_handleResponse (follows : crew.Follows b rd) {u : String} {response : Response}
    (answers : rd.answers u response)
    (h : UnderWay b rd seeds run₀ run l (b.handling u + D)) :
    Ensures (handleResponse crew response) run fun _ run' =>
      ∃ handled, Handles b u response handled ∧ UnderWay b rd seeds run₀ run' (l ++ handled) D := by
  have asked := ensures_firstSupporting (fun p : Processor σ => p.supports response)
    (fun i verdict => .askedProcessor i response verdict) (fun _ _ => rfl) (fun _ _ => rfl)
    (follows.processor_lt u) (fun i p hp => follows.processor_supports u response i p answers hp)
    0 (fun _ _ => Nat.zero_le _) h
  rw [List.drop_zero] at asked
  rw [handleResponse]
  refine Ensures.bind asked ?_
  rintro found run' ⟨rfl, h⟩
  cases chosen : b.processor u with
  | none =>
    rw [Conduct.handling_of_dropped chosen, Multiset.insert_eq_cons, Multiset.cons_add] at h
    have tallied := ((h.say (.noProcessor response.target)).enter
      (show (Deed.dropped response).mark? = _ from rfl) rfl rfl rfl).tally
    refine Ensures.bind_update (Ensures.bind_update (Ensures.update ?_))
    exact ⟨[], .drops chosen, (List.append_nil l).symm ▸ tallied⟩
  | some k =>
    have hk : k < crew.processors.length := follows.processor_lt u k chosen
    have known : crew.processors[k]? = some crew.processors[k] := List.getElem?_eq_getElem hk
    have wanted : (b.processor u).isSome = true := by rw [chosen]; rfl
    obtain ⟨carrier, outcome, ⟨tells, links⟩, h⟩ :=
      h.perform (follows.processes u response k _ answers known chosen)
    rw [Conduct.handling_of_processed wanted, Multiset.cons_add, ← links, add_assoc,
      add_left_comm, add_assoc] at h
    have mark : (Deed.processed k response carrier).mark? =
        some (.page (b.subject u) (b.fields u)) := by
      rw [Deed.mark?, tells.subject, tells.fields]
    have processed := h.pass mark rfl rfl rfl
    have piped := ensures_runPipelines follows tells crew.pipelines.length 0 processed
    rw [List.drop_zero] at piped
    rw [Option.bind_some, known, Option.map_some]
    refine Ensures.bind_perform outcome (Ensures.bind_update (Ensures.bind piped ?_))
    intro _ run'' h
    rw [Conduct.finishing, Multiset.insert_eq_cons, Multiset.cons_add] at h
    have completed := (h.enter (show (Deed.completed carrier).mark? = _ from rfl)
      rfl rfl rfl).tally
    refine Ensures.bind_update (Ensures.bind_update (Ensures.update ?_))
    exact ⟨_, .processes k carrier wanted, completed.pushDiscovered⟩

theorem ensures_fetch (follows : crew.Follows b rd) {k : Nat} {d : Downloader σ} {r : Request}
    (known : crew.downloaders[k]? = some d) (chosen : b.downloader r.fingerprint = some k)
    (h : UnderWay b rd seeds run₀ run l (b.serving r.fingerprint + D)) :
    Ensures (fetch crew k d r) run fun _ run' =>
      ∃ served, Serves b r served ∧ UnderWay b rd seeds run₀ run' (l ++ served) D := by
  have supported : (b.downloader r.fingerprint).isSome = true := by rw [chosen]; rfl
  rw [Conduct.serving_of_supported supported, Multiset.cons_add, Multiset.cons_add] at h
  have started := (h.say (.executing r.line)).tally
  rw [fetch]
  refine Ensures.bind_update (Ensures.bind_update ?_)
  have progress := started.progress.perform (d.download r)
  rcases started.ledger.download k (follows.fetches r k d known chosen) supported with
      ⟨cause, outcome, failed⟩ | ⟨response, outcome, answers, status, fetched⟩
  · refine Ensures.bind_perform outcome (Ensures.bind_update ?_)
    have entered : UnderWay b rd seeds run₀ _ l _ := ⟨failed, progress.enter_plain rfl⟩
    have requeued := (entered.say (.fetchFailed r.line cause)).tally.requeue
    refine Ensures.bind_update (Ensures.bind_update (Ensures.update ?_))
    exact ⟨[], .fetchesNothing, (List.append_nil l).symm ▸ requeued⟩
  · refine Ensures.bind_perform outcome (Ensures.bind_update ?_)
    have entered : UnderWay b rd seeds run₀ _ _ _ := ⟨fetched, progress.enter rfl⟩
    rw [Conduct.reply, Multiset.cons_add, Multiset.cons_add, ← status] at entered
    have handled := ensures_handleResponse follows answers entered.tally.tally
    refine Ensures.bind_update (Ensures.bind_update ?_)
    obtain ⟨_, run', ran, handled, handles, h⟩ := handled
    exact ⟨_, run', ran, _, .fetches k response handled handles,
      List.append_cons l _ handled ▸ h⟩

/-- Whatever becomes of a polled request, what it owes is paid or goes back to the frontier. -/
theorem ensures_serve (follows : crew.Follows b rd) {r : Request}
    (h : UnderWay b rd seeds run₀ run l (b.serving r.fingerprint + D)) :
    Ensures (serve crew r) run fun _ run' =>
      ∃ served, Serves b r served ∧ UnderWay b rd seeds run₀ run' (l ++ served) D := by
  have asked := ensures_firstSupporting (fun d : Downloader σ => d.supports r)
    (fun i verdict => .askedDownloader i r verdict) (fun _ _ => rfl) (fun _ _ => rfl)
    (follows.downloader_lt r.fingerprint) (follows.downloader_supports r)
    0 (fun _ _ => Nat.zero_le _) h
  rw [List.drop_zero] at asked
  rw [serve]
  refine Ensures.bind asked ?_
  rintro found run' ⟨rfl, h⟩
  cases chosen : b.downloader r.fingerprint with
  | none =>
    rw [Conduct.serving_of_unsupported chosen, Multiset.singleton_add] at h
    rw [Option.bind_none]
    refine Ensures.bind_update (Ensures.update ?_)
    exact ⟨[], .fetchesNothing, (List.append_nil l).symm ▸ (h.say (.noDownloader r.line)).tally⟩
  | some k =>
    have hk : k < crew.downloaders.length := follows.downloader_lt _ k chosen
    have known : crew.downloaders[k]? = some crew.downloaders[k] := List.getElem?_eq_getElem hk
    rw [Option.bind_some, known, Option.map_some]
    exact ensures_fetch follows known chosen h

end Sequential

end WebCrawl
