import WebCrawl.Crawl.Sequential
import WebCrawl.Proofs.Crawl.Outcome

/-!
# The trace of a sequential crawl

What the sequential engine does about one polled request, as a grammar of events. Nothing is assumed
of the components: they may answer differently at every call. A crawl that no panic has cut short
is a sequence of such segments, one for each poll that found a request.
-/

namespace WebCrawl

/-- What is done about a response, once it is there. -/
def Deed.isHandling : Deed → Bool
  | pushed .. => true
  | askedProcessor .. => true
  | processed .. => true
  | piped .. => true
  | completed _ => true
  | dropped _ => true
  | _ => false

theorem Event.forall_offers {P : Event → Prop} (each : ∀ r a, P (.did (.pushed r a)))
    (counts : ∀ n, P (.counted n)) (rs : List Request) (as : List Admission) :
    ∀ e ∈ offers rs as, P e := by
  induction rs generalizing as with
  | nil => exact List.forall_mem_nil P
  | cons r rs ih =>
    cases as with
    | nil => exact List.forall_mem_nil P
    | cons a as =>
      have first : ∀ e ∈ offer r a, P e :=
        List.forall_mem_cons.mpr ⟨each r a, List.forall_mem_singleton.mpr (counts _)⟩
      exact List.forall_mem_append.mpr ⟨first, ih as⟩

namespace Sequential

open Working

variable {S σ α : Type}

/-- Components are asked in order, up to the first that says yes. -/
inductive Asked (deed : Nat → Bool → Deed) :
    Nat → List α → List Event → Option (Nat × α) → Prop where
  | nobody (k : Nat) : Asked deed k [] [] none
  | yes (k : Nat) (a : α) (rest : List α) :
      Asked deed k (a :: rest) [.did (deed k true)] (some (k, a))
  | no {k : Nat} {rest : List α} {events : List Event} {chosen : Option (Nat × α)} (a : α)
      (later : Asked deed (k + 1) rest events chosen) :
      Asked deed k (a :: rest) (.did (deed k false) :: events) chosen

/-- A carrier goes along the pipelines, up to the first that holds it back. -/
inductive Piped (carrier : Carrier) : Nat → List (Pipeline σ) → List Event → Prop where
  | through (k : Nat) : Piped carrier k [] []
  | heldBack (k : Nat) (p : Pipeline σ) (rest : List (Pipeline σ)) :
      Piped carrier k (p :: rest) [.did (.piped k carrier false), .counted .shortCircuit]
  | passedOn {k : Nat} {rest : List (Pipeline σ)} {events : List Event} (p : Pipeline σ)
      (later : Piped carrier (k + 1) rest events) :
      Piped carrier k (p :: rest) (.did (.piped k carrier true) :: events)

/-- What becomes of a response. -/
inductive Handled (crew : Crew σ) (response : Response) : List Event → Prop where
  | drops {asked : List Event}
      (nobody : Asked (.askedProcessor · response ·) 0 crew.processors asked none) :
      Handled crew response (asked ++ [.did (.dropped response), .counted .unprocessed])
  | processes {asked piped : List Event} {k : Nat} {p : Processor σ} (carrier : Carrier)
      (admissions : List Admission)
      (chosen : Asked (.askedProcessor · response ·) 0 crew.processors asked (some (k, p)))
      (along : Piped carrier 0 crew.pipelines piped)
      (answered : admissions.length = carrier.discovered.length) :
      Handled crew response (asked ++ (.did (.processed k response carrier) :: piped) ++
        [.did (.completed carrier), .counted .processed] ++
        Event.offers carrier.discovered admissions)

/-- What becomes of a request once a downloader is chosen. -/
inductive Fetched (crew : Crew σ) (k : Nat) (r : Request) : List Event → Prop where
  | fails (cause : DownloadError) (a : Admission) :
      Fetched crew k r [.counted .started, .did (.downloaded k r (.error cause)),
        .counted .failed, .did (.requeued r a)]
  | answers {events : List Event} (response : Response) (handled : Handled crew response events) :
      Fetched crew k r ([.counted .started, .did (.downloaded k r (.ok response)),
        .counted .succeeded, .counted (.status response.status)] ++ events)

/-- What becomes of a request once it is polled. -/
inductive Served (crew : Crew σ) (r : Request) : List Event → Prop where
  | unsupported {asked : List Event}
      (nobody : Asked (.askedDownloader · r ·) 0 crew.downloaders asked none) :
      Served crew r (asked ++ [.counted .unsupported])
  | fetches {asked events : List Event} {k : Nat} {d : Downloader σ}
      (chosen : Asked (.askedDownloader · r ·) 0 crew.downloaders asked (some (k, d)))
      (fetched : Fetched crew k r events) : Served crew r (asked ++ events)

/-- Requests are polled and served one after the other. -/
inductive Trace (crew : Crew σ) : List Event → Prop where
  | nil : Trace crew []
  | segment {r : Request} {served events : List Event} (this : Served crew r served)
      (rest : Trace crew events) : Trace crew (.did (.polled r) :: served ++ events)

section events

variable {P : Event → Prop} {events : List Event}

theorem Asked.forall {deed : Nat → Bool → Deed} {k : Nat} {all : List α}
    {chosen : Option (Nat × α)} (asked : Asked deed k all events chosen)
    (each : ∀ i verdict, P (.did (deed i verdict))) : ∀ e ∈ events, P e := by
  induction asked with
  | nobody k => exact List.forall_mem_nil P
  | yes k a rest => exact List.forall_mem_singleton.mpr (each k true)
  | no a later ih => exact List.forall_mem_cons.mpr ⟨each _ false, ih⟩

theorem Piped.forall {carrier : Carrier} {k : Nat} {ps : List (Pipeline σ)}
    (piped : Piped carrier k ps events) (each : ∀ i verdict, P (.did (.piped i carrier verdict)))
    (stop : P (.counted .shortCircuit)) : ∀ e ∈ events, P e := by
  induction piped with
  | through k => exact List.forall_mem_nil P
  | heldBack k p rest =>
    exact List.forall_mem_cons.mpr ⟨each k false, List.forall_mem_singleton.mpr stop⟩
  | passedOn p later ih => exact List.forall_mem_cons.mpr ⟨each _ true, ih⟩

theorem Handled.forall {crew : Crew σ} {response : Response}
    (handled : Handled crew response events)
    (each : ∀ d : Deed, d.isHandling = true → P (.did d)) (counts : ∀ n, P (.counted n)) :
    ∀ e ∈ events, P e := by
  cases handled with
  | drops nobody =>
    have asked := nobody.forall fun _ _ => each (.askedProcessor ..) rfl
    have dropped : ∀ e ∈ [.did (.dropped response), .counted .unprocessed], P e :=
      List.forall_mem_cons.mpr ⟨each (.dropped response) rfl,
        List.forall_mem_singleton.mpr (counts _)⟩
    exact List.forall_mem_append.mpr ⟨asked, dropped⟩
  | @processes asked piped k p carrier admissions chosen along answered =>
    have asked := chosen.forall fun _ _ => each (.askedProcessor ..) rfl
    have processed : ∀ e ∈ .did (.processed k response carrier) :: piped, P e :=
      List.forall_mem_cons.mpr ⟨each (.processed ..) rfl,
        along.forall (fun _ _ => each (.piped ..) rfl) (counts _)⟩
    have completed : ∀ e ∈ [.did (.completed carrier), .counted .processed], P e :=
      List.forall_mem_cons.mpr ⟨each (.completed carrier) rfl,
        List.forall_mem_singleton.mpr (counts _)⟩
    have offered : ∀ e ∈ Event.offers carrier.discovered admissions, P e :=
      Event.forall_offers (fun _ _ => each (.pushed ..) rfl) counts _ _
    have answers := List.forall_mem_append.mpr ⟨asked, processed⟩
    have ended := List.forall_mem_append.mpr ⟨answers, completed⟩
    exact List.forall_mem_append.mpr ⟨ended, offered⟩

theorem Served.forall {crew : Crew σ} {r : Request} (served : Served crew r events)
    (each : ∀ d : Deed, d.isPoll = false → P (.did d)) (counts : ∀ n, P (.counted n)) :
    ∀ e ∈ events, P e := by
  cases served with
  | unsupported nobody =>
    have asked := nobody.forall fun _ _ => each (.askedDownloader ..) rfl
    exact List.forall_mem_append.mpr ⟨asked, List.forall_mem_singleton.mpr (counts _)⟩
  | @fetches asked events k d chosen fetched =>
    refine List.forall_mem_append.mpr ⟨chosen.forall fun _ _ => each (.askedDownloader ..) rfl, ?_⟩
    cases fetched with
    | fails cause a =>
      simp only [List.forall_mem_cons]
      exact ⟨counts _, each (.downloaded ..) rfl, counts _, each (.requeued ..) rfl,
        List.forall_mem_nil P⟩
    | answers response handled =>
      have fetched : ∀ e ∈ [.counted .started, .did (.downloaded k r (.ok response)),
          .counted .succeeded, .counted (.status response.status)], P e := by
        simp only [List.forall_mem_cons]
        exact ⟨counts _, each (.downloaded ..) rfl, counts _, counts _, List.forall_mem_nil P⟩
      have handling : ∀ d : Deed, d.isHandling = true → P (.did d) := by
        intro d handling
        refine each d ?_
        cases d <;> first | rfl | cases handling
      exact List.forall_mem_append.mpr ⟨fetched, handled.forall handling counts⟩

end events

theorem Trace.concat {crew : Crew σ} {r : Request} {events served : List Event}
    (trace : Trace crew events) (last : Served crew r served) :
    Trace crew (events ++ .did (.polled r) :: served) := by
  induction trace with
  | nil =>
    have single := Trace.segment last .nil
    rwa [List.append_nil] at single
  | segment this _ ih =>
    rw [List.append_assoc]
    exact .segment this ih

section runs

variable {run run' : Run S σ} {crew : Crew σ} [Frontier S]

theorem asked_of_firstSupporting {ask : α → Act σ Bool} {deed : Nat → Bool → Deed}
    (apart : ∀ i verdict, (deed i verdict).isFrontiers = false) {k : Nat} {all : List α}
    {chosen : Option (Nat × α)}
    (h : firstSupporting ask deed k all run = (.ok chosen, run')) :
    ∃ events, Asked deed k all events chosen ∧ Elapsed run.core run'.core events := by
  induction all generalizing k run with
  | nil =>
    cases h
    exact ⟨[], .nobody k, .refl _⟩
  | cons a rest ih =>
    obtain ⟨verdict, -, h⟩ := perform_bind_eq_ok h
    have h := update_bind_eq_ok h
    have told := (Elapsed.perform run (ask a)).trans
      (.enter (run.perform (ask a)).2.core (deed k verdict) (apart k verdict))
    cases verdict with
    | true =>
      cases h
      exact ⟨_, .yes k a rest, told⟩
    | false =>
      obtain ⟨events, asked, elapsed⟩ := ih h
      exact ⟨_, .no a asked, told.trans elapsed⟩

theorem piped_of_runPipelines {carrier : Carrier} {total k : Nat} {ps : List (Pipeline σ)}
    (h : runPipelines carrier total k ps run = (.ok (), run')) :
    ∃ events, Piped carrier k ps events ∧ Elapsed run.core run'.core events := by
  induction ps generalizing k run with
  | nil =>
    cases h
    exact ⟨[], .through k, .refl _⟩
  | cons p rest ih =>
    have h := update_bind_eq_ok h
    obtain ⟨verdict, -, h⟩ := perform_bind_eq_ok h
    have h := update_bind_eq_ok h
    have entered := (Elapsed.say run.core _).trans
      (.perform (run.update (·.say (.entersPipeline carrier.request.line p.name (k + 1) total)))
        (p.process carrier))
    have told := entered.trans (.enter _ (.piped k carrier verdict) rfl)
    cases verdict with
    | true =>
      obtain ⟨events, piped, elapsed⟩ := ih h
      exact ⟨_, .passedOn p piped, told.trans elapsed⟩
    | false =>
      cases update_bind_eq_ok h
      exact ⟨_, .heldBack k p rest, (told.trans (.say _ _)).trans (.tally _ .shortCircuit)⟩

theorem handled_of_handleResponse {response : Response}
    (h : handleResponse crew response run = (.ok (), run')) :
    ∃ events, Handled crew response events ∧ Elapsed run.core run'.core events := by
  obtain ⟨chosen, next, asking, h⟩ := bind_eq_ok h
  obtain ⟨asked, choice, elapsed⟩ := asked_of_firstSupporting (fun _ _ => rfl) asking
  cases chosen with
  | none =>
    cases update_bind_eq_ok (update_bind_eq_ok h)
    exact ⟨_, .drops choice, elapsed.trans
      (((Elapsed.say _ _).trans (.enter _ _ rfl)).trans (.tally _ .unprocessed))⟩
  | some chosen =>
    obtain ⟨k, p⟩ := chosen
    obtain ⟨carrier, -, h⟩ := perform_bind_eq_ok h
    obtain ⟨_, last, piping, h⟩ := bind_eq_ok (update_bind_eq_ok h)
    obtain ⟨piped, along, elapsed'⟩ := piped_of_runPipelines piping
    cases update_bind_eq_ok (update_bind_eq_ok h)
    have processed := (Elapsed.perform next (p.process response)).trans
      (.enter _ (.processed k response carrier) rfl)
    have completed := (Elapsed.enter last.core (.completed carrier) rfl).trans
      (.tally _ .processed)
    have pushed := Elapsed.pushDiscovered
      ((last.core.enter (.completed carrier)).tally (·.recordProcessed)) carrier.discovered
    refine ⟨_, .processes carrier _ choice along ?_,
      ((elapsed.trans (processed.trans elapsed')).trans completed).trans pushed⟩
    exact Frontier.length_pushAll _ _

theorem fetched_of_fetch {k : Nat} {d : Downloader σ} {r : Request}
    (h : fetch crew k d r run = (.ok (), run')) :
    ∃ events, Fetched crew k r events ∧ Elapsed run.core run'.core events := by
  obtain ⟨result, -, h⟩ := perform_bind_eq_ok (update_bind_eq_ok (update_bind_eq_ok h))
  have h := update_bind_eq_ok h
  have started := ((Elapsed.say run.core (.executing r.line)).trans (.tally _ .started)).trans
    (.perform ((run.update (·.say (.executing r.line))).update (·.tally (·.recordFetchStarted)))
      (d.download r))
  have told := started.trans (.enter _ (.downloaded k r result) rfl)
  cases result with
  | error cause =>
    cases update_bind_eq_ok (update_bind_eq_ok h)
    exact ⟨_, .fails cause _,
      ((told.trans (.say _ _)).trans (.tally _ .failed)).trans (.requeue _ r)⟩
  | ok response =>
    have h := update_bind_eq_ok (update_bind_eq_ok h)
    obtain ⟨events, handled, elapsed⟩ := handled_of_handleResponse h
    exact ⟨_, .answers response handled,
      ((told.trans (.tally _ .succeeded)).trans (.tally _ (.status response.status))).trans
        elapsed⟩

theorem served_of_serve {r : Request} (h : serve crew r run = (.ok (), run')) :
    ∃ events, Served crew r events ∧ Elapsed run.core run'.core events := by
  obtain ⟨chosen, next, asking, h⟩ := bind_eq_ok h
  obtain ⟨asked, choice, elapsed⟩ := asked_of_firstSupporting (fun _ _ => rfl) asking
  cases chosen with
  | none =>
    cases update_bind_eq_ok h
    exact ⟨_, .unsupported choice, elapsed.trans ((Elapsed.say _ _).trans (.tally _ .unsupported))⟩
  | some chosen =>
    obtain ⟨events, fetched, elapsed'⟩ := fetched_of_fetch h
    exact ⟨_, .fetches choice fetched, elapsed.trans elapsed'⟩

theorem segment_of_step {more : Bool} (h : step crew run = (.ok more, run')) :
    (more = false ∧ ∃ s, Frontier.poll run.core.frontier = (none, s) ∧
      run' = run.update fun c => { c with frontier := s }) ∨
    (more = true ∧ ∃ r s served, Frontier.poll run.core.frontier = (some r, s) ∧
      Served crew r served ∧ Elapsed run.core run'.core (.did (.polled r) :: served)) := by
  obtain ⟨found, next, polling, h⟩ := bind_eq_ok h
  rcases answer : Frontier.poll run.core.frontier with ⟨r?, s⟩
  simp only [pollNext, Core.poll, answer] at polling
  cases r? with
  | none =>
    cases polling
    cases h
    exact .inl ⟨rfl, s, rfl, rfl⟩
  | some r =>
    cases polling
    obtain ⟨_, _, serving, h⟩ := bind_eq_ok h
    cases h
    obtain ⟨served, this, elapsed⟩ := served_of_serve serving
    exact .inr ⟨rfl, r, s, served, rfl, this, (Elapsed.poll answer).trans elapsed⟩

/-- A crawl that was not cut short served request after request. If it drained the frontier, its
last poll found nothing; if it did not, it has used all its fuel on requests. -/
theorem trace_of_crawl {fuel : Nat} {drained : Bool}
    (h : crawl crew fuel run = (.ok drained, run')) :
    ∃ events, Trace crew events ∧ Elapsed run.core run'.core events ∧
      (drained = true → ∃ s, Frontier.poll s = (none, run'.core.frontier)) ∧
      (drained = false → fuel ≤ events.countP (Event.isDeed Deed.isPoll)) := by
  induction fuel generalizing run with
  | zero =>
    cases h
    exact ⟨[], .nil, .refl _, nofun, fun _ => Nat.zero_le _⟩
  | succ fuel ih =>
    obtain ⟨more, next, stepped, h⟩ := bind_eq_ok h
    rcases segment_of_step stepped with ⟨rfl, s, dry, rfl⟩ | ⟨rfl, r, s, served, -, this, elapsed⟩
    · cases h
      exact ⟨[], .nil, .dryPoll dry, fun _ => ⟨_, dry⟩, nofun⟩
    · obtain ⟨events, rest, elapsed', dry, spent⟩ := ih h
      refine ⟨_, .segment this rest, elapsed.trans elapsed', dry, ?_⟩
      intro left
      have later := spent left
      rw [List.countP_append, countP_cons_toNat]
      simp only [Event.isDeed, Deed.isPoll, Bool.toNat_true]
      omega

end runs

end Sequential

end WebCrawl
