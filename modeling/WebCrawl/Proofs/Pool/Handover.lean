import WebCrawl.Proofs.Crawl.Outcome
import WebCrawl.Proofs.Pool.Agreement
import WebCrawl.Proofs.Pool.Journal

/-!
# What is handed to the pipelines

A processor makes a carrier of a response, and the carrier is handed to the pipelines one after the
other. A sequential crawl hands it on as it was made and pushes the discovered requests afterwards;
a process worker pushes them first and hands on what is left. So the pipelines of both are given the
same request and the same fields, but those of a pool never see what was discovered.
-/

namespace WebCrawl

namespace Deed

def isCarrying : Deed → Bool
  | processed .. => true
  | piped .. => true
  | _ => false

def handed? : Deed → Option Carrier
  | piped _ c _ => some c
  | _ => none

theorem exists_piped {c : Carrier} {deeds : List Deed} (h : c ∈ deeds.filterMap handed?) :
    ∃ k verdict, .piped k c verdict ∈ deeds := by
  obtain ⟨d, known, gives⟩ := List.mem_filterMap.mp h
  cases d with
  | piped k c' verdict =>
    cases gives
    exact ⟨k, verdict, known⟩
  | _ => cases gives

end Deed

/-- What was done about one response, as far as carriers go: at most one carrier is made of it, and
what the pipelines are given is what `given` leaves of this carrier. -/
inductive HandsOn (given : Carrier → Carrier) (response : Response) :
    Option Carrier → List Deed → Prop where
  | nothing : HandsOn given response none []
  | plain {made : Option Carrier} {deeds : List Deed} {d : Deed} (apart : d.isCarrying = false)
      (h : HandsOn given response made deeds) : HandsOn given response made (deeds ++ [d])
  | makes {deeds : List Deed} (k : Nat) (c : Carrier) (h : HandsOn given response none deeds) :
      HandsOn given response (some c) (deeds ++ [.processed k response c])
  | hands {c : Carrier} {deeds : List Deed} (k : Nat) (verdict : Bool)
      (h : HandsOn given response (some c) deeds) :
      HandsOn given response (some c) (deeds ++ [.piped k (given c) verdict])

/-- One carrier at most was made of a response, and every pipeline was given what `given` leaves of
it. -/
structure HandsOver (given : Carrier → Carrier) (response : Response) (deeds : List Deed) :
    Prop where
  single : ∀ k r c k' r' c', .processed k r c ∈ deeds → .processed k' r' c' ∈ deeds →
    r = response ∧ r' = response ∧ c = c'
  handed : ∀ k c' verdict, .piped k c' verdict ∈ deeds →
    ∃ k' c, .processed k' response c ∈ deeds ∧ c' = given c

namespace HandsOn

variable {given : Carrier → Carrier} {response : Response} {made : Option Carrier}
  {deeds now : List Deed}

theorem append (h : HandsOn given response made deeds)
    (apart : ∀ d ∈ now, d.isCarrying = false) : HandsOn given response made (deeds ++ now) := by
  induction now generalizing deeds with
  | nil => rwa [List.append_nil]
  | cons d now ih =>
    obtain ⟨first, others⟩ := List.forall_mem_cons.mp apart
    rw [List.append_cons]
    exact ih (.plain first h) others

theorem offers (h : HandsOn given response made deeds) (rs : List Request) (as : List Admission) :
    HandsOn given response made (deeds ++ (Event.offers rs as).filterMap Event.deed?) := by
  refine h.append fun d known => Bool.eq_false_iff.mpr ?_
  exact List.countP_eq_zero.mp (Event.countP_deeds_offers (fun _ _ => rfl) rs as) d known

theorem processed (h : HandsOn given response made deeds) {k : Nat} {response' : Response}
    {c : Carrier} (known : .processed k response' c ∈ deeds) :
    made = some c ∧ response' = response := by
  induction h with
  | nothing => cases known
  | @plain made deeds d apart _ ih =>
    rcases List.mem_append.mp known with earlier | now
    · exact ih earlier
    · cases List.mem_singleton.mp now
      cases apart
  | makes k' c' h ih =>
    rcases List.mem_append.mp known with earlier | now
    · cases (ih earlier).1
    · cases List.mem_singleton.mp now
      exact ⟨rfl, rfl⟩
  | hands k' verdict _ ih =>
    rcases List.mem_append.mp known with earlier | now
    · exact ih earlier
    · cases List.mem_singleton.mp now

theorem exists_processed {c : Carrier} (h : HandsOn given response made deeds)
    (some_made : made = some c) : ∃ k, .processed k response c ∈ deeds := by
  induction h with
  | nothing => cases some_made
  | plain _ _ ih =>
    obtain ⟨k, known⟩ := ih some_made
    exact ⟨k, List.mem_append_left _ known⟩
  | makes k c' h ih =>
    cases some_made
    exact ⟨k, List.mem_append_right _ List.mem_cons_self⟩
  | hands _ _ _ ih =>
    obtain ⟨k, known⟩ := ih some_made
    exact ⟨k, List.mem_append_left _ known⟩

theorem piped (h : HandsOn given response made deeds) {k : Nat} {c' : Carrier} {verdict : Bool}
    (known : .piped k c' verdict ∈ deeds) : ∃ c, made = some c ∧ c' = given c := by
  induction h with
  | nothing => cases known
  | @plain made deeds d apart _ ih =>
    rcases List.mem_append.mp known with earlier | now
    · exact ih earlier
    · cases List.mem_singleton.mp now
      cases apart
  | makes k' c h ih =>
    rcases List.mem_append.mp known with earlier | now
    · obtain ⟨_, none_made, -⟩ := ih earlier
      cases none_made
    · cases List.mem_singleton.mp now
  | @hands c deeds k' verdict' _ ih =>
    rcases List.mem_append.mp known with earlier | now
    · exact ih earlier
    · cases List.mem_singleton.mp now
      exact ⟨c, rfl, rfl⟩

theorem handsOver (h : HandsOn given response made deeds) :
    HandsOver given response deeds where
  single _ _ c _ _ c' known known' := by
    obtain ⟨first, rfl⟩ := h.processed known
    obtain ⟨second, rfl⟩ := h.processed known'
    exact ⟨rfl, rfl, Option.some.inj (first.symm.trans second)⟩
  handed _ _ _ known := by
    obtain ⟨c, some_made, rfl⟩ := h.piped known
    obtain ⟨k, processed⟩ := h.exists_processed some_made
    exact ⟨k, c, processed, rfl⟩

end HandsOn

namespace Working

variable {S σ α β : Type} {P Q R : List Deed → Prop}

/-- If the deeds so far are as said first, then so are they as said last when the work is over,
whether or not a panic cut it short. -/
def Leads (P : List Deed → Prop) (x : Working S σ α) (Q : List Deed → Prop) : Prop :=
  ∀ run past, P past → ∃ since,
    (x run).2.core.journal.deeds = run.core.journal.deeds ++ since ∧ Q (past ++ since)

namespace Leads

theorem of_same {x : Working S σ α}
    (same : ∀ run, (x run).2.core.journal.deeds = run.core.journal.deeds) : Leads P x P :=
  fun run past h => ⟨[], (same run).trans (List.append_nil _).symm, by rwa [List.append_nil]⟩

theorem pure (a : α) : Leads P (Pure.pure a : Working S σ α) P := of_same fun _ => rfl

theorem say (n : Note) : Leads P (Working.say n : Working S σ Unit) P :=
  of_same fun run => run.core.deeds_say n

theorem tally (count : Statistics → Statistics) :
    Leads P (Working.tally count : Working S σ Unit) P := of_same fun _ => rfl

theorem perform (act : Act σ α) : Leads P (Working.perform act : Working S σ α) P := by
  refine of_same fun run => ?_
  have same := run.deeds_perform act
  rcases answer : run.perform act with ⟨outcome, next⟩
  rw [answer] at same
  cases outcome with
  | returned a => rwa [perform_of_returned answer]
  | panicked message => rwa [perform_of_panicked answer]

theorem update {f : Core S → Core S} (told : Core S → List Deed)
    (deeds : ∀ c, (f c).journal.deeds = c.journal.deeds ++ told c)
    (leads : ∀ c past, P past → Q (past ++ told c)) :
    Leads P (Working.update f : Working S σ Unit) Q :=
  fun run past h => ⟨told run.core, deeds run.core, leads run.core past h⟩

theorem enter {d : Deed} (leads : ∀ past, P past → Q (past ++ [d])) :
    Leads P (Working.enter d : Working S σ Unit) Q :=
  update (fun _ => [d]) (fun c => c.deeds_enter d) fun _ => leads

theorem weaken {x : Working S σ α} (hx : Leads P x Q) (weaker : ∀ past, Q past → R past) :
    Leads P x R := by
  intro run past h
  obtain ⟨since, deeds, kept⟩ := hx run past h
  exact ⟨since, deeds, weaker _ kept⟩

theorem bind {x : Working S σ α} {k : α → Working S σ β} (hx : Leads P x Q)
    (hk : ∀ a, Leads Q (k a) R) (cut : ∀ past, Q past → R past) : Leads P (x >>= k) R := by
  intro run past h
  obtain ⟨since, deeds, kept⟩ := hx run past h
  rcases ran : x run with ⟨result, next⟩
  rw [ran] at deeds
  cases result with
  | error p =>
    rw [bind_of_error ran]
    exact ⟨since, deeds, cut _ kept⟩
  | ok a =>
    obtain ⟨since', deeds', kept'⟩ := hk a next (past ++ since) kept
    rw [bind_of_ok ran]
    refine ⟨since ++ since', ?_, ?_⟩
    · rw [deeds', deeds, List.append_assoc]
    · rwa [← List.append_assoc]

theorem andThen {x : Working S σ α} {k : α → Working S σ β} (hx : Leads P x Q)
    (hk : ∀ a, Leads Q (k a) Q) : Leads P (x >>= k) Q :=
  bind hx hk fun _ h => h

end Leads

end Working

namespace Sequential

open Working

variable {S σ α : Type} {crew : Crew σ} {response : Response} {made : Option Carrier}

theorem leads_firstSupporting {ask : α → Act σ Bool} {deed : Nat → Bool → Deed}
    (apart : ∀ k verdict, (deed k verdict).isCarrying = false) (k : Nat) (all : List α) :
    Leads (HandsOn id response made)
      (firstSupporting ask deed k all : Working S σ (Option (Nat × α)))
      (HandsOn id response made) := by
  induction all generalizing k with
  | nil => exact .pure none
  | cons a rest ih =>
    refine .andThen (.perform (ask a)) fun verdict => ?_
    refine .andThen (.enter fun _ => .plain (apart k verdict)) fun _ => ?_
    cases verdict with
    | true => exact .pure (some (k, a))
    | false => exact ih (k + 1)

theorem leads_runPipelines (carrier : Carrier) (total k : Nat) (ps : List (Pipeline σ)) :
    Leads (HandsOn id response (some carrier))
      (runPipelines carrier total k ps : Working S σ Unit)
      (HandsOn id response (some carrier)) := by
  induction ps generalizing k with
  | nil => exact .pure ()
  | cons p rest ih =>
    refine .andThen (.say _) fun _ => .andThen (.perform (p.process carrier)) fun verdict => ?_
    refine .andThen (.enter fun _ => .hands k verdict) fun _ => ?_
    cases verdict with
    | true => exact ih (k + 1)
    | false => exact .andThen (.say _) fun _ => .tally _

variable [Frontier S]

theorem leads_pushDiscovered (rs : List Request) : Leads (HandsOn id response made)
    (Working.update fun c => (c.pushDiscovered rs).2 : Working S σ Unit)
    (HandsOn id response made) :=
  .update _ (fun c => (Elapsed.pushDiscovered c rs).deeds) fun _ _ h => h.offers _ _

/-- However the handling of a response ends, the pipelines are given the carrier as it was made. -/
theorem leads_handleResponse (crew : Crew σ) (response : Response) :
    Leads (HandsOn id response none) (handleResponse crew response : Working S σ Unit)
      fun deeds => ∃ made, HandsOn id response made deeds := by
  have unmade : ∀ past, HandsOn id response none past →
      ∃ made, HandsOn id response made past := fun _ h => ⟨none, h⟩
  refine .bind (leads_firstSupporting (fun _ _ => rfl) 0 crew.processors) (fun chosen => ?_) unmade
  cases chosen with
  | none =>
    refine .weaken (.andThen (.say _) fun _ => ?_) unmade
    exact .andThen (.enter fun _ => .plain rfl) fun _ => .tally _
  | some chosen =>
    refine .bind (.perform (chosen.2.process response)) (fun carrier => ?_) unmade
    refine .weaken (.andThen (.enter fun _ => .makes chosen.1 carrier) fun _ => ?_)
      fun _ h => ⟨some carrier, h⟩
    refine .andThen (leads_runPipelines carrier _ 0 crew.pipelines) fun _ => ?_
    refine .andThen (.enter fun _ => .plain rfl) fun _ => .andThen (.tally _) fun _ => ?_
    exact leads_pushDiscovered _

end Sequential

namespace Pool

variable {S σ : Type} [Frontier S] {crew : Crew σ} {d : Downloader σ} {p p' q : Pool S σ}
  {i : Nat} {response : Response} {made : Option Carrier}

/-- From one pool to another process worker `i` is at work on one response, however the moves of all
others come in between; its own deeds are listed. -/
inductive Works (crew : Crew σ) (d : Downloader σ) (i : Nat) :
    Pool S σ → List Deed → Pool S σ → Prop where
  | here (p : Pool S σ) : Works crew d i p [] p
  | other {p p' q : Pool S σ} {m : Move} {own : List Deed} (apart : m ≠ .process i)
      (moved : p.advance crew d m = some p') (later : Works crew d i p' own q) :
      Works crew d i p own q
  | own {p p' q : Pool S σ} {now own : List Deed} (busy : p.workers[i]? ≠ some .seeking)
      (moved : p.advance crew d (.process i) = some p')
      (entered : p'.run.core.journal.deeds = p.run.core.journal.deeds ++ now)
      (later : Works crew d i p' own q) : Works crew d i p (now ++ own) q

theorem Works.next {own : List Deed} (busy : p.workers[i]? ≠ some .seeking)
    (moved : p.advance crew d (.process i) = some p') (later : Works crew d i p' own q) :
    Works crew d i p
      (p'.run.core.journal.deeds.drop p.run.core.journal.deeds.length ++ own) q := by
  obtain ⟨_, _, since, deeds, -⟩ := entered_of_step (step_of_advance moved)
  refine .own busy moved ?_ later
  rw [deeds, List.drop_left]

/-- The phases of a worker while it handles a response. -/
inductive Stands (response : Response) : Worker → Option Carrier → Prop where
  | selecting (k : Nat) : Stands response (.selecting response k) none
  | dropping : Stands response (.dropping response) none
  | processing (k : Nat) : Stands response (.processing response k) none
  | publishing (c : Carrier) : Stands response (.publishing c) (some c)
  | piping (c : Carrier) (k : Nat) : Stands response (.piping c.takeRequests.2 k) (some c)
  | held (c : Carrier) : Stands response (.held c.takeRequests.2) (some c)
  | finishing (c : Carrier) : Stands response (.finishing c.takeRequests.2) (some c)
  | done (made : Option Carrier) : Stands response .seeking made
  | unwinding (made : Option Carrier) : Stands response .unwinding made
  | dead (made : Option Carrier) : Stands response .dead made

theorem Stands.wake {w : Worker} (h : Stands response w made) : w.wake = w := by
  cases h <;> rfl

theorem stands_of_other {m : Move} {w : Worker} (apart : m ≠ .process i)
    (step : Step crew d p m p') (here : p.workers[i]? = some w) (h : Stands response w made) :
    p'.workers[i]? = some w := by
  have woken : (p.workers.map Worker.wake)[i]? = some w := by
    rw [List.getElem?_map, here, Option.map_some, h.wake]
  have elsewhere : ∀ {j : Nat} (w' : Worker), j ≠ i → (p.workers.set j w')[i]? = some w := by
    intro j w' differs
    rw [List.getElem?_set_ne differs, here]
  cases step with
  | fetch j wakes f _ _ step =>
    cases step with
    | announces => exact woken
    | _ => exact here
  | process j w' _ _ step =>
    have differs : j ≠ i := fun same => apart (same ▸ rfl)
    cases step <;> exact elsewhere _ differs
  | stirsWorker j asleep =>
    refine elsewhere _ ?_
    rintro rfl
    cases here.symm.trans asleep
    cases h
  | proceed _ step =>
    generalize p.control = c at step
    cases step with
    | wakesProcessors => exact woken
    | _ => exact here
  | _ => exact here

omit [Frontier S] in
theorem getElem?_set_of_here {w w' : Worker} (here : p.workers[i]? = some w) :
    (p.workers.set i w')[i]? = some w' :=
  List.getElem?_set_self (List.getElem?_eq_some_iff.mp here).1

/-- A step of the worker itself: a carrier is made as the processor answers, and the pipelines are
given what is left of it once its requests were taken. -/
theorem handsOn_of_workerStep {w : Worker} {past : List Deed} (here : p.workers[i]? = some w)
    (busy : w ≠ .seeking) (step : WorkerStep crew p i w p') (h : Stands response w made)
    (past_handed : HandsOn (·.takeRequests.2) response made past) :
    ∃ now w' made', p'.run.core.journal.deeds = p.run.core.journal.deeds ++ now ∧
      p'.workers[i]? = some w' ∧ Stands response w' made' ∧
      HandsOn (·.takeRequests.2) response made' (past ++ now) := by
  have quiet : HandsOn (·.takeRequests.2) response made (past ++ []) := by
    rwa [List.append_nil]
  cases step with
  | findsNone _ k none =>
    cases h
    exact ⟨[], _, _, by simp, getElem?_set_of_here here, .dropping, quiet⟩
  | selects _ k processor asked yes =>
    cases h
    exact ⟨[.askedProcessor k response true], _, _, by simp, getElem?_set_of_here here,
      .processing k, .plain rfl past_handed⟩
  | passesOver _ k processor asked no =>
    cases h
    exact ⟨[.askedProcessor k response false], _, _, by simp, getElem?_set_of_here here,
      .selecting (k + 1), .plain rfl past_handed⟩
  | panicsSelecting r k processor message asked panicked =>
    exact ⟨[.lost r.request], _, made, by simp, getElem?_set_of_here here, .unwinding _,
      .plain rfl past_handed⟩
  | drops r =>
    exact ⟨[.dropped r], _, made, by simp, getElem?_set_of_here here, .done _,
      .plain rfl past_handed⟩
  | processes _ k processor carrier asked done =>
    cases h
    exact ⟨[.processed k _ carrier], _, _, by simp, getElem?_set_of_here here,
      .publishing carrier, .makes k carrier past_handed⟩
  | panicsProcessing r k processor message asked panicked =>
    exact ⟨[.lost r.request], _, made, by simp, getElem?_set_of_here here, .unwinding _,
      .plain rfl past_handed⟩
  | publishes carrier free =>
    cases h
    have pushed := (Elapsed.pushDiscovered p.run.core carrier.discovered).deeds
    exact ⟨_, _, _, (Core.deeds_say _ _).trans pushed, getElem?_set_of_here here,
      .piping carrier 0, past_handed.offers _ _⟩
  | reachesEnd _ k none =>
    cases h with
    | piping c =>
      exact ⟨[], _, _, by simp, getElem?_set_of_here here, .finishing c, quiet⟩
  | passesOn _ k pipeline next yes =>
    cases h with
    | piping c =>
      exact ⟨[.piped k _ true], _, _, by simp, getElem?_set_of_here here, .piping c (k + 1),
        .hands k true past_handed⟩
  | holdsBack _ k pipeline next no =>
    cases h with
    | piping c =>
      exact ⟨[.piped k _ false], _, _, by simp, getElem?_set_of_here here, .held c,
        .hands k false past_handed⟩
  | panicsPiping carrier k pipeline message next panicked =>
    exact ⟨[.lost carrier.request], _, made, by simp, getElem?_set_of_here here, .unwinding _,
      .plain rfl past_handed⟩
  | countsStop _ =>
    cases h with
    | held c => exact ⟨[], _, _, by simp, getElem?_set_of_here here, .finishing c, quiet⟩
  | finishes carrier =>
    exact ⟨[.completed carrier], _, made, by simp, getElem?_set_of_here here, .done _,
      .plain rfl past_handed⟩
  | dies free => exact ⟨[], _, made, by simp, getElem?_set_of_here here, .dead _, quiet⟩
  | looks => exact absurd rfl busy
  | leaves => exact absurd rfl busy
  | _ => cases h

theorem handsOn_of_works {own past : List Deed} {w : Worker} (works : Works crew d i p own q)
    (here : p.workers[i]? = some w) (h : Stands response w made)
    (past_handed : HandsOn (·.takeRequests.2) response made past) :
    ∃ w' made', q.workers[i]? = some w' ∧ Stands response w' made' ∧
      HandsOn (·.takeRequests.2) response made' (past ++ own) := by
  induction works generalizing w made past with
  | here p => exact ⟨w, made, here, h, by rwa [List.append_nil]⟩
  | other apart moved _ ih =>
    exact ih (stands_of_other apart (step_of_advance moved) here h) h past_handed
  | own busy moved entered _ ih =>
    cases step_of_advance moved with
    | process _ w₀ _ here₀ step =>
      cases here.symm.trans here₀
      have at_work : w ≠ .seeking := by
        rintro rfl
        exact busy here
      obtain ⟨now, w', made', deeds, here', stands, handed⟩ :=
        handsOn_of_workerStep here at_work step h past_handed
      cases List.append_cancel_left (entered.symm.trans deeds)
      rw [← List.append_assoc]
      exact ih here' stands handed

/-- Whatever a sequential crawl and a process worker do about one response, in whatever states they
are and however the moves of others come in between: each makes one carrier of it at most. The
sequential crawl gives every pipeline this carrier as it is, the process worker gives every pipeline
the carrier without its discovered requests. So pipelines of both that are given the same carrier
see the same request and the same fields, and the same carrier only where nothing was
discovered. -/
theorem hands_on_same_data (crew : Crew σ) (d : Downloader σ) (response : Response)
    (run : Run S σ) (p q : Pool S σ) (i : Nat) (own : List Deed)
    (selecting : p.workers[i]? = some (.selecting response 0)) (works : Works crew d i p own q) :
    ∃ alone, (Sequential.handleResponse crew response run).2.core.journal.deeds =
        run.core.journal.deeds ++ alone ∧
      HandsOver id response alone ∧ HandsOver (·.takeRequests.2) response own ∧
      (∀ c' k, q.workers[i]? = some (.piping c' k) →
        ∃ k' c, .processed k' response c ∈ own ∧ c' = c.takeRequests.2) ∧
      ∀ k₀ k₀' c, .processed k₀ response c ∈ alone → .processed k₀' response c ∈ own →
        ∀ k k' c₁ c₂ verdict verdict', .piped k c₁ verdict ∈ alone →
          .piped k' c₂ verdict' ∈ own →
            c₁.request = c₂.request ∧ c₁.fields = c₂.fields ∧
            c₁.discovered = c.discovered ∧ c₂.discovered = [] ∧
            (c₁ = c₂ ↔ c.discovered = []) := by
  obtain ⟨alone, deeds, made, first⟩ :=
    Sequential.leads_handleResponse crew response run [] .nothing
  obtain ⟨w, made', here, stands, second⟩ :=
    handsOn_of_works works selecting (.selecting 0) .nothing
  refine ⟨alone, deeds, first.handsOver, second.handsOver, ?_, ?_⟩
  · intro c' k gives
    cases Option.some.inj (here.symm.trans gives)
    cases stands with
    | piping c =>
      obtain ⟨k', processed⟩ := second.exists_processed rfl
      exact ⟨k', c, processed, rfl⟩
  · intro k₀ k₀' c known known' k k' c₁ c₂ verdict verdict' piped piped'
    obtain ⟨same, -⟩ := first.processed known
    obtain ⟨same', -⟩ := second.processed known'
    obtain ⟨_, some_made, rfl⟩ := first.piped piped
    obtain ⟨_, some_made', rfl⟩ := second.piped piped'
    cases same.symm.trans some_made
    cases same'.symm.trans some_made'
    refine ⟨rfl, rfl, rfl, rfl, fun same => congrArg Carrier.discovered same, fun none => ?_⟩
    exact congrArg (Carrier.mk c.request c.fields) none

def circleCrew : Crew (String → Nat) := Conduct.circle.players Conduct.circleLinks

def circleResponse : Response := .new (.named "a") 200 []

/-- What the processor makes of it. -/
def circleCarrier : Carrier := ⟨.named "a", .empty, [.named "a", .named "b", .named "b"]⟩

def circleRun (engine : Engine) : Run (Layered Queue) (String → Nat) :=
  ⟨.new engine (exactly [] (.empty .fifo)), Conduct.circle.failures⟩

/-- A process worker has taken the response. -/
def circleTaken : Pool (Layered Queue) (String → Nat) where
  run := circleRun (.pooled ⟨1, 1, Config.default.waitInterval⟩)
  handoff := []
  parked := 0
  cancelled := false
  fetchers := [.seeking]
  workers := [.selecting circleResponse 0]
  control := .waiting

theorem exists_works_of_circle : ∃ own q,
    Works circleCrew Conduct.circle.playedDownloader 0 circleTaken own q ∧
      q.workers[0]? = some .seeking ∧ own[1]? = some (.processed 0 circleResponse circleCarrier) ∧
      own.filterMap Deed.handed? = [circleCarrier.takeRequests.2] := by
  refine ⟨_, _, .next nofun rfl (.next nofun rfl (.next nofun rfl (.next nofun rfl
    (.next nofun rfl (.next nofun rfl (.here _)))))), rfl, rfl, rfl⟩

theorem handleResponse_of_circle :
    let deeds := (Sequential.handleResponse circleCrew circleResponse
      (circleRun .sequential)).2.core.journal.deeds
    deeds[1]? = some (.processed 0 circleResponse circleCarrier) ∧
      deeds.filterMap Deed.handed? = [circleCarrier] :=
  ⟨rfl, rfl⟩

/-- The first page of the circle has links: the pipeline of a sequential crawl sees them, that of a
process worker does not. -/
theorem hands_on_other_data_of_circle : ∃ own q alone,
    Works circleCrew Conduct.circle.playedDownloader 0 circleTaken own q ∧
      q.workers[0]? = some .seeking ∧
      (Sequential.handleResponse circleCrew circleResponse
        (circleRun .sequential)).2.core.journal.deeds = alone ∧
      .processed 0 circleResponse circleCarrier ∈ alone ∧
      .processed 0 circleResponse circleCarrier ∈ own ∧
      alone.filterMap Deed.handed? = [circleCarrier] ∧
      own.filterMap Deed.handed? = [circleCarrier.takeRequests.2] ∧
      circleCarrier.discovered ≠ circleCarrier.takeRequests.2.discovered := by
  obtain ⟨own, q, works, idle, processed, handed⟩ := exists_works_of_circle
  obtain ⟨processed', handed'⟩ := handleResponse_of_circle
  exact ⟨own, q, _, works, idle, rfl, List.mem_of_getElem? processed',
    List.mem_of_getElem? processed, handed', handed, nofun⟩

theorem hands_on_same_data_of_circle :
    circleTaken.workers[0]? = some (.selecting circleResponse 0) ∧ ∃ own q,
      Works circleCrew Conduct.circle.playedDownloader 0 circleTaken own q ∧
      (circleCarrier.request = circleCarrier.takeRequests.2.request ∧
        circleCarrier.fields = circleCarrier.takeRequests.2.fields) ∧
      circleCarrier.takeRequests.2 ∈ own.filterMap Deed.handed? := by
  obtain ⟨own, q, works, -, processed, handed⟩ := exists_works_of_circle
  obtain ⟨processed', handed'⟩ := handleResponse_of_circle
  have selecting : circleTaken.workers[0]? = some (.selecting circleResponse 0) := rfl
  obtain ⟨alone, deeds, -, -, -, same⟩ :=
    hands_on_same_data circleCrew Conduct.circle.playedDownloader circleResponse
      (circleRun .sequential) circleTaken q 0 own selecting works
  have from_start : (Sequential.handleResponse circleCrew circleResponse
      (circleRun .sequential)).2.core.journal.deeds = alone := deeds
  rw [from_start] at processed' handed'
  have shown : circleCarrier.takeRequests.2 ∈ own.filterMap Deed.handed? := by
    rw [handed]
    exact List.mem_cons_self
  have shown' : circleCarrier ∈ alone.filterMap Deed.handed? := by
    rw [handed']
    exact List.mem_cons_self
  obtain ⟨k, verdict, piped⟩ := Deed.exists_piped shown
  obtain ⟨k', verdict', piped'⟩ := Deed.exists_piped shown'
  obtain ⟨request, fields, -⟩ := same 0 0 circleCarrier (List.mem_of_getElem? processed')
    (List.mem_of_getElem? processed) k' k _ _ verdict' verdict piped' piped
  exact ⟨selecting, own, q, works, ⟨request, fields⟩, shown⟩

end Pool

end WebCrawl
