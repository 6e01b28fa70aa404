import WebCrawl.Proofs.Crawl.Events
import WebCrawl.Proofs.Pool.Step

/-!
# What a pool enters into its journal

A pool only continues its journal. A request is polled by a fetcher that looks for work, a response
is taken by a process worker that does, one at a time in both cases, and as long as the pool is at
work no resource is closed.
-/

namespace WebCrawl

namespace Deed

/-- A response that was taken out of the handoff queue. -/
def isTake : Deed → Bool
  | taken _ => true
  | _ => false

def isClosing : Deed → Bool
  | closed .. => true
  | _ => false

end Deed

namespace Pool

variable {S σ : Type}

/-- The journal was continued with no more polls and takes than these, and nothing was closed. -/
def Entered (polls takes : Nat) (p p' : Pool S σ) : Prop :=
  ∃ since, p'.run.core.journal.deeds = p.run.core.journal.deeds ++ since ∧
    since.countP Deed.isPoll ≤ polls ∧ since.countP Deed.isTake ≤ takes ∧
    since.countP Deed.isClosing = 0

namespace Entered

variable {polls takes polls' takes' : Nat} {p p' p'' : Pool S σ}

theorem none (same : p'.run.core.journal.deeds = p.run.core.journal.deeds) :
    Entered polls takes p p' :=
  ⟨[], same.trans (List.append_nil _).symm, Nat.zero_le polls, Nat.zero_le takes, rfl⟩

theorem one (d : Deed) (deeds : p'.run.core.journal.deeds = p.run.core.journal.deeds ++ [d])
    (stays_open : d.isClosing = false) : Entered d.isPoll.toNat d.isTake.toNat p p' := by
  refine ⟨[d], deeds, ?_, ?_, ?_⟩
  · rw [countP_cons_toNat, List.countP_nil, Nat.zero_add]
  · rw [countP_cons_toNat, List.countP_nil, Nat.zero_add]
  · rw [countP_cons_toNat, List.countP_nil, stays_open, Bool.toNat_false]

theorem trans (h : Entered polls takes p p') (h' : Entered polls' takes' p' p'') :
    Entered (polls + polls') (takes + takes') p p'' := by
  obtain ⟨since, deeds, few, fewer, opened⟩ := h
  obtain ⟨since', deeds', few', fewer', opened'⟩ := h'
  refine ⟨since ++ since', by rw [deeds', deeds, List.append_assoc], ?_, ?_, ?_⟩
  · rw [List.countP_append]
    exact Nat.add_le_add few few'
  · rw [List.countP_append]
    exact Nat.add_le_add fewer fewer'
  · rw [List.countP_append, opened, opened']

end Entered

variable [Frontier S] {crew : Crew σ} {d : Downloader σ} {p p' : Pool S σ}

omit [Frontier S] in
theorem Entered.offers {rs : List Request} {as : List Admission}
    (deeds : p'.run.core.journal.deeds =
      p.run.core.journal.deeds ++ (Event.offers rs as).filterMap Event.deed?) :
    Entered 0 0 p p' := by
  refine ⟨_, deeds, ?_, ?_, ?_⟩
  · rw [Event.countP_deeds_offers fun _ _ => rfl]
  · rw [Event.countP_deeds_offers fun _ _ => rfl]
  · rw [Event.countP_deeds_offers fun _ _ => rfl]

theorem entered_of_fetcherStep {i wakes : Nat} {f : Fetcher}
    (step : FetcherStep d p i wakes f p') : Entered f.isLooking.toNat 0 p p' := by
  cases step with
  | takes r s found => exact .one (.polled r) (by simp) rfl
  | answers r response ok => exact .one (.downloaded 0 r (.ok response)) (by simp) rfl
  | fails r cause error => exact .one (.downloaded 0 r (.error cause)) (by simp) rfl
  | panics r message panicked => exact .one (.lost r) (by simp) rfl
  | handsOff response free => exact .one (.handedOff response) (by simp) rfl
  | requeues r => exact .one (.requeued r _) (Core.deeds_requeue _ r) rfl
  | requeuesAndWakes r => exact .one (.requeued r _) (Core.deeds_requeue _ r) rfl
  | _ => exact .none (by simp)

theorem entered_of_workerStep {i : Nat} {w : Worker} (step : WorkerStep crew p i w p') :
    Entered 0 w.isLooking.toNat p p' := by
  cases step with
  | takes response rest found => exact .one (.taken response) (by simp) rfl
  | selects response k => exact .one (.askedProcessor k response true) (by simp) rfl
  | passesOver response k => exact .one (.askedProcessor k response false) (by simp) rfl
  | panicsSelecting response => exact .one (.lost response.request) (by simp) rfl
  | drops response => exact .one (.dropped response) (by simp) rfl
  | processes response k _ carrier => exact .one (.processed k response carrier) (by simp) rfl
  | panicsProcessing response => exact .one (.lost response.request) (by simp) rfl
  | publishes carrier =>
    have pushed := (Elapsed.pushDiscovered p.run.core carrier.discovered).deeds
    exact .offers ((Core.deeds_say _ _).trans pushed)
  | passesOn carrier k => exact .one (.piped k carrier true) (by simp) rfl
  | holdsBack carrier k => exact .one (.piped k carrier false) (by simp) rfl
  | panicsPiping carrier => exact .one (.lost carrier.request) (by simp) rfl
  | finishes carrier => exact .one (.completed carrier) (by simp) rfl
  | _ => exact .none (by simp)

omit [Frontier S] in
theorem entered_of_controlStep {c : Control} (step : ControlStep p c p') : Entered 0 0 p p' := by
  cases step <;> exact .none (by simp)

theorem entered_of_step {m : Move} (step : Step crew d p m p') :
    ∃ polls takes, Entered polls takes p p' := by
  cases step with
  | fetch i wakes f _ here step => exact ⟨_, _, entered_of_fetcherStep step⟩
  | process i w _ here step => exact ⟨_, _, entered_of_workerStep step⟩
  | proceed _ step => exact ⟨_, _, entered_of_controlStep step⟩
  | _ => exact ⟨0, 0, .none (by simp)⟩

theorem entered_of_advanceAll {moves : List Move} (h : p.advanceAll crew d moves = some p') :
    ∃ polls takes, Entered polls takes p p' := by
  refine invariant_of_step (I := fun q => ∃ polls takes, Entered polls takes p q) ?_ ?_ h
  · rintro q m q' ⟨polls, takes, entered⟩ step
    obtain ⟨polls', takes', next⟩ := entered_of_step step
    exact ⟨_, _, entered.trans next⟩
  · exact ⟨0, 0, .none rfl⟩

end Pool

end WebCrawl
