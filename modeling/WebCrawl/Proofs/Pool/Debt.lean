import WebCrawl.Proofs.Pool.Step
import WebCrawl.Proofs.Site.Keeping

/-!
# What the workers of a pool owe

In a pool the debt that is not pending in the frontier is spread over the workers and the handoff
queue: each phase of a worker says which part of its request's marks is still to come. Every step
pays some of it or hands it on, so the books stay in order along every interleaving.
-/

namespace WebCrawl

/-- The members of a list owe so much together. -/
inductive Owed {α : Type} (owes : α → Multiset Mark → Prop) : List α → Multiset Mark → Prop where
  | nil : Owed owes [] 0
  | cons {a : α} {l : List α} {x D : Multiset Mark} (first : owes a x) (rest : Owed owes l D) :
      Owed owes (a :: l) (x + D)

namespace Owed

variable {α : Type} {owes : α → Multiset Mark → Prop} {l : List α} {D : Multiset Mark}

/-- One member can be looked at alone, and replaced by what owes something else. -/
theorem focus {i : Nat} {a : α} (h : Owed owes l D) (here : l[i]? = some a) :
    ∃ x rest, owes a x ∧ D = x + rest ∧
      ∀ c y, owes c y → Owed owes (l.set i c) (y + rest) := by
  induction h generalizing i with
  | nil => cases here
  | @cons a' l x D first rest ih =>
    cases i with
    | zero =>
      cases here
      exact ⟨x, D, first, rfl, fun c y hc => .cons hc rest⟩
    | succ i =>
      obtain ⟨y, others, howes, rfl, replace⟩ := ih here
      refine ⟨y, x + others, howes, add_left_comm x y others, ?_⟩
      intro c z hc
      rw [add_left_comm]
      exact .cons first (replace c z hc)

theorem map {f : α → α} (keeps : ∀ a x, owes a x → owes (f a) x) (h : Owed owes l D) :
    Owed owes (l.map f) D := by
  induction h with
  | nil => exact .nil
  | cons first rest ih => exact .cons (keeps _ _ first) ih

theorem append_one {a : α} {x : Multiset Mark} (h : Owed owes l D) (ha : owes a x) :
    Owed owes (l ++ [a]) (x + D) := by
  induction h with
  | nil => exact .cons ha .nil
  | @cons c l y D first rest ih =>
    rw [add_left_comm]
    exact .cons first ih

theorem eq_zero (h : Owed owes l D) (nothing : ∀ a ∈ l, ∀ x, owes a x → x = 0) : D = 0 := by
  induction h with
  | nil => rfl
  | cons first rest ih =>
    rw [nothing _ List.mem_cons_self _ first,
      ih fun a ha => nothing a (List.mem_cons_of_mem _ ha), add_zero]

theorem replicate {a : α} (ha : owes a 0) (n : Nat) : Owed owes (List.replicate n a) 0 := by
  induction n with
  | zero => exact .nil
  | succ n ih => exact .cons ha ih

end Owed

section phases

variable {σ : Type} (b : Conduct) (rd : Reading σ)

def Fetcher.rests : Fetcher → Bool
  | seeking | looking | asleep | woken | announcing | exited => true
  | _ => false

inductive Fetcher.Owes : Fetcher → Multiset Mark → Prop where
  | rests {f : Fetcher} (h : f.rests = true) : Owes f 0
  | starting (r : Request) : Owes (.starting r) (b.serving r.fingerprint)
  | downloading (r : Request) :
      Owes (.downloading r) (.fetched r.fingerprint ::ₘ b.reply r.fingerprint)
  | fetched (u : String) (response : Response) (answers : rd.answers u response)
      (status : response.status = b.status u) : Owes (.fetched response) (b.reply u)
  | counted (u : String) (response : Response) (answers : rd.answers u response) :
      Owes (.counted response) (.counted (.status response.status) ::ₘ b.handling u)
  | handing (u : String) (response : Response) (answers : rd.answers u response) :
      Owes (.handing response) (b.handling u)
  | failed (r : Request) (cause : DownloadError) :
      Owes (.failed r cause) (.counted .failed ::ₘ b.full r.fingerprint)
  | requeueing (r : Request) : Owes (.requeueing r) (b.full r.fingerprint)

inductive Response.Owes (response : Response) : Multiset Mark → Prop where
  | waits (u : String) (answers : rd.answers u response) : Owes response (b.handling u)

def Worker.rests : Worker → Bool
  | seeking | looking | asleep | woken | exited => true
  | _ => false

inductive Worker.Owes : Worker → Multiset Mark → Prop where
  | rests {w : Worker} (h : w.rests = true) : Owes w 0
  | selecting (u : String) (response : Response) (k : Nat) (answers : rd.answers u response)
      (reached : ∀ c, b.processor u = some c → k ≤ c) :
      Owes (.selecting response k) (b.handling u)
  | dropping (response : Response) :
      Owes (.dropping response) (.dropped ::ₘ {.counted .unprocessed})
  | processing (u : String) (response : Response) (k : Nat) (answers : rd.answers u response)
      (chosen : b.processor u = some k) : Owes (.processing response k) (b.handling u)
  | publishing (u : String) (c : Carrier) (tells : c.Tells b rd u) :
      Owes (.publishing c) (Conduct.offers (c.discovered.map Request.fingerprint) +
        (b.shows u 0 b.stages + Conduct.finishing))
  | piping (u : String) (c : Carrier) (k : Nat) (tells : c.Tells b rd u) :
      Owes (.piping c k) (b.shows u k (b.stages - k) + Conduct.finishing)
  | held (c : Carrier) : Owes (.held c) (.counted .shortCircuit ::ₘ Conduct.finishing)
  | finishing (c : Carrier) : Owes (.finishing c) Conduct.finishing

end phases

theorem Fetcher.Owes.wake {σ : Type} {b : Conduct} {rd : Reading σ} {f : Fetcher}
    {x : Multiset Mark} (h : f.Owes b rd x) : f.wake.Owes b rd x := by
  cases f with
  | asleep =>
    cases h
    exact .rests rfl
  | _ => exact h

theorem Worker.Owes.wake {σ : Type} {b : Conduct} {rd : Reading σ} {w : Worker}
    {x : Multiset Mark} (h : w.Owes b rd x) : w.wake.Owes b rd x := by
  cases w with
  | asleep =>
    cases h
    exact .rests rfl
  | _ => exact h

namespace Pool

variable {σ : Type} {b : Conduct} {rd : Reading σ} {seeds : List String}
  {p p' : Pool (Layered Queue) σ}

/-- The books of a pool are in order. -/
def Balanced (b : Conduct) (rd : Reading σ) (seeds : List String)
    (p : Pool (Layered Queue) σ) : Prop :=
  ∃ F H W, Owed (Fetcher.Owes b rd) p.fetchers F ∧ Owed (Response.Owes b rd) p.handoff H ∧
    Owed (Worker.Owes b rd) p.workers W ∧ InOrder b rd seeds p.run (F + (H + W))

namespace Balanced

theorem fetcher {i : Nat} {f : Fetcher} (h : Balanced b rd seeds p)
    (here : p.fetchers[i]? = some f) :
    ∃ x D, f.Owes b rd x ∧ InOrder b rd seeds p.run (x + D) ∧
      ∀ {p' g y}, Fetcher.Owes b rd g y → p'.fetchers = p.fetchers.set i g →
        p'.handoff = p.handoff → p'.workers = p.workers →
          InOrder b rd seeds p'.run (y + D) → Balanced b rd seeds p' := by
  obtain ⟨F, H, W, hF, hH, hW, ledger⟩ := h
  obtain ⟨x, rest, owes, rfl, replace⟩ := hF.focus here
  refine ⟨x, rest + (H + W), owes, add_assoc x rest _ ▸ ledger, ?_⟩
  intro p' g y owes' fetchers handoff workers ledger'
  refine ⟨y + rest, H, W, fetchers ▸ replace g y owes', handoff ▸ hH, workers ▸ hW, ?_⟩
  rwa [add_assoc]

theorem worker {i : Nat} {w : Worker} (h : Balanced b rd seeds p)
    (here : p.workers[i]? = some w) :
    ∃ x D, w.Owes b rd x ∧ InOrder b rd seeds p.run (x + D) ∧
      ∀ {p' v y}, Worker.Owes b rd v y → p'.workers = p.workers.set i v →
        p'.handoff = p.handoff →
        (p'.fetchers = p.fetchers ∨ p'.fetchers = p.fetchers.map Fetcher.wake) →
          InOrder b rd seeds p'.run (y + D) → Balanced b rd seeds p' := by
  obtain ⟨F, H, W, hF, hH, hW, ledger⟩ := h
  obtain ⟨x, rest, owes, rfl, replace⟩ := hW.focus here
  have debt : F + (H + (x + rest)) = x + (F + (H + rest)) := by abel
  refine ⟨x, F + (H + rest), owes, debt ▸ ledger, ?_⟩
  intro p' v y owes' workers handoff fetchers ledger'
  have debt' : F + (H + (y + rest)) = y + (F + (H + rest)) := by abel
  refine ⟨F, H, y + rest, ?_, handoff ▸ hH, workers ▸ replace v y owes', debt' ▸ ledger'⟩
  rcases fetchers with same | woken
  · exact same ▸ hF
  · exact woken ▸ hF.map fun _ _ => Fetcher.Owes.wake

end Balanced

variable {crew : Crew σ} {d : Downloader σ}

theorem Balanced.stir_fetcher {i : Nat} (h : Balanced b rd seeds p)
    (here : p.fetchers[i]? = some .asleep) :
    Balanced b rd seeds { p with fetchers := p.fetchers.set i .woken } := by
  obtain ⟨x, D, owes, ledger, change⟩ := h.fetcher here
  cases owes
  exact change (.rests rfl) rfl rfl rfl ledger

theorem balanced_of_fetcherStep {i wakes : Nat} {f : Fetcher}
    (fetches : ∀ r, d.Fetches b rd r) (supported : ∀ u, (b.downloader u).isSome = true)
    (h : Balanced b rd seeds p) (here : p.fetchers[i]? = some f)
    (step : FetcherStep d p i wakes f p') : Balanced b rd seeds p' := by
  obtain ⟨x, D, owes, ledger, change⟩ := h.fetcher here
  cases step with
  | leaves =>
    cases owes
    exact change (.rests rfl) rfl rfl rfl (ledger.say _)
  | looks =>
    cases owes
    exact change (.rests rfl) rfl rfl rfl ledger
  | resumesAndLeaves =>
    cases owes
    exact change (.rests rfl) rfl rfl rfl ((ledger.say _).say _)
  | resumes =>
    cases owes
    exact change (.rests rfl) rfl rfl rfl (ledger.say _)
  | takes r s found =>
    cases owes
    rw [zero_add] at ledger
    exact change (.starting r) rfl rfl rfl (ledger.poll found)
  | parks s dry =>
    cases owes
    exact change (.rests rfl) rfl rfl rfl ((ledger.poll_dry dry).1.say _)
  | starts r =>
    cases owes with
    | rests h => cases h
    | starting =>
      rw [Conduct.serving_of_supported (supported _), Multiset.cons_add] at ledger
      exact change (.downloading r) rfl rfl rfl (ledger.say _).tally
  | answers r response ok =>
    cases owes with
    | rests h => cases h
    | downloading =>
      rw [Multiset.cons_add] at ledger
      rcases ledger.download 0 (fetches r) (supported _) with
          ⟨cause, outcome, -⟩ | ⟨_, outcome, answers, status, fetched⟩
      · cases ok.symm.trans outcome
      · cases ok.symm.trans outcome
        exact change (.fetched _ response answers status) rfl rfl rfl fetched
  | fails r cause error =>
    cases owes with
    | rests h => cases h
    | downloading =>
      rw [Multiset.cons_add] at ledger
      rcases ledger.download 0 (fetches r) (supported _) with
          ⟨_, outcome, failed⟩ | ⟨response, outcome, -⟩
      · cases error.symm.trans outcome
        rw [← Multiset.cons_add] at failed
        exact change (.failed r cause) rfl rfl rfl failed
      · cases error.symm.trans outcome
  | panics r message panicked =>
    cases owes with
    | rests h => cases h
    | downloading =>
      rw [Multiset.cons_add] at ledger
      rcases ledger.download 0 (fetches r) (supported _) with
          ⟨cause, outcome, -⟩ | ⟨response, outcome, -⟩
      · cases panicked.symm.trans outcome
      · cases panicked.symm.trans outcome
  | countsSuccess response =>
    cases owes with
    | rests h => cases h
    | fetched u _ answers status =>
      rw [Conduct.reply, Multiset.cons_add, ← status] at ledger
      exact change (.counted u response answers) rfl rfl rfl ledger.tally
  | countsStatus response =>
    cases owes with
    | rests h => cases h
    | counted u _ answers =>
      rw [Multiset.cons_add] at ledger
      exact change (.handing u response answers) rfl rfl rfl (ledger.tally.say _)
  | handsOff response free =>
    obtain ⟨F, H, W, hF, hH, hW, ledger⟩ := h
    obtain ⟨x, rest, owes, rfl, replace⟩ := hF.focus here
    cases owes with
    | rests h => cases h
    | handing u _ answers =>
      -- The debt goes into the queue with the response, and the fetcher is left with none.
      have debt : b.handling u + rest + (H + W) =
          0 + rest + (b.handling u + H + W) := by abel
      rw [debt] at ledger
      exact ⟨_, _, W, replace .announcing 0 (.rests rfl), hH.append_one (.waits u answers), hW,
        ledger.enter_silent rfl⟩
  | announces =>
    obtain ⟨F, H, W, hF, hH, hW, ledger⟩ := h
    obtain ⟨x, rest, owes, rfl, replace⟩ := hF.focus here
    cases owes
    exact ⟨_, H, W, replace .seeking 0 (.rests rfl), hH, hW.map fun _ _ => Worker.Owes.wake,
      ledger⟩
  | countsFailure r cause =>
    cases owes with
    | rests h => cases h
    | failed =>
      rw [Multiset.cons_add] at ledger
      exact change (.requeueing r) rfl rfl rfl (ledger.say _).tally
  | requeues r free nobody =>
    cases owes with
    | rests h => cases h
    | requeueing =>
      rw [← zero_add D] at ledger
      exact change (.rests rfl) rfl rfl rfl ledger.requeue
  | requeuesAndWakes r free sleeper =>
    cases owes with
    | rests h => cases h
    | requeueing =>
      rw [← zero_add D] at ledger
      have requeued : Balanced b rd seeds
          { p with
            run := p.run.update (·.requeue r)
            fetchers := p.fetchers.set i .seeking } :=
        change (.rests rfl) rfl rfl rfl ledger.requeue
      exact requeued.stir_fetcher sleeper
  | dies =>
    cases owes with
    | rests h => cases h

theorem balanced_of_workerStep {i : Nat} {w : Worker} (follows : crew.Follows b rd)
    (stripped : ∀ u c, rd.yields u c → rd.yields u c.takeRequests.2)
    (h : Balanced b rd seeds p) (here : p.workers[i]? = some w)
    (step : WorkerStep crew p i w p') : Balanced b rd seeds p' := by
  obtain ⟨x, D, owes, ledger, change⟩ := h.worker here
  cases step with
  | leaves =>
    cases owes
    exact change (.rests rfl) rfl rfl (.inl rfl) (ledger.say _)
  | looks =>
    cases owes
    exact change (.rests rfl) rfl rfl (.inl rfl) ledger
  | resumesAndLeaves =>
    cases owes
    exact change (.rests rfl) rfl rfl (.inl rfl) ((ledger.say _).say _)
  | resumes =>
    cases owes
    exact change (.rests rfl) rfl rfl (.inl rfl) (ledger.say _)
  | takes response rest found =>
    obtain ⟨F, H, W, hF, hH, hW, ledger⟩ := h
    obtain ⟨x, others, owes, rfl, replace⟩ := hW.focus here
    rw [found] at hH
    cases owes
    cases hH with
    | @cons _ _ y H first waiting =>
      obtain ⟨u, answers⟩ := first
      have debt : F + (b.handling u + H + (0 + others)) =
          F + (H + (b.handling u + others)) := by abel
      rw [debt] at ledger
      exact ⟨F, H, _, hF, waiting,
        replace (.selecting response 0) _
          (.selecting u response 0 answers fun _ _ => Nat.zero_le _),
        (ledger.enter_silent rfl).say _⟩
  | parks dry =>
    cases owes
    exact change (.rests rfl) rfl rfl (.inl rfl) (ledger.say _)
  | findsNone response k none =>
    cases owes with
    | rests h => cases h
    | selecting u _ _ answers reached =>
      have unwanted : b.processor u = Option.none := by
        cases chosen : b.processor u with
        | none => rfl
        | some c =>
          have hc := follows.processor_lt u c chosen
          have hk := List.getElem?_eq_none_iff.mp none
          have := reached c chosen
          omega
      rw [Conduct.handling_of_dropped unwanted] at ledger
      exact change (.dropping response) rfl rfl (.inl rfl) (ledger.say _)
  | selects response k processor asked yes =>
    cases owes with
    | rests h => cases h
    | selecting u _ _ answers reached =>
      obtain ⟨verdict, outcome, chosen, ledger⟩ :=
        ledger.perform (follows.processor_supports u response k processor answers asked reached)
      cases yes.symm.trans outcome
      exact change (.processing u response k answers (of_decide_eq_true chosen.symm)) rfl rfl
        (.inl rfl) (ledger.enter_silent rfl)
  | passesOver response k processor asked no =>
    cases owes with
    | rests h => cases h
    | selecting u _ _ answers reached =>
      obtain ⟨verdict, outcome, chosen, ledger⟩ :=
        ledger.perform (follows.processor_supports u response k processor answers asked reached)
      cases no.symm.trans outcome
      have passed : ∀ c, b.processor u = some c → k + 1 ≤ c := by
        intro c hc
        have ne : c ≠ k := fun same => of_decide_eq_false chosen.symm (same ▸ hc)
        have := reached c hc
        omega
      exact change (.selecting u response (k + 1) answers passed) rfl rfl (.inl rfl)
        (ledger.enter_silent rfl)
  | panicsSelecting response k processor message asked panicked =>
    cases owes with
    | rests h => cases h
    | selecting u _ _ answers reached =>
      obtain ⟨verdict, outcome, -⟩ :=
        ledger.perform (follows.processor_supports u response k processor answers asked reached)
      cases panicked.symm.trans outcome
  | drops response =>
    cases owes with
    | rests h => cases h
    | dropping =>
      rw [Multiset.cons_add, Multiset.singleton_add, ← zero_add D] at ledger
      exact change (.rests rfl) rfl rfl (.inl rfl) (ledger.enter rfl rfl rfl).tally
  | processes response k processor carrier asked done =>
    cases owes with
    | rests h => cases h
    | processing u _ _ answers chosen =>
      obtain ⟨c, outcome, ⟨tells, links⟩, ledger⟩ :=
        ledger.perform (follows.processes u response k processor answers asked chosen)
      cases done.symm.trans outcome
      have wanted : (b.processor u).isSome = true := by rw [chosen]; rfl
      have mark : (Deed.processed k response carrier).mark? =
          some (.page (b.subject u) (b.fields u)) := by
        rw [Deed.mark?, tells.subject, tells.fields]
      rw [Conduct.handling_of_processed wanted, Multiset.cons_add, ← links] at ledger
      exact change (.publishing u carrier tells) rfl rfl (.inl rfl) (ledger.enter mark rfl rfl)
  | panicsProcessing response k processor message asked panicked =>
    cases owes with
    | rests h => cases h
    | processing u _ _ answers chosen =>
      obtain ⟨c, outcome, -⟩ :=
        ledger.perform (follows.processes u response k processor answers asked chosen)
      cases panicked.symm.trans outcome
  | publishes carrier free =>
    cases owes with
    | rests h => cases h
    | publishing u _ tells =>
      have bare : carrier.takeRequests.2.Tells b rd u :=
        ⟨stripped u carrier tells.yields, tells.subject, tells.fields⟩
      rw [add_assoc] at ledger
      refine change (.piping u _ 0 bare) rfl rfl ?_ (ledger.pushDiscovered.say _)
      split
      · exact .inl rfl
      · exact .inr rfl
  | reachesEnd carrier k none =>
    cases owes with
    | rests h => cases h
    | piping u _ _ tells =>
      have none_left : b.stages - k = 0 := by
        have := List.getElem?_eq_none_iff.mp none
        have := follows.stages
        omega
      rw [none_left, Conduct.shows, zero_add] at ledger
      exact change (.finishing carrier) rfl rfl (.inl rfl) ledger
  | passesOn carrier k pipeline next yes =>
    cases owes with
    | rests h => cases h
    | piping u _ _ tells =>
      have hk : k < b.stages := follows.stages ▸ (List.getElem?_eq_some_iff.mp next).1
      obtain ⟨verdict, outcome, passes, shown⟩ := (ledger.say _).perform
        (follows.pipes u carrier k pipeline tells.yields next)
      cases yes.symm.trans outcome
      have mark : (Deed.piped k carrier true).mark? = some (.shown k (b.subject u) true) := by
        rw [Deed.mark?, tells.subject]
      rw [Conduct.shows_of_lt u hk, ← passes, if_pos rfl, Multiset.cons_add,
        Multiset.cons_add] at shown
      exact change (.piping u carrier (k + 1) tells) rfl rfl (.inl rfl)
        (shown.enter mark rfl rfl)
  | holdsBack carrier k pipeline next no =>
    cases owes with
    | rests h => cases h
    | piping u _ _ tells =>
      have hk : k < b.stages := follows.stages ▸ (List.getElem?_eq_some_iff.mp next).1
      obtain ⟨verdict, outcome, passes, shown⟩ := (ledger.say _).perform
        (follows.pipes u carrier k pipeline tells.yields next)
      cases no.symm.trans outcome
      have mark : (Deed.piped k carrier false).mark? = some (.shown k (b.subject u) false) := by
        rw [Deed.mark?, tells.subject]
      rw [Conduct.shows_of_lt u hk, ← passes, if_neg Bool.false_ne_true, Multiset.cons_add,
        Multiset.cons_add, Multiset.singleton_add] at shown
      exact change (.held carrier) rfl rfl (.inl rfl) ((shown.enter mark rfl rfl).say _)
  | panicsPiping carrier k pipeline message next panicked =>
    cases owes with
    | rests h => cases h
    | piping u _ _ tells =>
      obtain ⟨verdict, outcome, -⟩ := (ledger.say _).perform
        (follows.pipes u carrier k pipeline tells.yields next)
      cases panicked.symm.trans outcome
  | countsStop carrier =>
    cases owes with
    | rests h => cases h
    | held =>
      rw [Multiset.cons_add] at ledger
      exact change (.finishing carrier) rfl rfl (.inl rfl) ledger.tally
  | finishes carrier =>
    cases owes with
    | rests h => cases h
    | finishing =>
      rw [Conduct.finishing, Multiset.insert_eq_cons, Multiset.cons_add, Multiset.singleton_add,
        ← zero_add D] at ledger
      exact change (.rests rfl) rfl rfl (.inl rfl) (ledger.enter rfl rfl rfl).tally
  | dies =>
    cases owes with
    | rests h => cases h

theorem balanced_of_controlStep {c : Control} (h : Balanced b rd seeds p)
    (step : ControlStep p c p') : Balanced b rd seeds p' := by
  obtain ⟨F, H, W, hF, hH, hW, ledger⟩ := h
  cases step with
  | cancels => exact ⟨F, H, W, hF, hH, hW, ledger.say _⟩
  | wakesFetchers => exact ⟨F, H, W, hF.map fun _ _ => Fetcher.Owes.wake, hH, hW, ledger⟩
  | wakesProcessors => exact ⟨F, H, W, hF, hH, hW.map fun _ _ => Worker.Owes.wake, ledger⟩
  | joinsFetcher => exact ⟨F, H, W, hF, hH, hW, ledger.say _⟩
  | joinedFetchers => exact ⟨F, H, W, hF, hH, hW, ledger⟩
  | joinsWorker => exact ⟨F, H, W, hF, hH, hW, ledger.say _⟩
  | joinedWorkers => exact ⟨F, H, W, hF, hH, hW, ledger⟩

/-- The books of a pool stay in order, whatever it does. -/
theorem balanced_of_step {m : Move} (follows : crew.Follows b rd)
    (fetches : ∀ r, d.Fetches b rd r) (supported : ∀ u, (b.downloader u).isSome = true)
    (stripped : ∀ u c, rd.yields u c → rd.yields u c.takeRequests.2)
    (h : Balanced b rd seeds p) (step : Step crew d p m p') : Balanced b rd seeds p' := by
  cases step with
  | fetch i wakes f _ here step => exact balanced_of_fetcherStep fetches supported h here step
  | process i w _ here step => exact balanced_of_workerStep follows stripped h here step
  | stirsFetcher i here => exact h.stir_fetcher here
  | stirsWorker i here =>
    obtain ⟨x, D, owes, ledger, change⟩ := h.worker here
    cases owes
    exact change (.rests rfl) rfl rfl (.inl rfl) ledger
  | stops =>
    obtain ⟨F, H, W, hF, hH, hW, ledger⟩ := h
    exact ⟨F, H, W, hF, hH, hW, ledger.of_same rfl (Core.deeds_say _ _) rfl rfl⟩
  | goesOn =>
    obtain ⟨F, H, W, hF, hH, hW, ledger⟩ := h
    exact ⟨F, H, W, hF, hH, hW, ledger.say _⟩
  | ends =>
    obtain ⟨F, H, W, hF, hH, hW, ledger⟩ := h
    exact ⟨F, H, W, hF, hH, hW, (ledger.say _).say _⟩
  | proceed _ step => exact balanced_of_controlStep h step

theorem balanced_ofRun {run : Run (Layered Queue) σ} (sizes : PoolSizes)
    (h : InOrder b rd seeds run 0) : Balanced b rd seeds (ofRun run sizes) :=
  ⟨0, 0, 0, .replicate (.rests rfl) _, .nil, .replicate (.rests rfl) _, h⟩

end Pool

end WebCrawl
