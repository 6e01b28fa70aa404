import WebCrawl.Proofs.Crawl.Outcome

/-!
# What the deeds tell of the components

A deed that tells of a call names the component by its place in the crew and keeps the answer. Here
the deeds are held against the components themselves: the world of the components goes from call to
call, and every call that was made and answered has its deed. If a panic cuts the work short, it is
the panic of one call more.
-/

namespace WebCrawl

def Deed.isCall : Deed → Bool
  | askedDownloader .. => true
  | downloaded .. => true
  | askedProcessor .. => true
  | processed .. => true
  | piped .. => true
  | closed .. => true
  | _ => false

namespace Crew

variable {σ : Type} {crew : Crew σ}

/-- A call of a component, and the deed that tells of its answer. -/
inductive Calling (crew : Crew σ) : {α : Type} → Act σ α → (α → Deed) → Prop where
  | asksDownloader {k : Nat} {d : Downloader σ} (r : Request)
      (enrolled : crew.downloaders[k]? = some d) :
      Calling crew (d.supports r) (.askedDownloader k r)
  | downloads {k : Nat} {d : Downloader σ} (r : Request)
      (enrolled : crew.downloaders[k]? = some d) : Calling crew (d.download r) (.downloaded k r)
  | asksProcessor {k : Nat} {p : Processor σ} (response : Response)
      (enrolled : crew.processors[k]? = some p) :
      Calling crew (p.supports response) (.askedProcessor k response)
  | processes {k : Nat} {p : Processor σ} (response : Response)
      (enrolled : crew.processors[k]? = some p) :
      Calling crew (p.process response) (.processed k response)
  | pipes {k : Nat} {p : Pipeline σ} (carrier : Carrier)
      (enrolled : crew.pipelines[k]? = some p) : Calling crew (p.process carrier) (.piped k carrier)
  | closesDownloader {k : Nat} {d : Downloader σ} (enrolled : crew.downloaders[k]? = some d) :
      Calling crew d.close fun _ => .closed .downloader k
  | closesPipeline {k : Nat} {p : Pipeline σ} (enrolled : crew.pipelines[k]? = some p) :
      Calling crew p.close fun _ => .closed .pipeline k

/-- From one world to the other the crew was called for what the deeds tell, and for nothing
else. -/
inductive Told (crew : Crew σ) : σ → List Deed → σ → Prop where
  | nil (w : σ) : Told crew w [] w
  | call {α : Type} {act : Act σ α} {deed : α → Deed} {a : α} {w w' : σ} {deeds : List Deed}
      (calling : crew.Calling act deed) (view : View)
      (answer : (act view w).outcome = .returned a)
      (rest : Told crew (act view w).world deeds w') : Told crew w (deed a :: deeds) w'
  | silent {d : Deed} {w w' : σ} {deeds : List Deed} (apart : d.isCall = false)
      (rest : Told crew w deeds w') : Told crew w (d :: deeds) w'

def Panics (crew : Crew σ) (message : String) (w w' : σ) : Prop :=
  ∃ (α : Type) (act : Act σ α) (deed : α → Deed) (view : View), crew.Calling act deed ∧
    (act view w).outcome = .panicked message ∧ (act view w).world = w'

/-- What is left to happen to the world once the deeds are told. -/
def Leaves {α : Type} (crew : Crew σ) : Except Panic α → σ → σ → Prop
  | .ok _, w, w' => w' = w
  | .error p, w, w' => crew.Panics p.message w w'

namespace Told

variable {w w' w'' : σ} {deeds deeds' : List Deed}

theorem append (h : crew.Told w deeds w') (h' : crew.Told w' deeds' w'') :
    crew.Told w (deeds ++ deeds') w'' := by
  induction h with
  | nil => exact h'
  | call calling view answer _ ih => exact .call calling view answer (ih h')
  | silent apart _ ih => exact .silent apart (ih h')

theorem of_silent (w : σ) (apart : deeds.countP Deed.isCall = 0) : crew.Told w deeds w := by
  induction deeds with
  | nil => exact .nil w
  | cons d deeds ih =>
    rw [countP_cons_toNat, Nat.add_eq_zero_iff, Bool.toNat_eq_zero] at apart
    exact .silent apart.2 (ih apart.1)

end Told

end Crew

namespace Working

variable {S σ α β : Type} {crew : Crew σ}

/-- Whether a panic cuts it short or not, the deeds of the work tell all of its calls. -/
def Honest (crew : Crew σ) (x : Working S σ α) : Prop :=
  ∀ run : Run S σ, ∃ deeds w,
    (x run).2.core.journal.deeds = run.core.journal.deeds ++ deeds ∧
    crew.Told run.world deeds w ∧ crew.Leaves (x run).1 w (x run).2.world

namespace Honest

theorem pure (a : α) : Honest crew (Pure.pure a : Working S σ α) :=
  fun run => ⟨[], run.world, (List.append_nil _).symm, .nil _, rfl⟩

theorem update {f : Core S → Core S} (told : Core S → List Deed)
    (deeds : ∀ c, (f c).journal.deeds = c.journal.deeds ++ told c)
    (apart : ∀ c, (told c).countP Deed.isCall = 0) :
    Honest crew (Working.update f : Working S σ Unit) :=
  fun run => ⟨told run.core, run.world, deeds run.core, .of_silent _ (apart run.core), rfl⟩

theorem update_of_same {f : Core S → Core S} (deeds : ∀ c, (f c).journal.deeds = c.journal.deeds) :
    Honest crew (Working.update f : Working S σ Unit) :=
  update (fun _ => []) (fun c => (deeds c).trans (List.append_nil _).symm) fun _ => rfl

theorem say (n : Note) : Honest crew (Working.say n : Working S σ Unit) :=
  update_of_same fun c => c.deeds_say n

theorem tally (count : Statistics → Statistics) :
    Honest crew (Working.tally count : Working S σ Unit) :=
  update_of_same fun _ => rfl

theorem enter {d : Deed} (apart : d.isCall = false) :
    Honest crew (Working.enter d : Working S σ Unit) :=
  update (fun _ => [d]) (fun c => c.deeds_enter d) fun _ => by
    rw [countP_cons_toNat, apart]
    rfl

theorem bind {x : Working S σ α} {k : α → Working S σ β} (hx : Honest crew x)
    (hk : ∀ a run run', x run = (.ok a, run') → Honest crew (k a)) : Honest crew (x >>= k) := by
  intro run
  obtain ⟨deeds, w, entered, told, left⟩ := hx run
  rcases ran : x run with ⟨result, next⟩
  rw [ran] at entered left
  cases result with
  | error p =>
    rw [bind_of_error ran]
    exact ⟨deeds, w, entered, told, left⟩
  | ok a =>
    cases left
    obtain ⟨deeds', w', entered', told', left'⟩ := hk a run next ran next
    rw [bind_of_ok ran]
    refine ⟨deeds ++ deeds', w', ?_, told.append told', left'⟩
    rw [entered', entered, List.append_assoc]

theorem andThen {x : Working S σ α} {k : α → Working S σ β} (hx : Honest crew x)
    (hk : ∀ a, Honest crew (k a)) : Honest crew (x >>= k) :=
  bind hx fun a _ _ _ => hk a

theorem call {act : Act σ α} {deed : α → Deed} {k : α → Working S σ β}
    (calling : crew.Calling act deed) (hk : ∀ a, Honest crew (k a)) :
    Honest crew (do
      let a ← perform act
      Working.enter (deed a)
      k a) := by
  intro run
  rcases answer : (act run.core.view run.world).outcome with a | message
  · have ran := perform_of_returned (Prod.ext ((run.outcome_perform act).trans answer) rfl)
    obtain ⟨deeds, w, entered, told, left⟩ :=
      hk a ((run.perform act).2.update (·.enter (deed a)))
    have noted : (Working.enter (deed a) : Working S σ Unit) (run.perform act).2 =
        (.ok (), (run.perform act).2.update (·.enter (deed a))) := rfl
    rw [bind_of_ok ran, bind_of_ok noted]
    refine ⟨deed a :: deeds, w, ?_, .call calling run.core.view answer told, left⟩
    rw [entered, Run.core_update, Core.deeds_enter, Run.deeds_perform, List.append_assoc,
      List.singleton_append]
  · have ran := perform_of_panicked (Prod.ext ((run.outcome_perform act).trans answer) rfl)
    rw [bind_of_error ran]
    refine ⟨[], run.world, ?_, .nil _, α, act, deed, run.core.view, calling, answer, rfl⟩
    rw [Run.deeds_perform, List.append_nil]

end Honest

theorem honest_closeOne {kind : ResourceKind} {index : Nat} {name : String}
    {close : Act σ (Except CloseError Unit)}
    (calling : crew.Calling close fun _ => .closed kind index) :
    Honest crew (closeOne kind index name close : Working S σ Unit) := by
  refine .call calling fun result => ?_
  cases result with
  | ok => exact .say _
  | error e => exact .say _

theorem honest_closeAll {rs : List (Resource σ)}
    (callings : ∀ r ∈ rs, crew.Calling r.close fun _ => .closed r.kind r.index) :
    Honest crew (closeAll rs : Working S σ Unit) := by
  induction rs with
  | nil => exact .pure ()
  | cons r rs ih =>
    obtain ⟨first, others⟩ := List.forall_mem_cons.mp callings
    exact .andThen (honest_closeOne first) fun _ => ih others

theorem honest_release : Honest crew (release crew : Working S σ Unit) := by
  rw [release_eq]
  exact honest_closeAll (Crew.forall_resources (fun _ _ => .closesDownloader)
    fun _ _ => .closesPipeline)

theorem honest_conclude : Honest crew (conclude crew : Working S σ Unit) := by
  refine .andThen (.update_of_same fun c => ?_) fun _ => .andThen (.say _) fun _ => ?_
  · split
    · rfl
    · exact Core.deeds_say _ _
  · exact .andThen honest_release fun _ => .say _

end Working

end WebCrawl
