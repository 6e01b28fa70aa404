import WebCrawl.Proofs.Frontier.Lawful
import WebCrawl.Proofs.Pool.Step

/-!
# Parked workers and quiescence

The counter of parked workers is compared with the phases of the workers: it counts those inside the
wait for their condition and those whose panic has been unwound. From this follows what a sample
that finds everybody parked means. All workers are idle then, nothing is pending, and no worker ever
finds anything to do again, whoever wakes up and in whatever order.
-/

namespace WebCrawl

namespace Fetcher

/-- Inside the wait: asleep, or woken and still without the lock. -/
def waits : Fetcher → Bool
  | asleep | woken => true
  | _ => false

def isDead : Fetcher → Bool
  | dead => true
  | _ => false

def isCounted : Fetcher → Bool
  | asleep | woken | dead => true
  | _ => false

/-- Has a request or a response in hand. -/
def holds : Fetcher → Bool
  | starting _ | downloading _ | fetched _ | counted _ => true
  | handing _ | failed .. | requeueing _ => true
  | _ => false

/-- Has nothing in hand and will have nothing unless it finds something. -/
def isIdle : Fetcher → Bool
  | asleep | woken | looking | exited | dead => true
  | _ => false

@[simp] theorem isCounted_wake (f : Fetcher) : f.wake.isCounted = f.isCounted := by
  cases f <;> rfl

@[simp] theorem isIdle_wake (f : Fetcher) : f.wake.isIdle = f.isIdle := by
  cases f <;> rfl

theorem isCounted_eq (f : Fetcher) : f.isCounted = (f.waits || f.isDead) := by
  cases f <;> rfl

theorem isIdle_of_isCounted {f : Fetcher} (h : f.isCounted = true) : f.isIdle = true := by
  cases f <;> first | rfl | cases h

theorem holds_of_isIdle {f : Fetcher} (h : f.isIdle = true) : f.holds = false := by
  cases f <;> first | rfl | cases h

end Fetcher

namespace Worker

def waits : Worker → Bool
  | asleep | woken => true
  | _ => false

def isDead : Worker → Bool
  | dead => true
  | _ => false

def isCounted : Worker → Bool
  | asleep | woken | dead => true
  | _ => false

def holds : Worker → Bool
  | selecting .. | dropping _ | processing .. | publishing _ => true
  | piping .. | held _ | finishing _ => true
  | _ => false

def isIdle : Worker → Bool
  | asleep | woken | looking | exited | dead => true
  | _ => false

@[simp] theorem isCounted_wake (w : Worker) : w.wake.isCounted = w.isCounted := by
  cases w <;> rfl

@[simp] theorem isIdle_wake (w : Worker) : w.wake.isIdle = w.isIdle := by
  cases w <;> rfl

theorem isCounted_eq (w : Worker) : w.isCounted = (w.waits || w.isDead) := by
  cases w <;> rfl

theorem isIdle_of_isCounted {w : Worker} (h : w.isCounted = true) : w.isIdle = true := by
  cases w <;> first | rfl | cases h

theorem holds_of_isIdle {w : Worker} (h : w.isIdle = true) : w.holds = false := by
  cases w <;> first | rfl | cases h

end Worker

theorem toNat_le_countP {α : Type} (q : α → Bool) {l : List α} {i : Nat} {a : α}
    (h : l[i]? = some a) : (q a).toNat ≤ l.countP q := by
  cases hq : q a with
  | false => exact Nat.zero_le _
  | true => exact List.countP_pos_iff.mpr ⟨a, List.mem_of_getElem? h, hq⟩

theorem countP_set_eq {α : Type} (q : α → Bool) {l : List α} {i : Nat} {a : α} (b : α)
    (h : l[i]? = some a) :
    (l.set i b).countP q = l.countP q - (q a).toNat + (q b).toNat := by
  obtain ⟨hi, ha⟩ := List.getElem?_eq_some_iff.mp h
  rw [List.countP_set hi, ha]
  cases q a <;> cases q b <;> rfl

theorem countP_or_of_disjoint {α : Type} {q r : α → Bool} (h : ∀ a, (q a && r a) = false)
    (l : List α) : l.countP (fun a => q a || r a) = l.countP q + l.countP r := by
  induction l with
  | nil => rfl
  | cons a l ih =>
    have ha := h a
    simp only [List.countP_cons, ih]
    cases hq : q a <;> cases hr : r a <;> simp_all <;> omega

theorem countP_map_of_same {α : Type} {q : α → Bool} {wake : α → α}
    (h : ∀ a, q (wake a) = q a) (l : List α) : (l.map wake).countP q = l.countP q := by
  rw [List.countP_map]
  exact congrArg (l.countP ·) (funext h)

theorem countP_map_of_none {α : Type} {q : α → Bool} {wake : α → α}
    (h : ∀ a, q (wake a) = false) (l : List α) : (l.map wake).countP q = 0 := by
  rw [List.countP_map]
  exact List.countP_eq_zero.mpr fun a _ => by simp [h a]

namespace Pool

variable {S σ : Type}

/-- The counter is exact. -/
def Parked (p : Pool S σ) : Prop :=
  p.parked = p.fetchers.countP Fetcher.isCounted + p.workers.countP Worker.isCounted

/-- Nobody has anything in hand and there is nothing to find. -/
structure Idle [Frontier S] (p : Pool S σ) : Prop where
  fetchers : ∀ f ∈ p.fetchers, f.isIdle = true
  workers : ∀ w ∈ p.workers, w.isIdle = true
  frontier : Frontier.size p.run.core.frontier = 0
  handoff : p.handoff = []

/-- What a pool has done and counted so far, and where that has left the components. -/
def SameWork (p q : Pool S σ) : Prop :=
  q.run.core.journal.deeds = p.run.core.journal.deeds ∧ q.run.core.stats = p.run.core.stats ∧
    q.run.world = p.run.world

/-- Whether a move is a call of the downloader, of a processor or of a pipeline. -/
def calls (crew : Crew σ) (p : Pool S σ) : Move → Bool
  | .fetch i _ =>
    match p.fetchers[i]? with
    | some (.downloading _) => true
    | _ => false
  | .process i =>
    match p.workers[i]? with
    | some (.selecting _ k) => decide (k < crew.processors.length)
    | some (.processing ..) => true
    | some (.piping _ k) => decide (k < crew.pipelines.length)
    | _ => false
  | _ => false

theorem SameWork.refl (p : Pool S σ) : SameWork p p := ⟨rfl, rfl, rfl⟩

theorem SameWork.trans {p q r : Pool S σ} (h : SameWork p q) (h' : SameWork q r) :
    SameWork p r :=
  ⟨h'.1.trans h.1, h'.2.1.trans h.2.1, h'.2.2.trans h.2.2⟩

theorem parked_ofRun (run : Run S σ) (sizes : PoolSizes) : Parked (ofRun run sizes) := by
  simp [Parked, ofRun, List.countP_replicate, Fetcher.isCounted, Worker.isCounted]

theorem size_ofRun (run : Run S σ) (sizes : PoolSizes) :
    (ofRun run sizes).size = sizes.fetchers.toNat + sizes.processors.toNat := by
  simp [size, ofRun]

theorem Parked.le_size {p : Pool S σ} (hp : Parked p) : p.parked ≤ p.size := by
  have hf : p.fetchers.countP Fetcher.isCounted ≤ p.fetchers.length := List.countP_le_length
  have hw : p.workers.countP Worker.isCounted ≤ p.workers.length := List.countP_le_length
  unfold Parked at hp
  unfold size
  omega

theorem Parked.all_counted {p : Pool S σ} (hp : Parked p) (hall : p.parked = p.size) :
    (∀ f ∈ p.fetchers, f.isCounted = true) ∧ ∀ w ∈ p.workers, w.isCounted = true := by
  have hf : p.fetchers.countP Fetcher.isCounted ≤ p.fetchers.length := List.countP_le_length
  have hw : p.workers.countP Worker.isCounted ≤ p.workers.length := List.countP_le_length
  unfold Parked at hp
  unfold size at hall
  exact ⟨List.countP_eq_length.mp (by omega), List.countP_eq_length.mp (by omega)⟩

variable [Frontier S] {crew : Crew σ} {d : Downloader σ} {p p' : Pool S σ}

theorem parked_of_fetcherStep {i wakes : Nat} {f : Fetcher} (hp : Parked p)
    (here : p.fetchers[i]? = some f) (step : FetcherStep d p i wakes f p') : Parked p' := by
  have part := toNat_le_countP Fetcher.isCounted here
  unfold Parked at hp ⊢
  cases step with
  | announces =>
    simp only [countP_map_of_same Worker.isCounted_wake, countP_set_eq _ _ here,
      Fetcher.isCounted, Bool.toNat_false]
    omega
  | requeuesAndWakes r free sleeper =>
    have same := toNat_le_countP Fetcher.isCounted sleeper
    simp only [countP_set_eq _ _ sleeper, countP_set_eq _ _ here, Fetcher.isCounted,
      Bool.toNat_false, Bool.toNat_true] at same ⊢
    omega
  | _ =>
    simp only [countP_set_eq _ _ here, Fetcher.isCounted, Bool.toNat_false,
      Bool.toNat_true] at part ⊢
    omega

theorem parked_of_workerStep {i : Nat} {w : Worker} (hp : Parked p)
    (here : p.workers[i]? = some w) (step : WorkerStep crew p i w p') : Parked p' := by
  have part := toNat_le_countP Worker.isCounted here
  unfold Parked at hp ⊢
  cases step with
  | publishes carrier =>
    have awake : (if (p.run.core.pushDiscovered carrier.discovered).1 = 0 then p.fetchers
        else p.fetchers.map Fetcher.wake).countP Fetcher.isCounted =
          p.fetchers.countP Fetcher.isCounted := by
      split
      · rfl
      · exact countP_map_of_same Fetcher.isCounted_wake p.fetchers
    simp only [awake, countP_set_eq _ _ here, Worker.isCounted, Bool.toNat_false]
    omega
  | _ =>
    simp only [countP_set_eq _ _ here, Worker.isCounted, Bool.toNat_false,
      Bool.toNat_true] at part ⊢
    omega

omit [Frontier S] in
theorem parked_of_controlStep {c : Control} (hp : Parked p) (step : ControlStep p c p') :
    Parked p' := by
  cases step with
  | wakesFetchers =>
    unfold Parked at hp ⊢
    simp only [countP_map_of_same Fetcher.isCounted_wake]
    exact hp
  | wakesProcessors =>
    unfold Parked at hp ⊢
    simp only [countP_map_of_same Worker.isCounted_wake]
    exact hp
  | _ => exact hp

theorem parked_of_step {m : Move} (hp : Parked p) (step : Step crew d p m p') : Parked p' := by
  cases step with
  | fetch i wakes f _ here step => exact parked_of_fetcherStep hp here step
  | process i w _ here step => exact parked_of_workerStep hp here step
  | stirsFetcher i here =>
    have part := toNat_le_countP Fetcher.isCounted here
    unfold Parked at hp ⊢
    simp only [countP_set_eq _ _ here, Fetcher.isCounted, Bool.toNat_true] at part ⊢
    omega
  | stirsWorker i here =>
    have part := toNat_le_countP Worker.isCounted here
    unfold Parked at hp ⊢
    simp only [countP_set_eq _ _ here, Worker.isCounted, Bool.toNat_true] at part ⊢
    omega
  | proceed _ step => exact parked_of_controlStep hp step
  | _ => exact hp

theorem parked_of_reachable {run : Run S σ} {sizes : PoolSizes} {moves : List Move}
    {q : Pool S σ} (h : (ofRun run sizes).advanceAll crew d moves = some q) : Parked q :=
  invariant_of_step parked_of_step (parked_ofRun run sizes) h

omit [Frontier S] in
theorem Parked.eq_waiting_add_dead (hp : Parked p) :
    p.parked = p.fetchers.countP Fetcher.waits + p.workers.countP Worker.waits +
      (p.fetchers.countP Fetcher.isDead + p.workers.countP Worker.isDead) := by
  have hf : p.fetchers.countP Fetcher.isCounted =
      p.fetchers.countP Fetcher.waits + p.fetchers.countP Fetcher.isDead := by
    rw [← countP_or_of_disjoint (by intro f; cases f <;> rfl)]
    exact congrArg (p.fetchers.countP ·) (funext Fetcher.isCounted_eq)
  have hw : p.workers.countP Worker.isCounted =
      p.workers.countP Worker.waits + p.workers.countP Worker.isDead := by
    rw [← countP_or_of_disjoint (by intro w; cases w <;> rfl)]
    exact congrArg (p.workers.countP ·) (funext Worker.isCounted_eq)
  unfold Parked at hp
  omega

omit [Frontier S] in
theorem Parked.pos_of_fetcher (hp : Parked p) {f : Fetcher} (hf : f ∈ p.fetchers)
    (waits : f.waits = true) : 0 < p.parked := by
  have some : 0 < p.fetchers.countP Fetcher.waits := List.countP_pos_iff.mpr ⟨f, hf, waits⟩
  have := hp.eq_waiting_add_dead
  omega

omit [Frontier S] in
theorem Parked.pos_of_worker (hp : Parked p) {w : Worker} (hw : w ∈ p.workers)
    (waits : w.waits = true) : 0 < p.parked := by
  have some : 0 < p.workers.countP Worker.waits := List.countP_pos_iff.mpr ⟨w, hw, waits⟩
  have := hp.eq_waiting_add_dead
  omega

theorem length_of_step {m : Move} (step : Step crew d p m p') :
    p'.fetchers.length = p.fetchers.length ∧ p'.workers.length = p.workers.length := by
  cases step with
  | fetch i wakes f _ here step => cases step <;> simp
  | process i w _ here step =>
    cases step with
    | publishes carrier =>
      refine ⟨?_, List.length_set⟩
      dsimp only
      split
      · rfl
      · exact List.length_map Fetcher.wake
    | _ => simp
  | proceed _ step =>
    generalize p.control = c at step
    cases step <;> simp
  | _ => simp

theorem size_of_step {m : Move} (step : Step crew d p m p') : p'.size = p.size := by
  obtain ⟨fetchers, workers⟩ := length_of_step step
  rw [size, size, fetchers, workers]

theorem size_of_reachable {run : Run S σ} {sizes : PoolSizes} {moves : List Move}
    {q : Pool S σ} (h : (ofRun run sizes).advanceAll crew d moves = some q) :
    q.size = sizes.fetchers.toNat + sizes.processors.toNat :=
  invariant_of_step (I := fun q => q.size = sizes.fetchers.toNat + sizes.processors.toNat)
    (fun size step => (size_of_step step).trans size) (size_ofRun run sizes) h

theorem Parked.idle_of_quiescent [LawfulFrontier S] (hp : Parked p) (quiet : p.quiescent = true) :
    Idle p := by
  simp only [quiescent, Bool.and_eq_true, beq_iff_eq, LawfulFrontier.isEmpty_iff,
    List.isEmpty_iff] at quiet
  obtain ⟨⟨all, frontier⟩, handoff⟩ := quiet
  obtain ⟨hf, hw⟩ := hp.all_counted all
  exact ⟨fun f h => Fetcher.isIdle_of_isCounted (hf f h),
    fun w h => Worker.isIdle_of_isCounted (hw w h), frontier, handoff⟩

theorem calls_of_idle (hi : Idle p) (m : Move) : p.calls crew m = false := by
  cases m with
  | fetch i wakes =>
    simp only [calls]
    split
    · rename_i here
      cases hi.fetchers _ (List.mem_of_getElem? here)
    · rfl
  | process i =>
    simp only [calls]
    split
    · rename_i here
      cases hi.workers _ (List.mem_of_getElem? here)
    · rename_i here
      cases hi.workers _ (List.mem_of_getElem? here)
    · rename_i here
      cases hi.workers _ (List.mem_of_getElem? here)
    · rfl
  | _ => rfl

theorem forall_mem_set {α : Type} {P : α → Prop} {l : List α} {i : Nat} {b : α}
    (all : ∀ a ∈ l, P a) (new : P b) : ∀ a ∈ l.set i b, P a := by
  intro a ha
  rcases List.mem_or_eq_of_mem_set ha with old | rfl
  · exact all a old
  · exact new

theorem forall_mem_wake_fetchers {l : List Fetcher} (all : ∀ f ∈ l, f.isIdle = true) :
    ∀ f ∈ l.map Fetcher.wake, f.isIdle = true := by
  intro f hf
  obtain ⟨f, old, rfl⟩ := List.mem_map.mp hf
  rw [Fetcher.isIdle_wake]
  exact all f old

theorem forall_mem_wake_workers {l : List Worker} (all : ∀ w ∈ l, w.isIdle = true) :
    ∀ w ∈ l.map Worker.wake, w.isIdle = true := by
  intro w hw
  obtain ⟨w, old, rfl⟩ := List.mem_map.mp hw
  rw [Worker.isIdle_wake]
  exact all w old

variable [LawfulFrontier S]

theorem idle_of_fetcherStep {i wakes : Nat} {f : Fetcher} (hi : Idle p)
    (here : p.fetchers[i]? = some f) (step : FetcherStep d p i wakes f p') :
    Idle p' ∧ SameWork p p' := by
  have idle := hi.fetchers f (List.mem_of_getElem? here)
  cases step with
  | takes r s found =>
    have dry := (LawfulFrontier.poll_of_size_zero hi.frontier found).1
    cases dry
  | parks s dry =>
    have empty := (LawfulFrontier.poll_of_size_zero hi.frontier dry).2
    exact ⟨⟨forall_mem_set hi.fetchers rfl, hi.workers, empty, hi.handoff⟩, by simp [SameWork]⟩
  | resumesAndLeaves =>
    exact ⟨⟨forall_mem_set hi.fetchers rfl, hi.workers, hi.frontier, hi.handoff⟩,
      by simp [SameWork]⟩
  | resumes =>
    exact ⟨⟨forall_mem_set hi.fetchers rfl, hi.workers, hi.frontier, hi.handoff⟩,
      by simp [SameWork]⟩
  | _ => cases idle

omit [LawfulFrontier S] in
theorem idle_of_workerStep {i : Nat} {w : Worker} (hi : Idle p)
    (here : p.workers[i]? = some w) (step : WorkerStep crew p i w p') :
    Idle p' ∧ SameWork p p' := by
  have idle := hi.workers w (List.mem_of_getElem? here)
  cases step with
  | takes response rest found =>
    rw [hi.handoff] at found
    cases found
  | parks =>
    exact ⟨⟨hi.fetchers, forall_mem_set hi.workers rfl, hi.frontier, hi.handoff⟩,
      by simp [SameWork]⟩
  | resumesAndLeaves =>
    exact ⟨⟨hi.fetchers, forall_mem_set hi.workers rfl, hi.frontier, hi.handoff⟩,
      by simp [SameWork]⟩
  | resumes =>
    exact ⟨⟨hi.fetchers, forall_mem_set hi.workers rfl, hi.frontier, hi.handoff⟩,
      by simp [SameWork]⟩
  | _ => cases idle

omit [LawfulFrontier S] in
theorem idle_of_controlStep {c : Control} (hi : Idle p) (step : ControlStep p c p') :
    Idle p' ∧ SameWork p p' := by
  cases step with
  | wakesFetchers =>
    exact ⟨⟨forall_mem_wake_fetchers hi.fetchers, hi.workers, hi.frontier, hi.handoff⟩,
      .refl p⟩
  | wakesProcessors =>
    exact ⟨⟨hi.fetchers, forall_mem_wake_workers hi.workers, hi.frontier, hi.handoff⟩,
      .refl p⟩
  | _ => exact ⟨⟨hi.fetchers, hi.workers, hi.frontier, hi.handoff⟩, by simp [SameWork]⟩

theorem idle_of_step {m : Move} (hi : Idle p) (step : Step crew d p m p') :
    Idle p' ∧ SameWork p p' := by
  cases step with
  | fetch i wakes f _ here step => exact idle_of_fetcherStep hi here step
  | process i w _ here step => exact idle_of_workerStep hi here step
  | stirsFetcher i here =>
    exact ⟨⟨forall_mem_set hi.fetchers rfl, hi.workers, hi.frontier, hi.handoff⟩, .refl p⟩
  | stirsWorker i here =>
    exact ⟨⟨hi.fetchers, forall_mem_set hi.workers rfl, hi.frontier, hi.handoff⟩, .refl p⟩
  | proceed _ step => exact idle_of_controlStep hi step
  | _ => exact ⟨⟨hi.fetchers, hi.workers, hi.frontier, hi.handoff⟩, by simp [SameWork]⟩

theorem idle_of_advanceAll {moves : List Move} {q : Pool S σ} (hi : Idle p)
    (h : p.advanceAll crew d moves = some q) : Idle q ∧ SameWork p q := by
  refine invariant_of_step (I := fun q => Idle q ∧ SameWork p q) ?_ ⟨hi, .refl p⟩ h
  intro q m q' hq step
  obtain ⟨idle, same⟩ := idle_of_step hq.1 step
  exact ⟨idle, hq.2.trans same⟩

/-- As long as no stop request is taken, the end begins with nobody at work, and nobody gets to work
from then on. -/
theorem idle_of_ending {run : Run S σ} {sizes : PoolSizes} {moves : List Move} {q : Pool S σ}
    (unstopped : Move.takeStop ∉ moves) (h : (ofRun run sizes).advanceAll crew d moves = some q)
    (ending : q.control ≠ .waiting) : Idle q := by
  have keeps : ∀ {p : Pool S σ} {m : Move} {p' : Pool S σ}, m ≠ .takeStop →
      Parked p ∧ (p.control ≠ .waiting → Idle p) → Step crew d p m p' →
        Parked p' ∧ (p'.control ≠ .waiting → Idle p') := by
    intro p m p' allowed ⟨parked, ending⟩ step
    refine ⟨parked_of_step parked step, ?_⟩
    intro ending'
    by_cases waiting : p.control = .waiting
    · -- Only a stop request, which is excluded, or a quiet sample begins the end.
      cases step with
      | fetch i wakes f _ here step =>
        exact absurd ((control_of_fetcherStep step).trans waiting) ending'
      | process i w _ here step =>
        exact absurd ((control_of_workerStep step).trans waiting) ending'
      | stops => exact absurd rfl allowed
      | ends _ _ _ quiet =>
        have idle := parked.idle_of_quiescent quiet
        exact ⟨idle.fetchers, idle.workers, idle.frontier, idle.handoff⟩
      | proceed _ step =>
        rw [waiting] at step
        cases step
      | _ => exact absurd waiting ending'
    · exact (idle_of_step (ending waiting) step).1
  have all : ∀ m ∈ moves, m ≠ .takeStop := fun m hm same => unstopped (same ▸ hm)
  exact (invariant_of_allowed keeps all
    ⟨parked_ofRun run sizes, fun waits => absurd rfl waits⟩ h).2 ending

end Pool

namespace Pool

variable {σ : Type}

/-- The counter of parked workers is exact, and a quiet sample is right for good: nothing is pending
or in anybody's hands, and however the run goes on, no component is called again. -/
theorem quiescence_exact (crew : Crew σ) (d : Downloader σ) (run : Run (Layered Queue) σ)
    (sizes : PoolSizes) (moves : List Move) (q : Pool (Layered Queue) σ)
    (h : (ofRun run sizes).advanceAll crew d moves = some q) :
    (q.parked = q.fetchers.countP Fetcher.waits + q.workers.countP Worker.waits +
        (q.fetchers.countP Fetcher.isDead + q.workers.countP Worker.isDead) ∧
      q.parked ≤ sizes.fetchers.toNat + sizes.processors.toNat ∧
      (∀ f ∈ q.fetchers, f.waits = true → 0 < q.parked) ∧
      ∀ w ∈ q.workers, w.waits = true → 0 < q.parked) ∧
    (q.quiescent = true →
      (q.run.core.frontier.base.pending = [] ∧ q.handoff = [] ∧
        (∀ f ∈ q.fetchers, f.holds = false) ∧ ∀ w ∈ q.workers, w.holds = false) ∧
      ∀ (more : List Move) (q' : Pool (Layered Queue) σ),
        q.advanceAll crew d more = some q' →
          SameWork q q' ∧ ∀ m, q'.calls crew m = false) := by
  have parked : Parked q := parked_of_reachable h
  have size := size_of_reachable h
  refine ⟨⟨parked.eq_waiting_add_dead, size ▸ parked.le_size, fun f => parked.pos_of_fetcher,
    fun w => parked.pos_of_worker⟩, ?_⟩
  intro quiet
  have idle : Idle q := parked.idle_of_quiescent quiet
  have pending : q.run.core.frontier.base.pending = [] := List.length_eq_zero_iff.mp idle.frontier
  refine ⟨⟨pending, idle.handoff, fun f hf => Fetcher.holds_of_isIdle (idle.fetchers f hf),
    fun w hw => Worker.holds_of_isIdle (idle.workers w hw)⟩, ?_⟩
  intro more q' hmore
  obtain ⟨idle', same⟩ := idle_of_advanceAll idle hmore
  exact ⟨same, calls_of_idle idle'⟩

def blank : Downloader Unit where
  name := "blank"
  supports _ := .pure true
  download r := .pure (.ok (.new r 200 []))
  close := .pure (.ok ())

/-- A crawl that is about to fetch one page. -/
def onePage : Run (Layered Queue) Unit :=
  ⟨.new .sequential (.bare (.ofList [default])), ()⟩

theorem quiescence_exact_of_one_page :
    ∃ q, (ofRun onePage ⟨1, 1, default⟩).advanceAll .empty blank
        (List.replicate 10 (.fetch 0 0) ++ List.replicate 6 (.process 0)) = some q ∧
      q.quiescent = true ∧ q.parked = 2 ∧ ∀ m, q.calls .empty m = false := by
  have end_of_run : ((ofRun onePage ⟨1, 1, default⟩).advanceAll .empty blank
      (List.replicate 10 (.fetch 0 0) ++ List.replicate 6 (.process 0))).map
        (fun q => (q.quiescent, q.parked)) = some (true, 2) := rfl
  obtain ⟨q, h, values⟩ := Option.map_eq_some_iff.mp end_of_run
  obtain ⟨quiet, parked⟩ := Prod.mk.inj values
  have exact := (quiescence_exact .empty blank onePage ⟨1, 1, default⟩ _ q h).2 quiet
  exact ⟨q, h, quiet, parked, (exact.2 [] q rfl).2⟩

end Pool

end WebCrawl
