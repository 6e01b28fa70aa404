import WebCrawl.Proofs.Pool.Locks

/-!
# What a worker still does

Once the cancellation is raised, a worker finishes what it has in hand and leaves. How many moves
that takes at most is read off its phase: each of its own moves makes it less by one, and no move of
anybody else makes it more.
-/

namespace WebCrawl

namespace Fetcher

/-- How many moves a fetcher makes at most once the cancellation is raised. -/
def stepsLeft : Fetcher → Nat
  | exited | dead => 0
  | seeking | asleep | woken | unwinding => 1
  | announcing | requeueing _ => 2
  | handing _ | failed .. => 3
  | counted _ => 4
  | fetched _ => 5
  | downloading _ => 6
  | starting _ => 7
  | looking => 8

@[simp] theorem stepsLeft_wake (f : Fetcher) : f.wake.stepsLeft = f.stepsLeft := by
  cases f <;> rfl

theorem stepsLeft_eq_zero {f : Fetcher} : f.stepsLeft = 0 ↔ f.ended?.isSome = true := by
  cases f <;> simp [stepsLeft, ended?]

end Fetcher

namespace Worker

variable {σ : Type} (crew : Crew σ)

/-- How many moves a process worker makes at most once the cancellation is raised: each processor
and each pipeline of the crew is called at most once for the response in hand. -/
def stepsLeft : Worker → Nat
  | exited | dead => 0
  | seeking | asleep | woken | unwinding => 1
  | dropping _ | finishing _ => 2
  | held _ => 3
  | piping _ k => crew.pipelines.length - k + 3
  | publishing _ => crew.pipelines.length + 4
  | processing .. => crew.pipelines.length + 5
  | selecting _ k => crew.processors.length - k + crew.pipelines.length + 5
  | looking => crew.processors.length + crew.pipelines.length + 6

@[simp] theorem stepsLeft_wake (w : Worker) : w.wake.stepsLeft crew = w.stepsLeft crew := by
  cases w <;> rfl

theorem stepsLeft_eq_zero {w : Worker} : w.stepsLeft crew = 0 ↔ w.ended?.isSome = true := by
  cases w <;> simp [stepsLeft, ended?]

end Worker

namespace Move

def isFetch (i : Nat) : Move → Bool
  | fetch j _ => j == i
  | _ => false

def isProcess (i : Nat) : Move → Bool
  | process j => j == i
  | _ => false

end Move

def weightAt {α : Type} (weight : α → Nat) (l : List α) (i : Nat) : Nat :=
  (l[i]?.map weight).getD 0

section weightAt

variable {α : Type} {weight : α → Nat} {l : List α} {i : Nat} {a : α}

theorem weightAt_of_getElem? (here : l[i]? = some a) : weightAt weight l i = weight a := by
  rw [weightAt, here]
  rfl

theorem weightAt_set (here : l[i]? = some a) (b : α) (j : Nat) :
    weightAt weight (l.set i b) j = if j = i then weight b else weightAt weight l j := by
  obtain ⟨inside, -⟩ := List.getElem?_eq_some_iff.mp here
  by_cases same : j = i
  · subst same
    rw [if_pos rfl, weightAt, List.getElem?_set_self inside]
    rfl
  · rw [if_neg same, weightAt, List.getElem?_set_ne fun eq => same eq.symm]
    rfl

theorem weightAt_set_of_lt {b : α} (here : l[i]? = some a) (lighter : weight b < weight a)
    (j : Nat) : (i == j).toNat + weightAt weight (l.set i b) j ≤ weightAt weight l j := by
  rw [weightAt_set here]
  by_cases same : j = i
  · subst same
    rw [if_pos rfl, weightAt_of_getElem? here, beq_self_eq_true, Bool.toNat_true]
    omega
  · rw [if_neg same, beq_false_of_ne fun eq => same eq.symm, Bool.toNat_false]
    omega

theorem weightAt_set_of_eq (weight : α → Nat) (b : α) (here : l[i]? = some a)
    (same : weight b = weight a) (j : Nat) :
    weightAt weight (l.set i b) j = weightAt weight l j := by
  rw [weightAt_set here]
  by_cases at_i : j = i
  · subst at_i
    rw [if_pos rfl, weightAt_of_getElem? here, same]
  · rw [if_neg at_i]

theorem weightAt_map_of_same {wake : α → α} (same : ∀ a, weight (wake a) = weight a)
    (j : Nat) : weightAt weight (l.map wake) j = weightAt weight l j := by
  rw [weightAt, weightAt, List.getElem?_map, Option.map_map]
  exact congrArg (fun f => (l[j]?.map f).getD 0) (funext same)

theorem weightAt_of_none (none : l[i]? = none) : weightAt weight l i = 0 := by
  rw [weightAt, none]
  rfl

theorem weightAt_of_outside {k : Nat} (none : l[k]? = none)
    (light : ∀ i < k, weightAt weight l i = 0) (i : Nat) : weightAt weight l i = 0 := by
  by_cases inside : i < k
  · exact light i inside
  · have beyond := List.getElem?_eq_none_iff.mp none
    exact weightAt_of_none (List.getElem?_eq_none_iff.mpr (by omega))

theorem weightAt_succ {k : Nat} (next : l[k]? = some a) (ended : weight a = 0)
    (light : ∀ i < k, weightAt weight l i = 0) : ∀ i < k + 1, weightAt weight l i = 0 := by
  intro i below
  rcases Nat.lt_succ_iff_lt_or_eq.mp below with before | rfl
  · exact light i before
  · exact (weightAt_of_getElem? next).trans ended

end weightAt

namespace Pool

variable {S σ : Type} [Frontier S] {crew : Crew σ} {d : Downloader σ} {p p' : Pool S σ}

theorem steps_of_fetcherStep (crew : Crew σ) {i wakes : Nat} {f : Fetcher}
    (raised : p.cancelled = true) (here : p.fetchers[i]? = some f)
    (step : FetcherStep d p i wakes f p') (j : Nat) :
    (i == j).toNat + weightAt Fetcher.stepsLeft p'.fetchers j ≤
        weightAt Fetcher.stepsLeft p.fetchers j ∧
      weightAt (Worker.stepsLeft crew) p'.workers j =
        weightAt (Worker.stepsLeft crew) p.workers j := by
  cases step with
  | looks free on =>
    rw [raised] at on
    cases on
  | resumes free on =>
    rw [raised] at on
    cases on
  | announces =>
    exact ⟨weightAt_set_of_lt here (by simp [Fetcher.stepsLeft]) j,
      weightAt_map_of_same (Worker.stepsLeft_wake crew) j⟩
  | requeuesAndWakes r free sleeper =>
    have stirred : weightAt Fetcher.stepsLeft ((p.fetchers.set i .seeking).set wakes .woken) j =
        weightAt Fetcher.stepsLeft (p.fetchers.set i .seeking) j :=
      weightAt_set_of_eq Fetcher.stepsLeft .woken sleeper rfl j
    refine ⟨?_, rfl⟩
    dsimp only
    rw [stirred]
    exact weightAt_set_of_lt here (by simp [Fetcher.stepsLeft]) j
  | _ => exact ⟨weightAt_set_of_lt here (by simp [Fetcher.stepsLeft]) j, rfl⟩

theorem steps_of_workerStep {i : Nat} {w : Worker} (raised : p.cancelled = true)
    (here : p.workers[i]? = some w) (step : WorkerStep crew p i w p') (j : Nat) :
    (i == j).toNat + weightAt (Worker.stepsLeft crew) p'.workers j ≤
        weightAt (Worker.stepsLeft crew) p.workers j ∧
      weightAt Fetcher.stepsLeft p'.fetchers j = weightAt Fetcher.stepsLeft p.fetchers j := by
  cases step with
  | looks free on =>
    rw [raised] at on
    cases on
  | resumes free on =>
    rw [raised] at on
    cases on
  | selects response k processor asked =>
    have known := (List.getElem?_eq_some_iff.mp asked).1
    refine ⟨weightAt_set_of_lt here ?_ j, rfl⟩
    simp only [Worker.stepsLeft]
    omega
  | passesOver response k processor asked =>
    have known := (List.getElem?_eq_some_iff.mp asked).1
    refine ⟨weightAt_set_of_lt here ?_ j, rfl⟩
    simp only [Worker.stepsLeft]
    omega
  | publishes carrier free =>
    refine ⟨weightAt_set_of_lt here ?_ j, ?_⟩
    · simp only [Worker.stepsLeft]
      omega
    · dsimp only
      split
      · rfl
      · exact weightAt_map_of_same Fetcher.stepsLeft_wake j
  | passesOn carrier k pipeline next =>
    have known := (List.getElem?_eq_some_iff.mp next).1
    refine ⟨weightAt_set_of_lt here ?_ j, rfl⟩
    simp only [Worker.stepsLeft]
    omega
  | holdsBack carrier k pipeline next =>
    have known := (List.getElem?_eq_some_iff.mp next).1
    refine ⟨weightAt_set_of_lt here ?_ j, rfl⟩
    simp only [Worker.stepsLeft]
    omega
  | _ =>
    refine ⟨weightAt_set_of_lt here ?_ j, rfl⟩
    simp only [Worker.stepsLeft]
    omega

theorem steps_of_step {m : Move} (raised : p.cancelled = true) (step : Step crew d p m p')
    (j : Nat) :
    (m.isFetch j).toNat + weightAt Fetcher.stepsLeft p'.fetchers j ≤
        weightAt Fetcher.stepsLeft p.fetchers j ∧
      (m.isProcess j).toNat + weightAt (Worker.stepsLeft crew) p'.workers j ≤
        weightAt (Worker.stepsLeft crew) p.workers j := by
  cases step with
  | fetch i wakes f _ here step =>
    obtain ⟨fetchers, workers⟩ := steps_of_fetcherStep crew raised here step j
    exact ⟨fetchers, ((Nat.zero_add _).trans workers).le⟩
  | process i w _ here step =>
    obtain ⟨workers, fetchers⟩ := steps_of_workerStep raised here step j
    exact ⟨((Nat.zero_add _).trans fetchers).le, workers⟩
  | stirsFetcher i here =>
    have stirred := weightAt_set_of_eq Fetcher.stepsLeft .woken here rfl j
    exact ⟨((Nat.zero_add _).trans stirred).le, (Nat.zero_add _).le⟩
  | stirsWorker i here =>
    have stirred := weightAt_set_of_eq (Worker.stepsLeft crew) .woken here rfl j
    exact ⟨(Nat.zero_add _).le, ((Nat.zero_add _).trans stirred).le⟩
  | proceed _ step =>
    generalize p.control = c at step
    cases step with
    | wakesFetchers =>
      have woken := weightAt_map_of_same (l := p.fetchers) Fetcher.stepsLeft_wake j
      exact ⟨((Nat.zero_add _).trans woken).le, (Nat.zero_add _).le⟩
    | wakesProcessors =>
      have woken := weightAt_map_of_same (l := p.workers) (Worker.stepsLeft_wake crew) j
      exact ⟨(Nat.zero_add _).le, ((Nat.zero_add _).trans woken).le⟩
    | _ => exact ⟨(Nat.zero_add _).le, (Nat.zero_add _).le⟩
  | _ => exact ⟨(Nat.zero_add _).le, (Nat.zero_add _).le⟩

end Pool

end WebCrawl
