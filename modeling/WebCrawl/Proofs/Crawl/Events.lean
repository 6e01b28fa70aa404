import WebCrawl.Proofs.Frontier.Listed
import WebCrawl.Proofs.Statistics.Counting

/-!
# What happened in a stretch of a crawl

What happens between two moments of a crawl is a list of events, deeds and counts in their order.
All that has changed can be read off them: the deeds are appended to the journal, every counter
rises by the number of its counts, modulo `2 ^ 64`, and the frontier has gone through the pushes,
polls and requeues among the deeds and through nothing else.
-/

namespace WebCrawl

/-- A number that the statistics keep; of the histogram it is the total. -/
inductive Counter where
  | enqueued
  | rejected
  | unsupported
  | started
  | succeeded
  | failed
  | unprocessed
  | statuses
  | processed
  | shortCircuits
  deriving DecidableEq

def Count.counter : Count → Counter
  | admitted => .enqueued
  | rejected => .rejected
  | unsupported => .unsupported
  | started => .started
  | succeeded => .succeeded
  | failed => .failed
  | unprocessed => .unprocessed
  | status _ => .statuses
  | processed => .processed
  | shortCircuit => .shortCircuits

namespace Histogram

theorem foldl_add (x y : UInt64) (entries : List (UInt16 × UInt64)) :
    entries.foldl (fun n e => n + e.2) (x + y) = entries.foldl (fun n e => n + e.2) x + y := by
  induction entries generalizing x with
  | nil => rfl
  | cons e rest ih =>
    have swap : x + y + e.2 = x + e.2 + y := by
      rw [UInt64.add_assoc, UInt64.add_comm y, ← UInt64.add_assoc]
    rw [List.foldl_cons, List.foldl_cons, swap]
    exact ih (x + e.2)

theorem foldl_bump (code : UInt16) (n x : UInt64) (entries : List (UInt16 × UInt64)) :
    (bump code n entries).foldl (fun n e => n + e.2) x =
      entries.foldl (fun n e => n + e.2) x + n := by
  induction entries generalizing x with
  | nil => rfl
  | cons e rest ih =>
    obtain ⟨c, k⟩ := e
    unfold bump
    split
    · rw [List.foldl_cons, foldl_add]
    · split
      · rw [List.foldl_cons, List.foldl_cons, ← UInt64.add_assoc, foldl_add]
      · exact ih (x + k)

theorem total_record (h : Histogram) (code : UInt16) : (h.record code).total = h.total + 1 :=
  foldl_bump code 1 0 h.entries

end Histogram

namespace Statistics

def read (s : Statistics) : Counter → UInt64
  | .enqueued => s.requestsEnqueued
  | .rejected => s.requestsRejected
  | .unsupported => s.requestsUnsupported
  | .started => s.fetchesStarted
  | .succeeded => s.fetchesSucceeded
  | .failed => s.fetchesFailed
  | .unprocessed => s.responsesUnprocessed
  | .statuses => s.statuses.total
  | .processed => s.itemsProcessed
  | .shortCircuits => s.shortCircuits

/-- By how much a counter has risen since earlier statistics. -/
def since (s earlier : Statistics) (k : Counter) : UInt64 := s.read k - earlier.read k

theorem read_record (n : Count) (s : Statistics) (k : Counter) :
    (n.record s).read k = s.read k + .ofNat (n.counter == k).toNat := by
  cases n with
  | status code =>
    cases k with
    | statuses => exact s.statuses.total_record code
    | _ => exact (UInt64.add_zero _).symm
  | _ =>
    cases k with
    | _ => first | rfl | exact (UInt64.add_zero _).symm

def counting (s : Statistics) (counts : List Count) : Statistics :=
  counts.foldl (fun s n => n.record s) s

theorem counting_append (s : Statistics) (l l' : List Count) :
    s.counting (l ++ l') = (s.counting l).counting l' :=
  List.foldl_append

theorem read_counting (s : Statistics) (counts : List Count) (k : Counter) :
    (s.counting counts).read k = s.read k + .ofNat (counts.countP fun n => n.counter == k) := by
  induction counts generalizing s with
  | nil => exact (UInt64.add_zero _).symm
  | cons n rest ih =>
    have later := ih (n.record s)
    rw [read_record, UInt64.add_assoc, ← UInt64.ofNat_add] at later
    rw [counting, List.foldl_cons, List.countP_cons, Nat.add_comm]
    cases same : n.counter == k with
    | true =>
      rw [same] at later
      exact later
    | false =>
      rw [same] at later
      exact later

end Statistics

namespace Deed

def isAdmission : Deed → Bool
  | pushed _ a => a.accepted
  | _ => false

def isPoll : Deed → Bool
  | polled _ => true
  | _ => false

/-- A failed request that the frontier took back. -/
def isReturn : Deed → Bool
  | requeued _ a => a.accepted
  | _ => false

/-- A failed request that the frontier would not take back. -/
def isRefusal : Deed → Bool
  | requeued _ a => !a.accepted
  | _ => false

def isLoss : Deed → Bool
  | lost _ => true
  | _ => false

def isDrop : Deed → Bool
  | dropped _ => true
  | _ => false

def isCompletion : Deed → Bool
  | completed _ => true
  | _ => false

def isFrontiers : Deed → Bool
  | pushed .. => true
  | polled _ => true
  | requeued .. => true
  | _ => false

end Deed

inductive Event where
  | did (deed : Deed)
  | counted (count : Count)

namespace Event

def deed? : Event → Option Deed
  | did d => some d
  | counted _ => none

def count? : Event → Option Count
  | did _ => none
  | counted n => some n

def isDeed (kind : Deed → Bool) : Event → Bool
  | did d => kind d
  | counted _ => false

def raises (k : Counter) : Event → Bool
  | did _ => false
  | counted n => n.counter == k

theorem countP_deeds (kind : Deed → Bool) (events : List Event) :
    (events.filterMap deed?).countP kind = events.countP (isDeed kind) := by
  rw [List.countP_filterMap]
  congr 1
  funext e
  cases e <;> rfl

theorem countP_counts (k : Counter) (events : List Event) :
    (events.filterMap count?).countP (fun n => n.counter == k) = events.countP (raises k) := by
  rw [List.countP_filterMap]
  congr 1
  funext e
  cases e <;> rfl

theorem isDeed_eq_false {kind wider : Deed → Bool} (part : ∀ d, wider d = false → kind d = false)
    {e : Event} (apart : e.isDeed wider = false) : e.isDeed kind = false := by
  cases e with
  | did d => exact part d apart
  | counted n => rfl

def offer (r : Request) (a : Admission) : List Event :=
  [did (.pushed r a), counted (if a.accepted then .admitted else .rejected)]

def offers : List Request → List Admission → List Event
  | r :: rs, a :: as => offer r a ++ offers rs as
  | _, _ => []

theorem countP_deeds_offers {kind : Deed → Bool} (apart : ∀ r a, kind (.pushed r a) = false)
    (rs : List Request) (as : List Admission) :
    ((offers rs as).filterMap deed?).countP kind = 0 := by
  induction rs generalizing as with
  | nil => rfl
  | cons r rs ih =>
    cases as with
    | nil => rfl
    | cons a as =>
      have one : ((offer r a).filterMap deed?).countP kind = 0 := by
        simp [offer, deed?, apart]
      rw [offers, List.filterMap_append, List.countP_append, one, ih as]

end Event

theorem Frontier.length_pushAll {S : Type} [Frontier S] (s : S) (rs : List Request) :
    (Frontier.pushAll s rs).1.length = rs.length := by
  induction rs generalizing s with
  | nil => rfl
  | cons r rs ih => exact congrArg (· + 1) (ih (Frontier.push s r).2)

/-- A frontier goes from one state to another by what the events say, and by polls that found
nothing. -/
inductive Replays {S : Type} [Frontier S] : S → List Event → S → Prop where
  | done (s : S) : Replays s [] s
  | push {s s' s'' : S} {r : Request} {a : Admission} {events : List Event}
      (answer : Frontier.push s r = (a, s')) (rest : Replays s' events s'') :
      Replays s (.did (.pushed r a) :: events) s''
  | poll {s s' s'' : S} {r : Request} {events : List Event}
      (answer : Frontier.poll s = (some r, s')) (rest : Replays s' events s'') :
      Replays s (.did (.polled r) :: events) s''
  | dryPoll {s s' s'' : S} {events : List Event} (answer : Frontier.poll s = (none, s'))
      (rest : Replays s' events s'') : Replays s events s''
  | requeue {s s' s'' : S} {r : Request} {a : Admission} {events : List Event}
      (answer : Frontier.requeue s r = (a, s')) (rest : Replays s' events s'') :
      Replays s (.did (.requeued r a) :: events) s''
  | skip {s s'' : S} {e : Event} {events : List Event}
      (apart : e.isDeed Deed.isFrontiers = false) (rest : Replays s events s'') :
      Replays s (e :: events) s''

theorem Replays.trans {S : Type} [Frontier S] {s s' s'' : S} {events events' : List Event}
    (h : Replays s events s') (h' : Replays s' events' s'') :
    Replays s (events ++ events') s'' := by
  induction h with
  | done s => exact h'
  | push answer _ ih => exact .push answer (ih h')
  | poll answer _ ih => exact .poll answer (ih h')
  | dryPoll answer _ ih => exact .dryPoll answer (ih h')
  | requeue answer _ ih => exact .requeue answer (ih h')
  | skip apart _ ih => exact .skip apart (ih h')

theorem Replays.size {S : Type} [Frontier S] [LawfulFrontier S] {s s' : S} {events : List Event}
    (h : Replays s events s') :
    Frontier.size s' + events.countP (Event.isDeed Deed.isPoll) =
      Frontier.size s + events.countP (Event.isDeed Deed.isAdmission) +
        events.countP (Event.isDeed Deed.isReturn) := by
  induction h with
  | done s => rfl
  | @push s s' s'' r a events answer rest ih =>
    have grown := LawfulFrontier.size_push s r
    rw [answer] at grown
    simp only [countP_cons_toNat, Event.isDeed, Deed.isPoll, Deed.isAdmission, Deed.isReturn,
      Bool.toNat_false] at grown ⊢
    omega
  | poll answer rest ih =>
    have shrunk := LawfulFrontier.size_of_poll_some answer
    simp only [countP_cons_toNat, Event.isDeed, Deed.isPoll, Deed.isAdmission, Deed.isReturn,
      Bool.toNat_false, Bool.toNat_true]
    omega
  | dryPoll answer rest ih =>
    obtain ⟨before, after⟩ := LawfulFrontier.size_of_dry_poll answer
    omega
  | @requeue s s' s'' r a events answer rest ih =>
    have grown := LawfulFrontier.size_requeue s r
    rw [answer] at grown
    simp only [countP_cons_toNat, Event.isDeed, Deed.isPoll, Deed.isAdmission, Deed.isReturn,
      Bool.toNat_false] at grown ⊢
    omega
  | @skip s s'' e events apart rest ih =>
    have silent : ∀ kind, (∀ d, Deed.isFrontiers d = false → kind d = false) →
        (Event.isDeed kind e).toNat = 0 := by
      intro kind part
      rw [Event.isDeed_eq_false part apart, Bool.toNat_false]
    simp only [countP_cons_toNat]
    rw [silent Deed.isPoll, silent Deed.isAdmission, silent Deed.isReturn]
    · exact ih
    all_goals
      intro d apart
      cases d <;> first | rfl | cases apart

theorem Replays.offer {S : Type} [Frontier S] (s : S) (r : Request) :
    Replays s (Event.offer r (Frontier.push s r).1) (Frontier.push s r).2 :=
  .push rfl (.skip rfl (.done _))

theorem Replays.offers {S : Type} [Frontier S] (s : S) (rs : List Request) :
    Replays s (Event.offers rs (Frontier.pushAll s rs).1) (Frontier.pushAll s rs).2 := by
  induction rs generalizing s with
  | nil => exact .done s
  | cons r rs ih => exact (offer s r).trans (ih (Frontier.push s r).2)

/-- Between two moments of a crawl these events happened. -/
structure Elapsed {S : Type} [Frontier S] (c c' : Core S) (events : List Event) : Prop where
  deeds : c'.journal.deeds = c.journal.deeds ++ events.filterMap Event.deed?
  stats : c'.stats = c.stats.counting (events.filterMap Event.count?)
  frontier : Replays c.frontier events c'.frontier

namespace Elapsed

variable {S : Type} [Frontier S] {c c' c'' : Core S} {events events' : List Event}

theorem refl (c : Core S) : Elapsed c c [] := ⟨(List.append_nil _).symm, rfl, .done _⟩

theorem of_same (deeds : c'.journal.deeds = c.journal.deeds) (stats : c'.stats = c.stats)
    (frontier : c'.frontier = c.frontier) : Elapsed c c' [] :=
  ⟨deeds.trans (List.append_nil _).symm, stats, frontier ▸ .done _⟩

theorem trans (h : Elapsed c c' events) (h' : Elapsed c' c'' events') :
    Elapsed c c'' (events ++ events') := by
  refine ⟨?_, ?_, h.frontier.trans h'.frontier⟩
  · rw [h'.deeds, h.deeds, List.filterMap_append, List.append_assoc]
  · rw [h'.stats, h.stats, List.filterMap_append, Statistics.counting_append]

theorem say (c : Core S) (n : Note) : Elapsed c (c.say n) [] := of_same (c.deeds_say n) rfl rfl

theorem enter (c : Core S) (d : Deed) (apart : d.isFrontiers = false) :
    Elapsed c (c.enter d) [.did d] :=
  ⟨c.deeds_enter d, rfl, .skip apart (.done _)⟩

theorem tally (c : Core S) (n : Count) : Elapsed c (c.tally n.record) [.counted n] :=
  ⟨(List.append_nil _).symm, rfl, .skip rfl (.done _)⟩

theorem perform {σ α : Type} (run : Run S σ) (act : Act σ α) :
    Elapsed run.core (run.perform act).2.core [] :=
  of_same (Run.deeds_perform run act) rfl rfl

theorem since_eq (h : Elapsed c c' events) (k : Counter) :
    c'.stats.since c.stats k = .ofNat (events.countP (Event.raises k)) := by
  rw [Statistics.since, h.stats, Statistics.read_counting, Event.countP_counts, UInt64.add_comm]
  exact UInt64.add_sub_cancel _ _

theorem poll {s : S} {r : Request} (found : Frontier.poll c.frontier = (some r, s)) :
    Elapsed c ({ c with frontier := s }.enter (.polled r)) [.did (.polled r)] :=
  ⟨Core.deeds_enter _ _, rfl, .poll found (.done _)⟩

theorem dryPoll {s : S} (dry : Frontier.poll c.frontier = (none, s)) :
    Elapsed c { c with frontier := s } [] :=
  ⟨(List.append_nil _).symm, rfl, .dryPoll dry (.done _)⟩

theorem push (c : Core S) (r : Request) :
    Elapsed c (c.push r).2 (Event.offer r (Frontier.push c.frontier r).1) := by
  refine ⟨c.deeds_push r, ?_, Core.frontier_push c r ▸ .offer c.frontier r⟩
  rw [Core.stats_push, Core.fst_push]
  cases accepted : (Frontier.push c.frontier r).1.accepted <;> simp [Event.offer, accepted] <;> rfl

theorem pushAll (c : Core S) (rs : List Request) :
    Elapsed c (c.pushAll rs).2 (Event.offers rs (Frontier.pushAll c.frontier rs).1) := by
  induction rs generalizing c with
  | nil => exact refl c
  | cons r rs ih =>
    have rest := ih (c.push r).2
    rw [Core.frontier_push] at rest
    exact (push c r).trans rest

theorem pushDiscovered (c : Core S) (rs : List Request) :
    Elapsed c (c.pushDiscovered rs).2 (Event.offers rs (Frontier.pushAll c.frontier rs).1) := by
  have pushed := pushAll c rs
  unfold Core.pushDiscovered
  dsimp only
  split
  · exact pushed
  · have told := pushed.trans (say (c.pushAll rs).2 (.discoveredPushed (c.pushAll rs).1))
    rwa [List.append_nil] at told

theorem requeue (c : Core S) (r : Request) :
    Elapsed c (c.requeue r) [.did (.requeued r (Frontier.requeue c.frontier r).1)] := by
  refine ⟨c.deeds_requeue r, c.stats_requeue r, ?_⟩
  rw [Core.frontier_requeue]
  exact .requeue rfl (.done _)

end Elapsed

namespace Core

variable {S : Type} [Frontier S]

theorem frontier_pushAll (c : Core S) (rs : List Request) :
    (c.pushAll rs).2.frontier = (Frontier.pushAll c.frontier rs).2 := by
  induction rs generalizing c with
  | nil => rfl
  | cons r rs ih =>
    have rest := ih (c.push r).2
    rw [frontier_push] at rest
    exact rest

theorem frontier_pushDiscovered (c : Core S) (rs : List Request) :
    (c.pushDiscovered rs).2.frontier = (Frontier.pushAll c.frontier rs).2 := by
  rw [← frontier_pushAll]
  unfold pushDiscovered
  dsimp only
  split <;> rfl

end Core

end WebCrawl
