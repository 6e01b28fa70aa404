import Mathlib.Data.Finset.Card
import WebCrawl.Proofs.Frontier.Listed

/-!
# What an exact filter remembers

A frontier under an exact filter is used by its holder in any order: requests are pushed, forced
past the filter, polled, given back, and asked about. The filter then knows the identities of all
requests that were pushed or forced, and of no others, and every answer depends on this history and
on the frontier inside alone. Nothing is assumed of the frontier inside.
-/

namespace WebCrawl

namespace Layered

/-- What the holder of a frontier under a filter may do. -/
inductive Operation where
  | push (r : Request)
  | force (r : Request)
  | poll
  | requeue (r : Request)
  | hasSeen (r : Request)

inductive Reply where
  | admitted (a : Admission)
  | handedOut (found : Option Request)
  | told (seen : Bool)

namespace Operation

def offered? : Operation → Option Request
  | push r => some r
  | force r => some r
  | _ => none

/-- Brings a request in that the filter has not let through. -/
def passesBy : Operation → Bool
  | force _ => true
  | requeue _ => true
  | _ => false

def identities (identity : Request → String) (ops : List Operation) : List String :=
  (ops.filterMap offered?).map identity

theorem identities_append (identity : Request → String) (ops ops' : List Operation) :
    identities identity (ops ++ ops') = identities identity ops ++ identities identity ops' := by
  simp [identities]

end Operation

def Reply.request? : Reply → Option Request
  | handedOut found => found
  | _ => none

variable {S : Type} [Frontier S]

def operate (s : Layered S) : Operation → Reply × Layered S
  | .push r =>
    let (a, s) := Frontier.push s r
    (.admitted a, s)
  | .force r =>
    let (a, s) := s.force r
    (.admitted a, s)
  | .poll =>
    let (found, s) := Frontier.poll s
    (.handedOut found, s)
  | .requeue r =>
    let (a, s) := Frontier.requeue s r
    (.admitted a, s)
  | .hasSeen r => (.told (s.hasSeen r), s)

def operateAll (s : Layered S) : List Operation → List Reply × Layered S
  | [] => ([], s)
  | o :: rest =>
    let (reply, s) := s.operate o
    let (replies, s) := operateAll s rest
    (reply :: replies, s)

theorem operateAll_cons (s : Layered S) (o : Operation) (rest : List Operation) :
    s.operateAll (o :: rest) = ((s.operate o).1 :: ((s.operate o).2.operateAll rest).1,
      ((s.operate o).2.operateAll rest).2) := rfl

section wrap

variable (inner : Layered S) (l : FilterLayer) (r : Request)

theorem operate_wrap_push_of_seen (seen : l.isNew r = false) :
    (inner.wrap l).operate (.push r) =
      (.admitted (.duplicate (l.identity r)), inner.wrap l) := by
  have pushed : Frontier.push (inner.wrap l) r = (.duplicate (l.identity r), inner.wrap l) :=
    push_wrap_of_seen seen
  simp only [operate, pushed]

theorem operate_wrap_push_of_new (new : l.isNew r = true) :
    (inner.wrap l).operate (.push r) = (.admitted (Frontier.push inner r).1,
      (Frontier.push inner r).2.wrap (l.record r)) := by
  have pushed : Frontier.push (inner.wrap l) r =
      ((Frontier.push inner r).1, (Frontier.push inner r).2.wrap (l.record r)) :=
    push_wrap_of_new new
  simp only [operate, pushed]

theorem operate_wrap_force : (inner.wrap l).operate (.force r) =
    (.admitted (Frontier.push inner r).1, (Frontier.push inner r).2.wrap (l.record r)) := rfl

theorem operate_wrap_poll : (inner.wrap l).operate .poll =
    (.handedOut (Frontier.poll inner).1, (Frontier.poll inner).2.wrap l) := rfl

theorem operate_wrap_requeue : (inner.wrap l).operate (.requeue r) =
    (.admitted (Frontier.requeue inner r).1, (Frontier.requeue inner r).2.wrap l) := rfl

end wrap

/-- The frontier inside, under an exact filter. -/
def remembering (inner : Layered S) (f : ExactFilter) (identity : Request → String) : Layered S :=
  inner.wrap ⟨.exact f, identity⟩

theorem isNew_exact_of_unseen {f : ExactFilter} {identity : Request → String} {r : Request}
    (unseen : identity r ∉ f.seen) : (⟨.exact f, identity⟩ : FilterLayer).isNew r = true := by
  simp [FilterLayer.isNew, Filter.isNew, ExactFilter.isNew, unseen]

section operations

variable (inner : Layered S) (f : ExactFilter) (identity : Request → String) (r : Request)

theorem operate_push_of_seen (seen : identity r ∈ f.seen) :
    (inner.remembering f identity).operate (.push r) =
      (.admitted (.duplicate (identity r)), inner.remembering f identity) := by
  have old : (⟨.exact f, identity⟩ : FilterLayer).isNew r = false := by
    simp [FilterLayer.isNew, Filter.isNew, ExactFilter.isNew, seen]
  exact operate_wrap_push_of_seen inner _ r old

theorem operate_push_of_unseen (unseen : identity r ∉ f.seen) :
    (inner.remembering f identity).operate (.push r) = (.admitted (Frontier.push inner r).1,
      (Frontier.push inner r).2.remembering (f.record (identity r)) identity) :=
  operate_wrap_push_of_new inner _ r (isNew_exact_of_unseen unseen)

theorem operate_force :
    (inner.remembering f identity).operate (.force r) = (.admitted (Frontier.push inner r).1,
      (Frontier.push inner r).2.remembering (f.record (identity r)) identity) :=
  operate_wrap_force inner _ r

theorem operate_poll :
    (inner.remembering f identity).operate .poll = (.handedOut (Frontier.poll inner).1,
      (Frontier.poll inner).2.remembering f identity) :=
  operate_wrap_poll inner _

theorem operate_requeue :
    (inner.remembering f identity).operate (.requeue r) =
      (.admitted (Frontier.requeue inner r).1,
        (Frontier.requeue inner r).2.remembering f identity) :=
  operate_wrap_requeue inner _ r

theorem operate_hasSeen :
    (inner.remembering f identity).operate (.hasSeen r) =
      (.told (decide (identity r ∈ f.seen)), inner.remembering f identity) := by
  simp [operate, remembering, wrap, hasSeen, FilterLayer.isNew, Filter.isNew, ExactFilter.isNew]

end operations

end Layered

namespace ExactFilter

theorem record_of_seen {f : ExactFilter} {i : String} (old : i ∈ f.seen) : f.record i = f := by
  simp [record, isNew, old]

theorem record_of_unseen {f : ExactFilter} {i : String} (new : i ∉ f.seen) :
    f.record i = ⟨i :: f.seen⟩ := by
  simp [record, isNew, new]

/-- The filter has recorded these identities, each once, and no others. -/
structure Holds (f : ExactFilter) (past : List String) : Prop where
  nodup : f.seen.Nodup
  mem_iff : ∀ i, i ∈ f.seen ↔ i ∈ past

namespace Holds

variable {f : ExactFilter} {past : List String}

theorem empty : Holds .empty [] := ⟨List.nodup_nil, fun _ => Iff.rfl⟩

theorem again (h : f.Holds past) {i : String} (old : i ∈ f.seen) : f.Holds (past ++ [i]) := by
  refine ⟨h.nodup, ?_⟩
  intro j
  rw [List.mem_append, List.mem_singleton, ← h.mem_iff]
  constructor
  · exact .inl
  · rintro (seen | rfl)
    · exact seen
    · exact old

theorem record (h : f.Holds past) (i : String) : (f.record i).Holds (past ++ [i]) := by
  by_cases old : i ∈ f.seen
  · rw [record_of_seen old]
    exact h.again old
  · rw [record_of_unseen old]
    refine ⟨List.nodup_cons.mpr ⟨old, h.nodup⟩, ?_⟩
    intro j
    rw [List.mem_cons, h.mem_iff, List.mem_append, List.mem_singleton, or_comm]

theorem toFinset_eq (h : f.Holds past) : f.seen.toFinset = past.toFinset := by
  ext i
  rw [List.mem_toFinset, List.mem_toFinset, h.mem_iff]

theorem size_eq (h : f.Holds past) : f.size = past.toFinset.card := by
  rw [← h.toFinset_eq, List.toFinset_card_of_nodup h.nodup, size]

end Holds

end ExactFilter

namespace Layered

variable {S : Type} [Frontier S] {identity : Request → String}

theorem holds_of_operate (identity : Request → String) {f : ExactFilter} {past : List String}
    (holds : f.Holds past) (inner : Layered S) (o : Operation) :
    ∃ (f' : ExactFilter) (inner' : Layered S),
      ((inner.remembering f identity).operate o).2 = inner'.remembering f' identity ∧
      f'.Holds (past ++ Operation.identities identity [o]) := by
  have same : f.Holds (past ++ []) := (List.append_nil past).symm ▸ holds
  cases o with
  | push r =>
    by_cases seen : identity r ∈ f.seen
    · rw [operate_push_of_seen inner f identity r seen]
      exact ⟨f, inner, rfl, holds.again seen⟩
    · rw [operate_push_of_unseen inner f identity r seen]
      exact ⟨_, _, rfl, holds.record _⟩
  | force r => exact ⟨_, _, congrArg Prod.snd (operate_force inner f identity r), holds.record _⟩
  | poll => exact ⟨_, _, congrArg Prod.snd (operate_poll inner f identity), same⟩
  | requeue r => exact ⟨_, _, congrArg Prod.snd (operate_requeue inner f identity r), same⟩
  | hasSeen r => exact ⟨f, inner, rfl, same⟩

theorem holds_of_operateAll (identity : Request → String) {f : ExactFilter} {past : List String}
    (holds : f.Holds past) (inner : Layered S) (ops : List Operation) :
    ∃ (f' : ExactFilter) (inner' : Layered S),
      ((inner.remembering f identity).operateAll ops).2 = inner'.remembering f' identity ∧
      f'.Holds (past ++ Operation.identities identity ops) := by
  induction ops generalizing f past inner with
  | nil => exact ⟨f, inner, rfl, (List.append_nil past).symm ▸ holds⟩
  | cons o rest ih =>
    obtain ⟨f', inner', left, holds'⟩ := holds_of_operate identity holds inner o
    obtain ⟨f'', inner'', left', holds''⟩ := ih holds' inner'
    refine ⟨f'', inner'', ?_, ?_⟩
    · rw [operateAll_cons, left]
      exact left'
    · rw [List.append_assoc, ← Operation.identities_append] at holds''
      exact holds''

/-- What the polls among the operations handed out. -/
def handedOut (replies : List Reply) : List Request := replies.filterMap Reply.request?

@[simp] theorem handedOut_admitted (a : Admission) (replies : List Reply) :
    handedOut (.admitted a :: replies) = handedOut replies := rfl

@[simp] theorem handedOut_told (seen : Bool) (replies : List Reply) :
    handedOut (.told seen :: replies) = handedOut replies := rfl

theorem handedOut_polled (found : Option Request) (replies : List Reply) :
    handedOut (.handedOut found :: replies) = found.toList ++ handedOut replies := by
  cases found with
  | none => rfl
  | some r => rfl

theorem push_bare_queue (q : Queue) (r : Request) :
    Frontier.push (bare q) r = (.queued, bare (q.push r)) := rfl

theorem poll_bare_queue (q : Queue) : Frontier.poll (bare q) = (q.poll.1, bare q.poll.2) := rfl

/-- Without a way past the filter, what comes to a queue is accepted once for each identity. -/
theorem accepted_of_operateAll (f : ExactFilter) (q : Queue) {ops : List Operation}
    (filtered : ∀ o ∈ ops, o.passesBy = false) :
    ∃ accepted : List Request,
      (handedOut (((bare q).remembering f identity).operateAll ops).1 ++
        (((bare q).remembering f identity).operateAll ops).2.base.pending).Perm
          (q.pending ++ accepted) ∧
      (accepted.map identity).Nodup ∧ ∀ r ∈ accepted, identity r ∉ f.seen := by
  induction ops generalizing f q with
  | nil =>
    refine ⟨[], ?_, List.nodup_nil, fun r member => absurd member List.not_mem_nil⟩
    rw [List.append_nil]
    exact .refl _
  | cons o rest ih =>
    have filtered' : ∀ o ∈ rest, o.passesBy = false :=
      fun o h => filtered o (List.mem_cons_of_mem _ h)
    rw [operateAll_cons]
    cases o with
    | push r =>
      by_cases seen : identity r ∈ f.seen
      · rw [operate_push_of_seen (bare q) f identity r seen, handedOut_admitted]
        exact ih f q filtered'
      · rw [operate_push_of_unseen (bare q) f identity r seen,
          ExactFilter.record_of_unseen seen, handedOut_admitted, push_bare_queue]
        obtain ⟨accepted, perm, nodup, fresh⟩ := ih ⟨identity r :: f.seen⟩ (q.push r) filtered'
        refine ⟨r :: accepted, ?_, ?_, ?_⟩
        · rw [Queue.pending_push, List.append_assoc] at perm
          exact perm
        · -- The identity is recorded now, so none that is accepted later has it.
          rw [List.map_cons, List.nodup_cons]
          refine ⟨?_, nodup⟩
          intro twice
          obtain ⟨r', later, same⟩ := List.mem_map.mp twice
          exact fresh r' later (same ▸ List.mem_cons_self)
        · intro r' member
          rcases List.mem_cons.mp member with rfl | later
          · exact seen
          · exact fun old => fresh r' later (List.mem_cons_of_mem _ old)
    | poll =>
      obtain ⟨accepted, perm, nodup, fresh⟩ := ih f q.poll.2 filtered'
      refine ⟨accepted, ?_, nodup, fresh⟩
      have polled : q.pending.Perm (q.poll.1.toList ++ q.poll.2.pending) := pending_of_poll rfl
      rw [operate_poll, poll_bare_queue, handedOut_polled, List.append_assoc]
      refine (perm.append_left q.poll.1.toList).trans ?_
      rw [← List.append_assoc]
      exact polled.symm.append_right accepted
    | hasSeen r =>
      rw [operate_hasSeen (bare q) f identity r, handedOut_told]
      exact ih f q filtered'
    | force r => cases filtered _ List.mem_cons_self
    | requeue r => cases filtered _ List.mem_cons_self

/-- How a frontier answers whose exact filter was offered these identities, each to its push or to
its force. -/
structure Remembers (identity : Request → String) (past : List String) (f : ExactFilter)
    (inner : Layered S) : Prop where
  mem_iff : ∀ i, i ∈ f.seen ↔ i ∈ past
  size_eq : f.size = past.toFinset.card
  push_new : ∀ r, identity r ∉ past → (inner.remembering f identity).operate (.push r) =
    (.admitted (Frontier.push inner r).1,
      (Frontier.push inner r).2.remembering (f.record (identity r)) identity)
  push_old : ∀ r, identity r ∈ past → (inner.remembering f identity).operate (.push r) =
    (.admitted (.duplicate (identity r)), inner.remembering f identity)
  force : ∀ r, (inner.remembering f identity).operate (.force r) =
    (.admitted (Frontier.push inner r).1,
      (Frontier.push inner r).2.remembering (f.record (identity r)) identity)
  hasSeen : ∀ r, (inner.remembering f identity).operate (.hasSeen r) =
    (.told (decide (identity r ∈ past)), inner.remembering f identity)
  poll : (inner.remembering f identity).operate .poll =
    (.handedOut (Frontier.poll inner).1, (Frontier.poll inner).2.remembering f identity)
  requeue : ∀ r, (inner.remembering f identity).operate (.requeue r) =
    (.admitted (Frontier.requeue inner r).1, (Frontier.requeue inner r).2.remembering f identity)

theorem Remembers.of_holds {past : List String} {f : ExactFilter} (holds : f.Holds past)
    (inner : Layered S) : Remembers identity past f inner where
  mem_iff := holds.mem_iff
  size_eq := holds.size_eq
  push_new r unseen :=
    operate_push_of_unseen inner f identity r (fun h => unseen ((holds.mem_iff _).mp h))
  push_old r seen := operate_push_of_seen inner f identity r ((holds.mem_iff _).mpr seen)
  force := operate_force inner f identity
  hasSeen r := by
    rw [operate_hasSeen, decide_eq_decide.mpr (holds.mem_iff _)]
  poll := operate_poll inner f identity
  requeue := operate_requeue inner f identity

/-- After any operations the filter knows what was offered, and it decides every answer. Over an
empty queue, with no way past the filter, all polled requests differ in their identity. -/
theorem remembers_history (identity : Request → String) (ops : List Operation) :
    (∀ start : Layered S, ∃ (f : ExactFilter) (inner : Layered S),
      ((start.wrap (FilterLayer.exact.withIdentity identity)).operateAll ops).2 =
        inner.remembering f identity ∧
      Remembers identity (Operation.identities identity ops) f inner) ∧
    (∀ q : Queue, q.pending = [] → (∀ o ∈ ops, o.passesBy = false) →
      ((handedOut (((bare q).wrap (FilterLayer.exact.withIdentity identity)).operateAll ops).1).map
        identity).Nodup) := by
  constructor
  · intro start
    obtain ⟨f, inner, left, holds⟩ := holds_of_operateAll identity .empty start ops
    exact ⟨f, inner, left, .of_holds holds inner⟩
  · intro q nothing filtered
    obtain ⟨accepted, perm, nodup, -⟩ := accepted_of_operateAll .empty q filtered
    rw [nothing, List.nil_append] at perm
    have distinct := (perm.map identity).nodup_iff.mpr nodup
    rw [List.map_append] at distinct
    exact (List.nodup_append.mp distinct).1

/-- A request twice and another one once, and then more polls than there are requests. -/
def pushedTwice : List Operation :=
  [.push default, .push default, .push (Request.withMethod default .post), .poll, .poll, .poll]

theorem remembers_history_of_pushedTwice :
    (Queue.empty .lifo).pending = [] ∧ (∀ o ∈ pushedTwice, o.passesBy = false) ∧
      let polled := handedOut (((bare (Queue.empty .lifo)).wrap
        (FilterLayer.exact.withIdentity fun r => r.method.verb)).operateAll pushedTwice).1
      polled.length = 2 ∧ (polled.map fun r => r.method.verb).Nodup := by
  have filtered : ∀ o ∈ pushedTwice, o.passesBy = false := by
    simp [pushedTwice, Operation.passesBy]
  exact ⟨rfl, filtered, rfl,
    (remembers_history (S := Queue) (fun r => r.method.verb) pushedTwice).2 (.empty .lifo) rfl
      filtered⟩

end Layered

end WebCrawl
