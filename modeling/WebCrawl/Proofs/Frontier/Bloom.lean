import WebCrawl.Proofs.Frontier.Memory

/-!
# What a Bloom filter lets through

A queue under a Bloom filter and a queue under an exact one are given the same operations. The
Bloom filter takes every identity for seen that was offered to it, so it lets through at most what
the exact one lets through; it may also take a new identity for a seen one, and from there on the
two queues differ. Nothing is assumed of the positions at which an identity sets its bits.
-/

namespace WebCrawl

namespace BloomFilter

/-- The filter takes all of these identities for seen. -/
def Recalls (f : BloomFilter) (past : List String) : Prop := ∀ i ∈ past, f.isNew i = false

namespace Recalls

variable {f : BloomFilter} {past : List String}

theorem nil : f.Recalls [] := fun _ member => absurd member List.not_mem_nil

theorem again (h : f.Recalls past) {i : String} (seen : f.isNew i = false) :
    f.Recalls (past ++ [i]) := by
  intro j member
  rcases List.mem_append.mp member with old | last
  · exact h j old
  · rw [List.mem_singleton.mp last]
    exact seen

theorem record (h : f.Recalls past) (i : String) : (f.record i).Recalls (past ++ [i]) := by
  have kept : (f.record i).Recalls past := fun j old => isNew_record_of_seen (h j old) i
  exact kept.again (isNew_record_self f i)

end Recalls

end BloomFilter

namespace Layered

namespace Operation

def isForce : Operation → Bool
  | force _ => true
  | _ => false

/-- A push that got through to a queue, which accepts whatever gets through to it. -/
def getsThrough : Operation → Reply → Bool
  | push _, .admitted a => a.accepted
  | _, _ => false

/-- What an operation puts into the queue, in view of its reply. -/
def broughtIn : Operation → Reply → List Request
  | push r, .admitted a => a.added r
  | force r, .admitted a => a.added r
  | requeue r, .admitted a => a.added r
  | _, _ => []

end Operation

def broughtIn (ops : List Operation) (replies : List Reply) : List Request :=
  (List.zipWith Operation.broughtIn ops replies).flatten

theorem broughtIn_cons (o : Operation) (ops : List Operation) (reply : Reply)
    (replies : List Reply) :
    broughtIn (o :: ops) (reply :: replies) = o.broughtIn reply ++ broughtIn ops replies := rfl

def passedThrough (ops : List Operation) (replies : List Reply) : Nat :=
  (ops.zip replies).countP fun p => p.1.getsThrough p.2

theorem passedThrough_cons (o : Operation) (ops : List Operation) (reply : Reply)
    (replies : List Reply) : passedThrough (o :: ops) (reply :: replies) =
      passedThrough ops replies + (o.getsThrough reply).toNat :=
  countP_cons_toNat _ _ _

theorem handedOut_cons (reply : Reply) (replies : List Reply) :
    handedOut (reply :: replies) = reply.request?.toList ++ handedOut replies := by
  cases reply with
  | handedOut found => exact handedOut_polled found replies
  | _ => rfl

section order

variable {s : Layered Queue}

theorem order_pushThrough (r : Request) (layers : List FilterLayer) (q : Queue) :
    (pushThrough r layers q).2.2.order = q.order := by
  induction layers with
  | nil => rfl
  | cons l layers ih =>
    simp only [pushThrough]
    split
    · exact ih
    · rfl

theorem order_operate (s : Layered Queue) (o : Operation) :
    (s.operate o).2.base.order = s.base.order := by
  cases o with
  | push r => exact order_pushThrough r s.layers s.base
  | force r =>
    obtain ⟨layers, q⟩ := s
    cases layers with
    | nil => rfl
    | cons l layers => exact order_pushThrough r layers q
  | poll => exact s.base.order_poll
  | requeue r => rfl
  | hasSeen r => rfl

theorem pending_force (s : Layered Queue) (r : Request) :
    (s.force r).2.base.pending = s.base.pending ++ (s.force r).1.added r := by
  obtain ⟨layers, q⟩ := s
  cases layers with
  | nil => rfl
  | cons l layers => exact pending_pushThrough r layers q

theorem pending_of_poll_fifo (fifo : s.base.order = .fifo) :
    (Frontier.poll s).1.toList ++ (Frontier.poll s).2.base.pending = s.base.pending := by
  obtain ⟨layers, pending, order⟩ := s
  cases fifo
  cases pending with
  | nil => rfl
  | cons r rest => rfl

theorem line_of_operate (fifo : s.base.order = .fifo) (o : Operation) :
    (s.operate o).1.request?.toList ++ (s.operate o).2.base.pending =
      s.base.pending ++ o.broughtIn (s.operate o).1 := by
  cases o with
  | push r => exact pending_pushThrough r s.layers s.base
  | force r => exact pending_force s r
  | poll => exact (pending_of_poll_fifo fifo).trans (List.append_nil _).symm
  | requeue r => rfl
  | hasSeen r => exact (List.append_nil _).symm

theorem line_of_operateAll (fifo : s.base.order = .fifo) (ops : List Operation) :
    handedOut (s.operateAll ops).1 ++ (s.operateAll ops).2.base.pending =
      s.base.pending ++ broughtIn ops (s.operateAll ops).1 := by
  induction ops generalizing s with
  | nil => exact (List.append_nil _).symm
  | cons o rest ih =>
    have later := ih ((order_operate s o).trans fifo)
    rw [operateAll_cons, handedOut_cons, broughtIn_cons, List.append_assoc, later,
      ← List.append_assoc, line_of_operate fifo, List.append_assoc]

theorem order_operateAll (s : Layered Queue) (ops : List Operation) :
    (s.operateAll ops).2.base.order = s.base.order := by
  induction ops generalizing s with
  | nil => rfl
  | cons o rest ih => exact (ih (s.operate o).2).trans (order_operate s o)

theorem drain_fifo (fifo : s.base.order = .fifo) : (Frontier.drain s).1 = s.base.pending := by
  obtain ⟨layers, pending, order⟩ := s
  cases fifo
  induction pending with
  | nil => rfl
  | cons r rest ih => exact congrArg (r :: ·) ih

end order

/-- The frontier inside, under a Bloom filter. -/
def estimating {S : Type} (inner : Layered S) (f : BloomFilter) (identity : Request → String) :
    Layered S :=
  inner.wrap ⟨.bloom f, identity⟩

section estimating

variable {identity : Request → String} {f : BloomFilter} {past : List String}

theorem operate_push_of_taken_for_seen (q : Queue) (r : Request)
    (seen : f.isNew (identity r) = false) :
    ((bare q).estimating f identity).operate (.push r) =
      (.admitted (.duplicate (identity r)), (bare q).estimating f identity) :=
  operate_wrap_push_of_seen (bare q) ⟨.bloom f, identity⟩ r seen

theorem operate_push_of_taken_for_new (q : Queue) (r : Request)
    (new : f.isNew (identity r) = true) :
    ((bare q).estimating f identity).operate (.push r) = (.admitted .queued,
      (bare (q.push r)).estimating (f.record (identity r)) identity) :=
  operate_wrap_push_of_new (bare q) ⟨.bloom f, identity⟩ r new

theorem recalls_of_operate (identity : Request → String) (recalls : f.Recalls past) (q : Queue)
    (o : Operation) :
    ∃ (f' : BloomFilter) (q' : Queue),
      (((bare q).estimating f identity).operate o).2 = (bare q').estimating f' identity ∧
      f'.Recalls (past ++ Operation.identities identity [o]) ∧
      f'.recorded = f.recorded +
        (o.getsThrough (((bare q).estimating f identity).operate o).1).toNat +
          o.isForce.toNat := by
  have same : f.Recalls (past ++ []) := (List.append_nil past).symm ▸ recalls
  cases o with
  | push r =>
    cases seen : f.isNew (identity r) with
    | false =>
      rw [operate_push_of_taken_for_seen q r seen]
      exact ⟨f, q, rfl, recalls.again seen, rfl⟩
    | true =>
      rw [operate_push_of_taken_for_new q r seen]
      exact ⟨f.record (identity r), q.push r, rfl, recalls.record _, rfl⟩
  | force r => exact ⟨f.record (identity r), q.push r, rfl, recalls.record _, rfl⟩
  | poll => exact ⟨f, q.poll.2, rfl, same, rfl⟩
  | requeue r => exact ⟨f, q.push r, rfl, same, rfl⟩
  | hasSeen r => exact ⟨f, q, rfl, same, rfl⟩

theorem recalls_of_operateAll (identity : Request → String) (recalls : f.Recalls past) (q : Queue)
    (ops : List Operation) :
    ∃ (f' : BloomFilter) (q' : Queue),
      (((bare q).estimating f identity).operateAll ops).2 = (bare q').estimating f' identity ∧
      f'.Recalls (past ++ Operation.identities identity ops) ∧
      f'.recorded = f.recorded +
        passedThrough ops (((bare q).estimating f identity).operateAll ops).1 +
          ops.countP Operation.isForce := by
  induction ops generalizing f past q with
  | nil => exact ⟨f, q, rfl, (List.append_nil past).symm ▸ recalls, rfl⟩
  | cons o rest ih =>
    obtain ⟨f', q', left, recalls', recorded⟩ := recalls_of_operate identity recalls q o
    obtain ⟨f'', q'', left', recalls'', recorded'⟩ := ih recalls' q'
    rw [← left] at left' recorded'
    refine ⟨f'', q'', left', ?_, ?_⟩
    · rwa [List.append_assoc, ← Operation.identities_append] at recalls''
    · rw [operateAll_cons, passedThrough_cons, countP_cons_toNat]
      omega

end estimating

section layers

variable {S : Type} [Frontier S]

theorem length_pushThrough (r : Request) (layers : List FilterLayer) (base : S) :
    (pushThrough r layers base).2.1.length = layers.length := by
  induction layers with
  | nil => rfl
  | cons l layers ih =>
    simp only [pushThrough]
    split
    · exact congrArg (· + 1) ih
    · rfl

theorem length_layers_operate (s : Layered S) (o : Operation) :
    (s.operate o).2.layers.length = s.layers.length := by
  cases o with
  | push r => exact length_pushThrough r s.layers s.base
  | force r =>
    obtain ⟨layers, base⟩ := s
    cases layers with
    | nil => rfl
    | cons l layers => exact congrArg (· + 1) (length_pushThrough r layers base)
  | _ => rfl

theorem length_layers_operateAll (s : Layered S) (ops : List Operation) :
    (s.operateAll ops).2.layers.length = s.layers.length := by
  induction ops generalizing s with
  | nil => rfl
  | cons o rest ih => exact (ih (s.operate o).2).trans (length_layers_operate s o)

omit [Frontier S] in
theorem eq_bare_of_length {inner : Layered S} {e : ExactFilter} {identity : Request → String}
    (single : (inner.remembering e identity).layers.length = 1) : inner = bare inner.base := by
  obtain ⟨layers, base⟩ := inner
  have none_left : layers = [] := List.length_eq_zero_iff.mp (Nat.succ.inj single)
  rw [none_left]
  rfl

end layers

section both

variable {f : BloomFilter} {e : ExactFilter} {past : List String}

theorem holds_of_operate_queue (identity : Request → String) (holds : e.Holds past) (q : Queue)
    (o : Operation) :
    ∃ (e' : ExactFilter) (q' : Queue),
      (((bare q).remembering e identity).operate o).2 = (bare q').remembering e' identity ∧
      e'.Holds (past ++ Operation.identities identity [o]) := by
  obtain ⟨e', inner, left, holds'⟩ := holds_of_operate identity holds (bare q) o
  have single := length_layers_operate ((bare q).remembering e identity) o
  rw [left] at single
  exact ⟨e', inner.base, by rw [left, ← eq_bare_of_length single], holds'⟩

theorem unseen_of_isNew (recalls : f.Recalls past) (holds : e.Holds past) {i : String}
    (new : f.isNew i = true) : i ∉ e.seen := by
  intro seen
  rw [recalls i ((holds.mem_iff i).mp seen)] at new
  cases new

theorem broughtIn_sublist_of_operate (identity : Request → String) (recalls : f.Recalls past)
    (holds : e.Holds past) (q q' : Queue) (o : Operation) :
    (o.broughtIn (((bare q).estimating f identity).operate o).1).Sublist
      (o.broughtIn (((bare q').remembering e identity).operate o).1) := by
  cases o with
  | push r =>
    cases new : f.isNew (identity r) with
    | false =>
      rw [operate_push_of_taken_for_seen q r new]
      exact List.nil_sublist _
    | true =>
      rw [operate_push_of_taken_for_new q r new,
        operate_push_of_unseen (bare q') e identity r (unseen_of_isNew recalls holds new)]
      exact .refl _
  | _ => exact .refl _

/-- Whatever comes into the queue under the Bloom filter comes into the other one as well, in the
same order. -/
theorem broughtIn_sublist (identity : Request → String) (recalls : f.Recalls past)
    (holds : e.Holds past) (q q' : Queue) (ops : List Operation) :
    (broughtIn ops (((bare q).estimating f identity).operateAll ops).1).Sublist
      (broughtIn ops (((bare q').remembering e identity).operateAll ops).1) := by
  induction ops generalizing f e past q q' with
  | nil => exact .refl _
  | cons o rest ih =>
    have first := broughtIn_sublist_of_operate identity recalls holds q q' o
    obtain ⟨f₁, q₁, left, recalls₁, -⟩ := recalls_of_operate identity recalls q o
    obtain ⟨e₁, q₁', left', holds₁⟩ := holds_of_operate_queue identity holds q' o
    rw [operateAll_cons, operateAll_cons, broughtIn_cons, broughtIn_cons, left, left']
    exact first.append (ih recalls₁ holds₁ q₁ q₁')

theorem accepted_push_queue (q : Queue) (l : FilterLayer) (r : Request) :
    (Frontier.push ((bare q).wrap l) r).1.accepted = l.isNew r := by
  cases new : l.isNew r with
  | false => exact congrArg (Admission.accepted ·.1) (push_wrap_of_seen (s := bare q) new)
  | true => exact congrArg (Admission.accepted ·.1) (push_wrap_of_new (s := bare q) new)

/-- How a queue under a Bloom filter fares, next to one under an exact filter that was used in the
same way. Given are the replies so far, and what there is now. -/
structure Underaccepts (identity : Request → String) (ops : List Operation)
    (bloom exact : List Reply × Layered Queue) : Prop where
  /-- What was offered once is not let through again. -/
  push_old : ∀ r, identity r ∈ Operation.identities identity ops →
    Frontier.push bloom.2 r = (.duplicate (identity r), bloom.2)
  accepted : ∀ r, (Frontier.push bloom.2 r).1.accepted = true →
    (Frontier.push exact.2 r).1.accepted = true
  recorded : ∃ (f : BloomFilter) (q : Queue), bloom.2 = (bare q).estimating f identity ∧
    f.recorded = passedThrough ops bloom.1 + ops.countP Operation.isForce
  broughtIn : (broughtIn ops bloom.1).Sublist (Layered.broughtIn ops exact.1)

/-- The replies of a queue under a filter that is empty at first, and what there is then. -/
def filtered (order : PollOrder) (l : FilterLayer) (identity : Request → String)
    (ops : List Operation) : List Reply × Layered Queue :=
  ((bare (.empty order)).wrap (l.withIdentity identity)).operateAll ops

theorem underaccepts_filtered (order : PollOrder) (identity : Request → String) (expected : Nat)
    (rate : Float) (positions : String → List Nat) (ops : List Operation) :
    Underaccepts identity ops
      (filtered order (.bloom (.blank expected rate positions)) identity ops)
      (filtered order .exact identity ops) := by
  have blank : (BloomFilter.blank expected rate positions).Recalls [] := .nil
  obtain ⟨f, q, left, recalls, recorded⟩ :=
    recalls_of_operateAll identity blank (.empty order) ops
  obtain ⟨e, inner, left', holds⟩ :=
    holds_of_operateAll identity .empty (bare (Queue.empty order)) ops
  have single :=
    length_layers_operateAll ((bare (Queue.empty order)).remembering .empty identity) ops
  rw [left'] at single
  have bloom : (filtered order (.bloom (.blank expected rate positions)) identity ops).2 =
      (bare q).estimating f identity := left
  have exact_left : (filtered order .exact identity ops).2 =
      (bare inner.base).remembering e identity := by
    rw [← eq_bare_of_length single]
    exact left'
  refine ⟨?_, ?_, ⟨f, q, left, ?_⟩, ?_⟩
  · intro r old
    rw [bloom]
    exact push_wrap_of_seen (recalls _ old)
  · intro r accepted
    rw [bloom, estimating, accepted_push_queue] at accepted
    rw [exact_left, remembering, accepted_push_queue]
    exact isNew_exact_of_unseen (unseen_of_isNew recalls holds accepted)
  · exact recorded.trans (congrArg (· + _) (Nat.zero_add _))
  · exact broughtIn_sublist identity blank .empty (.empty order) (.empty order) ops

theorem drained_filtered (l : FilterLayer) (identity : Request → String) (ops : List Operation) :
    handedOut (filtered .fifo l identity ops).1 ++
        (Frontier.drain (filtered .fifo l identity ops).2).1 =
      broughtIn ops (filtered .fifo l identity ops).1 := by
  have fifo : (filtered .fifo l identity ops).2.base.order = .fifo := order_operateAll _ ops
  rw [drain_fifo fifo]
  exact line_of_operateAll rfl ops

/-- Whatever positions the identities have, a Bloom filter lets through nothing twice and nothing
that an exact filter would not let through, and it counts what it recorded. If the queues are polled
from their front, what comes out under the Bloom filter is part of what comes out under the exact
one, in the same order. -/
theorem bloom_underaccepts (identity : Request → String) (expected : Nat) (rate : Float)
    (positions : String → List Nat) (ops : List Operation) :
    let bloom order := filtered order (.bloom (.blank expected rate positions)) identity ops
    let exact order := filtered order .exact identity ops
    (∀ order, Underaccepts identity ops (bloom order) (exact order)) ∧
      (handedOut (bloom .fifo).1 ++ (Frontier.drain (bloom .fifo).2).1).Sublist
        (handedOut (exact .fifo).1 ++ (Frontier.drain (exact .fifo).2).1) := by
  intro bloom exact
  have under : ∀ order, Underaccepts identity ops (bloom order) (exact order) :=
    fun order => underaccepts_filtered order identity expected rate positions ops
  refine ⟨under, ?_⟩
  rw [drained_filtered, drained_filtered]
  exact (under .fifo).broughtIn

/-- Two targets whose bits are the same: the second one is lost. -/
example :
    let ops := ["a", "b"].map fun scheme => .push (.ofUrl ⟨scheme, none, "", none, none⟩)
    let came l := broughtIn ops (filtered .fifo l (·.url.scheme) ops).1
    (came .exact).length = 2 ∧
      (came (.bloom (.blank 500 0.01 fun _ => [0, 7]))).length = 1 := by
  decide

end both

end Layered

end WebCrawl
