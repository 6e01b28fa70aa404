import Mathlib.Data.Multiset.AddSub
import WebCrawl.Proofs.Frontier.Listed

/-!
# Whose turn it is in a queue

A queue that was empty at first, or was collected from a list, is pushed to, extended, given
requests back and polled in any order. It is compared with a ledger of everything that was ever put
in: the requests are numbered as they came, and the numbers of those that were handed out are kept.
The turn is that of the lowest number that was not handed out, or of the highest, and a poll hands
out the request whose turn it is.
-/

namespace WebCrawl

namespace Queue

inductive Operation where
  | push (r : Request)
  | requeue (r : Request)
  | extend (rs : List Request)
  | poll

def Operation.brought : Operation → List Request
  | push r => [r]
  | requeue r => [r]
  | extend rs => rs
  | poll => []

def operate (q : Queue) : Operation → Option Request × Queue
  | .push r => (none, (Frontier.push q r).2)
  | .requeue r => (none, (Frontier.requeue q r).2)
  | .extend rs => (none, q.extend rs)
  | .poll => Frontier.poll q

def operateAll (q : Queue) : List Operation → List Request × Queue
  | [] => ([], q)
  | o :: rest =>
    let (found, q) := q.operate o
    let (later, q) := operateAll q rest
    (found.toList ++ later, q)

/-- How a queue comes about. -/
inductive Origin where
  | empty (order : PollOrder)
  | collected (rs : List Request)

namespace Origin

def queue : Origin → Queue
  | empty order => .empty order
  | collected rs => .ofList rs

def brought : Origin → List Request
  | empty _ => []
  | collected rs => rs

/-- A queue that was collected is polled from its front. -/
def order : Origin → PollOrder
  | empty order => order
  | collected _ => .fifo

theorem pending_queue (origin : Origin) : origin.queue.pending = origin.brought := by
  cases origin with
  | empty order => rfl
  | collected rs => exact pending_extend (.empty .fifo) rs

theorem order_queue (origin : Origin) : origin.queue.order = origin.order := by
  cases origin with
  | empty order => rfl
  | collected rs => exact order_extend (.empty .fifo) rs

end Origin

theorem operate_of_not_poll (q : Queue) {o : Operation} (puts : o ≠ .poll) :
    q.operate o = (none, { q with pending := q.pending ++ o.brought }) := by
  cases o with
  | extend rs => exact congrArg (Prod.mk none) (extend_eq q rs)
  | poll => exact absurd rfl puts
  | _ => rfl

@[simp] theorem order_operate (q : Queue) (o : Operation) : (q.operate o).2.order = q.order := by
  by_cases polls : o = .poll
  · subst polls
    exact order_poll q
  · rw [operate_of_not_poll q polls]

@[simp] theorem order_operateAll (q : Queue) (ops : List Operation) :
    (q.operateAll ops).2.order = q.order := by
  induction ops generalizing q with
  | nil => rfl
  | cons o rest ih => exact (ih (q.operate o).2).trans (q.order_operate o)

/-! ## Nothing is lost or doubled -/

theorem perm_operate (q : Queue) (o : Operation) :
    (q.pending ++ o.brought).Perm ((q.operate o).1.toList ++ (q.operate o).2.pending) := by
  by_cases polls : o = .poll
  · subst polls
    rw [Operation.brought, List.append_nil]
    exact pending_of_poll rfl
  · rw [operate_of_not_poll q polls]
    exact .refl _

theorem perm_operateAll (q : Queue) (ops : List Operation) :
    (q.pending ++ ops.flatMap Operation.brought).Perm
      ((q.operateAll ops).1 ++ (q.operateAll ops).2.pending) := by
  induction ops generalizing q with
  | nil => simp [operateAll]
  | cons o rest ih =>
    have first := (q.perm_operate o).append_right (rest.flatMap Operation.brought)
    have later := (ih (q.operate o).2).append_left (q.operate o).1.toList
    rw [List.append_assoc, List.append_assoc] at first
    rw [← List.append_assoc _ (operateAll _ rest).1] at later
    exact first.trans later

theorem fifo_operate (q : Queue) (o : Operation) (fifo : q.order = .fifo) :
    q.pending ++ o.brought = (q.operate o).1.toList ++ (q.operate o).2.pending := by
  by_cases polls : o = .poll
  · subst polls
    obtain ⟨pending, order⟩ := q
    cases fifo
    cases pending with
    | nil => rfl
    | cons r rest => exact List.append_nil _
  · rw [operate_of_not_poll q polls]
    rfl

theorem fifo_operateAll (q : Queue) (ops : List Operation) (fifo : q.order = .fifo) :
    q.pending ++ ops.flatMap Operation.brought =
      (q.operateAll ops).1 ++ (q.operateAll ops).2.pending := by
  induction ops generalizing q with
  | nil => exact List.append_nil _
  | cons o rest ih =>
    have later := ih (q.operate o).2 ((q.order_operate o).trans fifo)
    rw [List.flatMap_cons, ← List.append_assoc, q.fifo_operate o fifo, List.append_assoc, later,
      ← List.append_assoc]
    rfl

/-! ## The ledger -/

/-- Everything that was put in, and the numbers of what was handed out in the order of the polls. -/
structure Ledger where
  put : List Request
  served : List Nat

namespace Ledger

/-- The numbers of the requests that have not been handed out. -/
def waiting (l : Ledger) : List Nat := (List.range l.put.length).filter (· ∉ l.served)

/-- The number whose turn it is: that of the oldest waiting request or that of the newest. -/
def turn (l : Ledger) : PollOrder → Option Nat
  | .fifo => l.waiting.min?
  | .lifo => l.waiting.max?

/-- Enters what is put in, and at a poll the number whose turn it is. -/
def enter (order : PollOrder) (l : Ledger) : Operation → Ledger
  | .poll => { l with served := l.served ++ (l.turn order).toList }
  | o => { l with put := l.put ++ o.brought }

def enterAll (order : PollOrder) (l : Ledger) (ops : List Operation) : Ledger :=
  ops.foldl (enter order) l

theorem enter_of_not_poll (order : PollOrder) (l : Ledger) {o : Operation} (puts : o ≠ .poll) :
    l.enter order o = { l with put := l.put ++ o.brought } := by
  cases o with
  | poll => exact absurd rfl puts
  | _ => rfl

theorem put_enterAll (order : PollOrder) (l : Ledger) (ops : List Operation) :
    (l.enterAll order ops).put = l.put ++ ops.flatMap Operation.brought := by
  induction ops generalizing l with
  | nil => exact (List.append_nil _).symm
  | cons o rest ih =>
    have one : (l.enter order o).put = l.put ++ o.brought := by
      cases o <;> simp [enter, Operation.brought]
    rw [List.flatMap_cons, ← List.append_assoc, ← one]
    exact ih _

theorem max?_of_pairwise {ks : List Nat} (sorted : ks.Pairwise (· < ·)) :
    ks.max? = ks.getLast? := by
  rcases List.eq_nil_or_concat ks with rfl | ⟨rest, k, rfl⟩
  · rfl
  · rw [List.concat_eq_append] at sorted ⊢
    rw [List.getLast?_concat]
    refine List.max?_eq_some_iff.mpr ⟨by simp, ?_⟩
    intro i mem
    rcases List.mem_append.mp mem with earlier | last
    · exact Nat.le_of_lt ((List.pairwise_append.mp sorted).2.2 i earlier k (by simp))
    · exact Nat.le_of_eq (List.mem_singleton.mp last)

theorem pairwise_waiting (l : Ledger) : l.waiting.Pairwise (· < ·) :=
  List.pairwise_lt_range.filter _

theorem waiting_serve (l : Ledger) (k : Nat) :
    waiting { l with served := l.served ++ [k] } = l.waiting.filter (· ≠ k) := by
  rw [waiting, waiting, List.filter_filter]
  congr 1
  funext i
  simp [and_comm]

theorem waiting_put {l : Ledger} (known : ∀ k ∈ l.served, k < l.put.length) (rs : List Request) :
    waiting { l with put := l.put ++ rs } =
      l.waiting ++ List.range' l.put.length rs.length := by
  have new : (List.range' l.put.length rs.length).filter (· ∉ l.served) =
      List.range' l.put.length rs.length := by
    refine List.filter_eq_self.mpr fun k mem => decide_eq_true fun served => ?_
    have behind := (List.mem_range'_1.mp mem).1
    have before := known k served
    omega
  rw [waiting, waiting, List.length_append, List.range_eq_range', ← List.range'_append_1,
    List.filter_append, Nat.zero_add, new, ← List.range_eq_range']

end Ledger

/-- A queue and a ledger of it: the queue holds the waiting requests in the order of their numbers,
and what was handed out is what the ledger says was served. -/
structure Follows (q : Queue) (out : List Request) (l : Ledger) : Prop where
  known : ∀ k ∈ l.served, k < l.put.length
  once : l.served.Nodup
  pending : q.pending.map some = l.waiting.map (l.put[·]?)
  handedOut : out.map some = l.served.map (l.put[·]?)

namespace Follows

variable {q : Queue} {out : List Request} {l : Ledger}

theorem start (q : Queue) : q.Follows [] ⟨q.pending, []⟩ where
  known k mem := absurd mem List.not_mem_nil
  once := List.nodup_nil
  pending := by
    apply List.ext_getElem?
    intro i
    by_cases i < q.pending.length <;> simp [Ledger.waiting, *]
  handedOut := rfl

theorem put (h : q.Follows out l) (rs : List Request) :
    Follows { q with pending := q.pending ++ rs } out { l with put := l.put ++ rs } := by
  have same (ks : List Nat) (known : ∀ k ∈ ks, k < l.put.length) :
      ks.map ((l.put ++ rs)[·]?) = ks.map (l.put[·]?) :=
    List.map_congr_left fun k mem => List.getElem?_append_left (known k mem)
  have waiting : ∀ k ∈ l.waiting, k < l.put.length := fun k mem =>
    List.mem_range.mp (List.mem_filter.mp mem).1
  have new : (List.range' l.put.length rs.length).map ((l.put ++ rs)[·]?) = rs.map some := by
    apply List.ext_getElem?
    intro i
    by_cases i < rs.length <;> simp [*]
  refine ⟨fun k mem => ?_, h.once, ?_, ?_⟩
  · have bound := h.known k mem
    simp only [List.length_append]
    omega
  · rw [Ledger.waiting_put h.known, List.map_append, List.map_append, same _ waiting, new,
      h.pending]
  · rw [same _ h.known, h.handedOut]

theorem dry (h : q.Follows out l) (none : l.waiting = []) :
    q.poll = (.none, q) ∧ l.turn q.order = .none := by
  have empty : q.pending = [] := List.map_eq_nil_iff.mp (h.pending.trans (by rw [none]; rfl))
  obtain ⟨pending, order⟩ := q
  cases empty
  cases order <;> simp [poll, Ledger.turn, none]

theorem serve (h : q.Follows out l) {k : Nat} {r : Request} {rest : List Request}
    (waits : k ∈ l.waiting) (request : l.put[k]? = some r)
    (others : rest.map some = (l.waiting.filter (· ≠ k)).map (l.put[·]?)) :
    Follows { q with pending := rest } (out ++ [r]) { l with served := l.served ++ [k] } := by
  obtain ⟨inside, unserved⟩ := List.mem_filter.mp waits
  refine ⟨?_, ?_, others.trans (by rw [Ledger.waiting_serve]), ?_⟩
  · exact List.forall_mem_append.mpr
      ⟨h.known, List.forall_mem_singleton.mpr (List.mem_range.mp inside)⟩
  · exact List.nodup_append.mpr ⟨h.once, List.nodup_singleton k, fun i served j mem same =>
      of_decide_eq_true unserved (List.mem_singleton.mp mem ▸ same ▸ served)⟩
  · rw [List.map_append, List.map_append, h.handedOut, List.map_singleton, List.map_singleton,
      request]

theorem poll_fifo (h : q.Follows out l) (fifo : q.order = .fifo) :
    q.poll.1 = (l.turn .fifo).bind (l.put[·]?) ∧
      q.poll.2.Follows (out ++ q.poll.1.toList) (l.enter .fifo .poll) := by
  obtain ⟨pending, order⟩ := q
  cases fifo
  cases waiting : l.waiting with
  | nil =>
    obtain ⟨polled, turn⟩ := h.dry waiting
    rw [polled, Ledger.enter, turn]
    simpa using h
  | cons k rest =>
    have sorted := l.pairwise_waiting
    have turn : l.turn .fifo = some k := by
      have lowest : l.waiting.min? = l.waiting.head? :=
        List.min?_eq_head? (sorted.imp fun lt => Nat.min_eq_left (Nat.le_of_lt lt))
      rw [Ledger.turn, lowest, waiting]
      rfl
    have listed := h.pending
    rw [waiting] at listed sorted
    obtain ⟨r, rs, rfl, request, others⟩ := List.map_eq_cons_iff.mp listed
    have apart : ∀ i ∈ rest, decide (i ≠ k) = true := fun i mem =>
      decide_eq_true (Nat.ne_of_gt (List.rel_of_pairwise_cons sorted mem))
    rw [Ledger.enter, turn]
    refine ⟨request, h.serve (by simp [waiting]) request.symm ?_⟩
    rw [waiting, List.filter_cons_of_neg (by simp), List.filter_eq_self.mpr apart, others]

theorem poll_lifo (h : q.Follows out l) (lifo : q.order = .lifo) :
    q.poll.1 = (l.turn .lifo).bind (l.put[·]?) ∧
      q.poll.2.Follows (out ++ q.poll.1.toList) (l.enter .lifo .poll) := by
  obtain ⟨pending, order⟩ := q
  cases lifo
  rcases List.eq_nil_or_concat l.waiting with none | ⟨rest, k, waiting⟩
  · obtain ⟨polled, turn⟩ := h.dry none
    rw [polled, Ledger.enter, turn]
    simpa using h
  · rw [List.concat_eq_append] at waiting
    have sorted := l.pairwise_waiting
    have turn : l.turn .lifo = some k := by
      rw [Ledger.turn, Ledger.max?_of_pairwise sorted, waiting, List.getLast?_concat]
    have listed := h.pending
    rw [waiting] at listed sorted
    rw [List.map_append] at listed
    obtain ⟨rs, last, rfl, others, one⟩ := List.map_eq_append_iff.mp listed
    obtain ⟨r, rfl, request⟩ := List.map_eq_singleton_iff.mp one
    have apart : ∀ i ∈ rest, decide (i ≠ k) = true := fun i mem =>
      decide_eq_true (Nat.ne_of_lt ((List.pairwise_append.mp sorted).2.2 i mem k (by simp)))
    have polled : poll ⟨rs ++ [r], .lifo⟩ = (some r, ⟨rs, .lifo⟩) := by simp [poll]
    rw [polled, Ledger.enter, turn]
    refine ⟨request, h.serve (by simp [waiting]) request.symm ?_⟩
    rw [waiting, List.filter_append, List.filter_eq_self.mpr apart, others]
    simp

theorem polled (h : q.Follows out l) :
    q.poll.1 = (l.turn q.order).bind (l.put[·]?) ∧
      q.poll.2.Follows (out ++ q.poll.1.toList) (l.enter q.order .poll) := by
  cases order : q.order with
  | fifo => exact h.poll_fifo order
  | lifo => exact h.poll_lifo order

theorem operate (h : q.Follows out l) (o : Operation) :
    (q.operate o).2.Follows (out ++ (q.operate o).1.toList) (l.enter q.order o) := by
  by_cases polls : o = .poll
  · subst polls
    exact h.polled.2
  · rw [operate_of_not_poll q polls, Ledger.enter_of_not_poll q.order l polls, Option.toList_none,
      List.append_nil]
    exact h.put o.brought

theorem operateAll (h : q.Follows out l) (ops : List Operation) :
    (q.operateAll ops).2.Follows (out ++ (q.operateAll ops).1) (l.enterAll q.order ops) := by
  induction ops generalizing q out l with
  | nil => simpa [Queue.operateAll, Ledger.enterAll] using h
  | cons o rest ih =>
    have later := ih (h.operate o)
    rw [order_operate, List.append_assoc] at later
    exact later

end Follows

/-- A queue may be used in any way, and it is nevertheless known at every moment what is in it and
whose turn it is. The requests that were put in, be it when the queue was made, are those that were
handed out together with those that are pending, each as often, and a poll finds nothing just when
nothing is pending. If the queue is polled from its front, then what was handed out is a prefix of
what was put in, and the rest is pending in that order. In either order the pending requests stand
in the order of their numbers, and the next poll hands out the one whose turn it is: from the front
the oldest that was not handed out, and from the back the newest. -/
theorem hands_out_each_once (origin : Origin) (ops : List Operation) :
    let put := origin.brought ++ ops.flatMap Operation.brought
    let (out, after) := origin.queue.operateAll ops
    let ledger := (Ledger.mk origin.brought []).enterAll origin.order ops
    (put : Multiset Request) = out + after.pending ∧
      Frontier.size after = Multiset.card (after.pending : Multiset Request) ∧
      ((Frontier.poll after).1 = none ↔ (after.pending : Multiset Request) = 0) ∧
      (origin.order = .fifo → put = out ++ after.pending) ∧
      ledger.put = put ∧ ledger.served.Nodup ∧
      out.map some = ledger.served.map (put[·]?) ∧
      after.pending.map some = ledger.waiting.map (put[·]?) ∧
      (Frontier.poll after).1 = (ledger.turn origin.order).bind (put[·]?) := by
  rw [← origin.pending_queue, ← origin.order_queue]
  generalize origin.queue = q
  have follows := (Follows.start q).operateAll ops
  have entered := Ledger.put_enterAll q.order ⟨q.pending, []⟩ ops
  have polled := follows.polled.1
  have once := follows.once
  have pending := follows.pending
  have handedOut := follows.handedOut
  rw [order_operateAll] at polled
  rw [entered] at pending handedOut polled
  refine ⟨Multiset.coe_eq_coe.mpr (q.perm_operateAll ops), rfl, ?_, q.fifo_operateAll ops, entered,
    once, handedOut, pending, polled⟩
  exact (poll_eq_none_iff _).trans (Multiset.coe_eq_zero _).symm

end Queue

end WebCrawl
