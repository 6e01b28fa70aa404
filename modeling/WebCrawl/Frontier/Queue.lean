import WebCrawl.Frontier.Basic

/-!
# Queues

An unbounded queue in memory, polled from its front or from its back. The pending requests are
listed in the order in which they were put in.
-/

namespace WebCrawl

inductive PollOrder where
  /-- Breadth first: the oldest request comes first. -/
  | fifo
  /-- Depth first: the newest request comes first. -/
  | lifo
  deriving Repr, DecidableEq, Inhabited

namespace PollOrder

def name : PollOrder → String
  | .fifo => "fifo"
  | .lifo => "lifo"

def title : PollOrder → String
  | .fifo => "Fifo"
  | .lifo => "Lifo"

end PollOrder

structure Queue where
  pending : List Request
  order : PollOrder
  deriving Inhabited

namespace Queue

def empty (order : PollOrder) : Queue := ⟨[], order⟩

def push (q : Queue) (r : Request) : Queue := { q with pending := q.pending ++ [r] }

def extend (q : Queue) (rs : List Request) : Queue := rs.foldl push q

def ofList (rs : List Request) : Queue := (empty .fifo).extend rs

def poll (q : Queue) : Option Request × Queue :=
  match q.order with
  | .fifo =>
    match q.pending with
    | [] => (none, q)
    | r :: rest => (some r, { q with pending := rest })
  | .lifo => (q.pending.getLast?, { q with pending := q.pending.dropLast })

instance : Frontier Queue where
  push q r := (.queued, q.push r)
  poll := poll
  size q := q.pending.length

@[simp] theorem pending_push (q : Queue) (r : Request) : (q.push r).pending = q.pending ++ [r] :=
  rfl

@[simp] theorem order_push (q : Queue) (r : Request) : (q.push r).order = q.order := rfl

theorem extend_eq (q : Queue) (rs : List Request) :
    q.extend rs = { q with pending := q.pending ++ rs } := by
  induction rs generalizing q with
  | nil => simp [extend]
  | cons r rs ih =>
    have h : q.extend (r :: rs) = (q.push r).extend rs := rfl
    rw [h, ih]
    simp [push]

@[simp] theorem pending_extend (q : Queue) (rs : List Request) :
    (q.extend rs).pending = q.pending ++ rs := by rw [extend_eq]

@[simp] theorem order_extend (q : Queue) (rs : List Request) : (q.extend rs).order = q.order := by
  rw [extend_eq]

theorem poll_eq_none_iff (q : Queue) : q.poll.1 = none ↔ q.pending = [] := by
  obtain ⟨pending, order⟩ := q
  cases order with
  | fifo => cases pending <;> simp [poll]
  | lifo => simp [poll]

@[simp] theorem order_poll (q : Queue) : (q.poll).2.order = q.order := by
  unfold poll
  split
  · split <;> rfl
  · rfl

/-- What a dump of a queue shows when nothing is pending. -/
def emptyDump (q : Queue) : String :=
  s!"QueueScheduler \x7b queue: [], order: {q.order.title} \x7d"

end Queue

/-- A queue that may be bounded and may refuse to take failed requests back. -/
structure Store where
  queue : Queue
  capacity : Option Nat
  refusesRequeue : Bool
  deriving Inhabited

namespace Store

def ofQueue (q : Queue) : Store := ⟨q, none, false⟩

def hasRoom (s : Store) : Bool :=
  match s.capacity with
  | none => true
  | some n => s.queue.pending.length < n

def offer (s : Store) (r : Request) : Admission × Store :=
  if s.hasRoom then (.queued, { s with queue := s.queue.push r }) else (.refused, s)

instance : Frontier Store where
  push := offer
  poll s :=
    let (r, queue) := s.queue.poll
    (r, { s with queue })
  requeue s r := if s.refusesRequeue then (.refused, s) else s.offer r
  size s := s.queue.pending.length

theorem offer_of_room {s : Store} (h : s.hasRoom = true) (r : Request) :
    s.offer r = (.queued, { s with queue := s.queue.push r }) := by
  simp [offer, h]

theorem offer_of_full {s : Store} (h : s.hasRoom = false) (r : Request) :
    s.offer r = (.refused, s) := by
  simp [offer, h]

def isPlain (s : Store) : Bool := s.capacity.isNone && !s.refusesRequeue

end Store

end WebCrawl
