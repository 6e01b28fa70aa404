import WebCrawl.Frontier.Layered

/-!
# Stacks of filters

Filters and boxes stand around each other, to any depth, and each hands an operation on to what it
stands directly around. Such a stack behaves as its layers in a row around its base. A push goes
inwards to the first filter that has seen the request and leaves a record in all filters before it;
everything else is up to the base.
-/

namespace WebCrawl

/-- Filters and boxes around a base, each around the next. -/
inductive Stack (S : Type) where
  | base (s : S)
  | filter (layer : FilterLayer) (inner : Stack S)
  /-- Of what is in a box, only that it is a frontier is known. -/
  | box (inner : Stack S)

namespace Stack

variable {S : Type}

def flatten : Stack S → Layered S
  | base s => .bare s
  | filter l inner => inner.flatten.wrap l
  | box inner => inner.flatten

variable [Frontier S]

def push : Stack S → Request → Admission × Stack S
  | base s, r =>
    let (a, s) := Frontier.push s r
    (a, base s)
  | filter l inner, r =>
    if l.isNew r then
      let (a, inner) := inner.push r
      (a, filter (l.record r) inner)
    else (.duplicate (l.identity r), filter l inner)
  | box inner, r =>
    let (a, inner) := inner.push r
    (a, box inner)

def poll : Stack S → Option Request × Stack S
  | base s =>
    let (found, s) := Frontier.poll s
    (found, base s)
  | filter l inner =>
    let (found, inner) := inner.poll
    (found, filter l inner)
  | box inner =>
    let (found, inner) := inner.poll
    (found, box inner)

def requeue : Stack S → Request → Admission × Stack S
  | base s, r =>
    let (a, s) := Frontier.requeue s r
    (a, base s)
  | filter l inner, r =>
    let (a, inner) := inner.requeue r
    (a, filter l inner)
  | box inner, r =>
    let (a, inner) := inner.requeue r
    (a, box inner)

def size : Stack S → Nat
  | base s => Frontier.size s
  | filter _ inner => inner.size
  | box inner => inner.size

def isEmpty : Stack S → Bool
  | base s => Frontier.isEmpty s
  | filter _ inner => inner.isEmpty
  | box inner => inner.isEmpty

instance : Frontier (Stack S) where
  push := push
  poll := poll
  requeue := requeue
  size := size
  isEmpty := isEmpty

/-- Pushes past the filter of which the first argument is the layer. -/
def force (l : FilterLayer) (inner : Stack S) (r : Request) : Admission × Stack S :=
  let (a, inner) := Frontier.push inner r
  (a, filter (l.record r) inner)

theorem flatten_push (st : Stack S) (r : Request) :
    Frontier.push st.flatten r =
      ((Frontier.push st r).1, (Frontier.push st r).2.flatten) := by
  induction st with
  | base s => rfl
  | filter l inner ih =>
    cases new : l.isNew r with
    | false =>
      have pushed : Frontier.push (filter l inner) r =
          (.duplicate (l.identity r), filter l inner) := by
        simp [Frontier.push, push, new]
      rw [pushed]
      exact Layered.push_wrap_of_seen new
    | true =>
      have pushed : Frontier.push (filter l inner) r =
          ((Frontier.push inner r).1, filter (l.record r) (Frontier.push inner r).2) := by
        simp [Frontier.push, push, new]
      have flat : Frontier.push (inner.flatten.wrap l) r =
          ((Frontier.push inner.flatten r).1,
            (Frontier.push inner.flatten r).2.wrap (l.record r)) := Layered.push_wrap_of_new new
      rw [pushed, flatten, flat, ih]
      rfl
  | box inner ih => exact ih

theorem flatten_poll (st : Stack S) :
    Frontier.poll st.flatten = ((Frontier.poll st).1, (Frontier.poll st).2.flatten) := by
  induction st with
  | base s => rfl
  | filter l inner ih => exact congrArg (fun p => (p.1, p.2.wrap l)) ih
  | box inner ih => exact ih

theorem flatten_requeue (st : Stack S) (r : Request) :
    Frontier.requeue st.flatten r =
      ((Frontier.requeue st r).1, (Frontier.requeue st r).2.flatten) := by
  induction st with
  | base s => rfl
  | filter l inner ih => exact congrArg (fun p => (p.1, p.2.wrap l)) ih
  | box inner ih => exact ih

theorem size_flatten (st : Stack S) : Frontier.size st.flatten = Frontier.size st := by
  induction st with
  | base s => rfl
  | filter l inner ih => exact ih
  | box inner ih => exact ih

theorem isEmpty_flatten (st : Stack S) : Frontier.isEmpty st.flatten = Frontier.isEmpty st := by
  induction st with
  | base s => rfl
  | filter l inner ih => exact ih
  | box inner ih => exact ih

theorem flatten_force (l : FilterLayer) (inner : Stack S) (r : Request) :
    (inner.flatten.wrap l).force r = ((force l inner r).1, (force l inner r).2.flatten) :=
  congrArg (fun p => (p.1, p.2.wrap (l.record r))) (flatten_push inner r)

/-- What a stack makes of a request is what its filters in a row make of it. -/
structure Flattens (st : Stack S) (r : Request) : Prop where
  push : Frontier.push st.flatten r = ((Frontier.push st r).1, (Frontier.push st r).2.flatten)
  force : ∀ l, (st.flatten.wrap l).force r = ((force l st r).1, (force l st r).2.flatten)
  requeue : Frontier.requeue st.flatten r =
    ((Frontier.requeue st r).1, (Frontier.requeue st r).2.flatten)
  poll : Frontier.poll st.flatten = ((Frontier.poll st).1, (Frontier.poll st).2.flatten)
  size : Frontier.size st.flatten = Frontier.size st
  isEmpty : Frontier.isEmpty st.flatten = Frontier.isEmpty st

theorem flattens (st : Stack S) (r : Request) : st.Flattens r where
  push := st.flatten_push r
  force l := flatten_force l st r
  requeue := st.flatten_requeue r
  poll := st.flatten_poll
  size := st.size_flatten
  isEmpty := st.isEmpty_flatten

end Stack

namespace Layered

variable {S : Type} [Frontier S] {r : Request}

theorem pushThrough_of_new {layers : List FilterLayer} (new : ∀ l ∈ layers, l.isNew r = true)
    (base : S) : pushThrough r layers base =
      ((Frontier.push base r).1, layers.map (·.record r), (Frontier.push base r).2) := by
  induction layers with
  | nil => rfl
  | cons l layers ih =>
    have later := ih fun m member => new m (List.mem_cons_of_mem _ member)
    rw [pushThrough, if_pos (new l List.mem_cons_self), later]
    rfl

theorem pushThrough_of_seen {outer : List FilterLayer} (new : ∀ m ∈ outer, m.isNew r = true)
    {l : FilterLayer} (seen : l.isNew r = false) (inner : List FilterLayer) (base : S) :
    pushThrough r (outer ++ l :: inner) base =
      (.duplicate (l.identity r), outer.map (·.record r) ++ l :: inner, base) := by
  induction outer with
  | nil => simp [pushThrough, seen]
  | cons m outer ih =>
    have later := ih fun k member => new k (List.mem_cons_of_mem _ member)
    rw [List.cons_append, pushThrough, if_pos (new m List.mem_cons_self), later]
    rfl

theorem accepted_pushThrough (layers : List FilterLayer) (base : S) :
    (pushThrough r layers base).1.accepted = true ↔
      (∀ l ∈ layers, l.isNew r = true) ∧ (Frontier.push base r).1.accepted = true := by
  induction layers with
  | nil => exact ⟨fun h => ⟨fun _ member => absurd member List.not_mem_nil, h⟩, And.right⟩
  | cons l layers ih =>
    rw [pushThrough, List.forall_mem_cons]
    cases new : l.isNew r with
    | false => simp
    | true => simpa using ih

/-- What a layer makes of a request that it records: it has seen the request from then on, and
whatever it had seen before. An exact layer has seen nothing else. -/
structure Records (l : FilterLayer) (r : Request) : Prop where
  identity : (l.record r).identity = l.identity
  seen : (l.record r).isNew r = false
  kept : ∀ r', l.isNew r' = false → (l.record r).isNew r' = false
  exact : ∀ f, l.filter = .exact f → ∀ r', (l.record r).isNew r' =
    (l.isNew r' && l.identity r != l.identity r')

theorem records (l : FilterLayer) (r : Request) : Records l r where
  identity := l.identity_record r
  seen := l.isNew_record_self r
  kept _ seen := FilterLayer.isNew_record_of_seen seen r
  exact := by
    intro f exact r'
    rw [FilterLayer.isNew, FilterLayer.record, FilterLayer.isNew, exact]
    exact f.isNew_record (l.identity r) (l.identity r')

/-- What the layers in a row make of a request. -/
structure Composes (s : Layered S) (r : Request) : Prop where
  records : ∀ l : FilterLayer, Records l r
  accepted : (Frontier.push s r).1.accepted = true ↔
    (∀ l ∈ s.layers, l.isNew r = true) ∧ (Frontier.push s.base r).1.accepted = true
  /-- The first layer that has seen the request ends the push. -/
  push_of_seen : ∀ outer l inner, s.layers = outer ++ l :: inner →
    (∀ m ∈ outer, m.isNew r = true) → l.isNew r = false →
      Frontier.push s r =
        (.duplicate (l.identity r), ⟨outer.map (·.record r) ++ l :: inner, s.base⟩)
  push_of_new : (∀ l ∈ s.layers, l.isNew r = true) →
    Frontier.push s r =
      ((Frontier.push s.base r).1, ⟨s.layers.map (·.record r), (Frontier.push s.base r).2⟩)
  force : ∀ l inner, s.layers = l :: inner →
    s.force r = ((Frontier.push (⟨inner, s.base⟩ : Layered S) r).1,
      (Frontier.push (⟨inner, s.base⟩ : Layered S) r).2.wrap (l.record r))
  requeue : Frontier.requeue s r =
    ((Frontier.requeue s.base r).1, ⟨s.layers, (Frontier.requeue s.base r).2⟩)
  poll : Frontier.poll s = ((Frontier.poll s.base).1, ⟨s.layers, (Frontier.poll s.base).2⟩)
  size : Frontier.size s = Frontier.size s.base
  isEmpty : Frontier.isEmpty s = Frontier.isEmpty s.base

theorem composes (s : Layered S) (r : Request) : s.Composes r where
  records l := Layered.records l r
  accepted := accepted_pushThrough s.layers s.base
  push_of_seen := by
    intro outer l inner layers new seen
    have pushed := pushThrough_of_seen new seen inner s.base
    rw [← layers] at pushed
    exact congrArg (fun p => (p.1, (⟨p.2.1, p.2.2⟩ : Layered S))) pushed
  push_of_new new :=
    congrArg (fun p => (p.1, (⟨p.2.1, p.2.2⟩ : Layered S))) (pushThrough_of_new new s.base)
  force := by
    intro l inner layers
    rw [Layered.force, layers]
    rfl
  requeue := s.requeue_eq r
  poll := s.poll_eq
  size := s.size_eq
  isEmpty := s.isEmpty_eq

end Layered

/-- Whatever a stack is made of, it does to a request what its filters in a row do: a push is
accepted if no filter has seen the request and the base takes it in, all filters before the first
that has seen it keep a record and all others are as before, a forced push spares the outermost
filter only, and everything else is done by the base alone, which is also asked whether it is empty.
What a filter keeps a record of it has seen from then on. -/
theorem stack_composes {S : Type} [Frontier S] (st : Stack S) (r : Request) :
    st.Flattens r ∧ st.flatten.Composes r :=
  ⟨st.flattens r, st.flatten.composes r⟩

end WebCrawl
