import WebCrawl.Proofs.Sink.Recovery
import WebCrawl.Sink.Sharing

/-!
# Blocks of several callers stay whole

Callers of one writer take its lock block by block. Whatever the sink does, it is at any moment on
the way to the state in which it would be if the carriers had been written one after the other in
the order in which the lock was taken. Nobody has to wait forever, since a block under way can
always be finished, and so every run can be carried on until all carriers are written.
-/

namespace WebCrawl

open ByteSink (Reliable)

namespace SharedWriter

section

variable {W : Type} {s : SharedWriter W} {i : Nat} {a b : Author}

theorem lockFree_iff : s.lockFree = true ↔ ∀ a ∈ s.authors, a.chunks = none := by
  simp [lockFree]

theorem exists_busy (busy : ¬s.lockFree = true) :
    ∃ (i : Nat) (todo : List Carrier) (cs : List (List UInt8)),
      s.authors[i]? = some ⟨todo, some cs⟩ := by
  rw [lockFree_iff] at busy
  push Not at busy
  obtain ⟨⟨todo, chunks⟩, mem, holds⟩ := busy
  obtain ⟨i, here⟩ := List.getElem?_of_mem mem
  obtain ⟨cs, rfl⟩ := Option.ne_none_iff_exists'.mp holds
  exact ⟨i, todo, cs, here⟩

/-- Nobody but the author with the index `i` holds the lock. -/
def Others (s : SharedWriter W) (i : Nat) : Prop :=
  ∀ j b, j ≠ i → s.authors[j]? = some b → b.chunks = none

theorem others_of_lockFree (free : s.lockFree = true) (i : Nat) : s.Others i :=
  fun _ b _ there => lockFree_iff.mp free b (List.mem_of_getElem? there)

theorem lockFree_of_set {t : SharedWriter W} {todo : List Carrier} (others : s.Others i)
    (authors : t.authors = s.authors.set i ⟨todo, none⟩) : t.lockFree = true := by
  rw [lockFree_iff, authors]
  intro b mem
  obtain ⟨j, there⟩ := List.getElem?_of_mem mem
  rw [List.getElem?_set] at there
  split at there
  · split at there
    · exact (Option.some.inj there) ▸ rfl
    · cases there
  · rename_i apart
    exact others j b (Ne.symm apart) there

/-- The carriers that an author has yet to take up. -/
def left (s : SharedWriter W) (index : Nat) : List Carrier :=
  ((s.authors[index]?).map Author.todo).getD []

theorem left_of_getElem? (here : s.authors[i]? = some a) : s.left i = a.todo := by
  rw [left, here]
  rfl

theorem left_of_set {t : SharedWriter W} (here : s.authors[i]? = some a)
    (authors : t.authors = s.authors.set i b) (j : Nat) :
    t.left j = if i = j then b.todo else s.left j := by
  obtain ⟨inside, -⟩ := List.getElem?_eq_some_iff.mp here
  by_cases same : i = j
  · subst same
    simp [left, authors, inside]
  · simp [left, authors, same]

end

/-! ## Every run can be carried on to its end -/

section

variable {W : Type} [ByteSink W] {s t u : SharedWriter W} {i : Nat}

/-- Some turns lead from one state to the other. -/
def Reaches (s t : SharedWriter W) : Prop := ∃ turns, s.advanceAll turns = some t

theorem Reaches.refl (s : SharedWriter W) : s.Reaches s := ⟨[], rfl⟩

theorem Reaches.turn {index : Nat} (one : s.advance index = some t) (later : t.Reaches u) :
    s.Reaches u := by
  obtain ⟨turns, run⟩ := later
  exact ⟨index :: turns, by rw [advanceAll, one]; exact run⟩

theorem Reaches.trans (first : s.Reaches t) (later : t.Reaches u) : s.Reaches u := by
  obtain ⟨turns, run⟩ := first
  induction turns generalizing s with
  | nil =>
    cases run
    exact later
  | cons index rest ih =>
    obtain ⟨m, one, run⟩ := Option.bind_eq_some_iff.mp run
    exact .turn one (ih run)

theorem advance_of_getElem? {a : Author} (here : s.authors[i]? = some a) :
    s.advance i = s.moveAuthor i a := by
  rw [advance, here]
  rfl

theorem reaches_of_chunk {todo : List Carrier} {bs : List UInt8} {rest : List (List UInt8)}
    (here : s.authors[i]? = some ⟨todo, some (bs :: rest)⟩) :
    ∃ t chunks, s.Reaches t ∧ t.authors = s.authors.set i ⟨todo, chunks⟩ ∧
      (chunks = some rest ∨ chunks = none) := by
  generalize sink : s.sink = w
  have inside := (List.getElem?_eq_some_iff.mp here).1
  have move := advance_of_getElem? here
  fun_induction writeAll w bs generalizing s with
  | case1 w => exact ⟨_, some rest, .turn move (.refl _), rfl, .inl rfl⟩
  | case2 w b bs w' answer =>
    subst sink
    simp only [moveAuthor, writeSome, answer] at move
    exact ⟨_, none, .turn move (.refl _), rfl, .inr rfl⟩
  | case3 w b bs n w' answer ih =>
    subst sink
    simp only [moveAuthor, writeSome, answer] at move
    let next := { s with sink := w' }.setAuthor i ⟨todo, some (bs.drop n :: rest)⟩
    have here' : next.authors[i]? = some ⟨todo, some (bs.drop n :: rest)⟩ :=
      List.getElem?_set_self inside
    obtain ⟨t, chunks, reaches, authors, ends⟩ :=
      ih here' rfl (List.getElem?_eq_some_iff.mp here').1 (advance_of_getElem? here')
    exact ⟨t, chunks, .turn move reaches, authors.trans (List.set_set ..), ends⟩
  | case4 w b bs w' answer less ih =>
    subst sink
    simp only [moveAuthor, writeSome, answer] at move
    obtain ⟨t, chunks, reaches, authors, ends⟩ :=
      ih (s := { s with sink := w' }) here rfl inside (advance_of_getElem? here)
    exact ⟨t, chunks, .turn move reaches, authors, ends⟩
  | case5 w b bs cause w' answer =>
    subst sink
    simp only [moveAuthor, writeSome, answer] at move
    exact ⟨_, none, .turn move (.refl _), rfl, .inr rfl⟩

theorem reaches_of_block {todo : List Carrier} {chunks : List (List UInt8)}
    (here : s.authors[i]? = some ⟨todo, some chunks⟩) :
    ∃ t, s.Reaches t ∧ t.authors = s.authors.set i ⟨todo, none⟩ := by
  have inside := (List.getElem?_eq_some_iff.mp here).1
  induction chunks generalizing s with
  | nil => exact ⟨_, .turn (advance_of_getElem? here) (.refl _), rfl⟩
  | cons bs rest ih =>
    obtain ⟨t, chunks, reaches, authors, rfl | rfl⟩ := reaches_of_chunk here
    · have here' : t.authors[i]? = some ⟨todo, some rest⟩ := by
        rw [authors, List.getElem?_set_self inside]
      obtain ⟨u, later, authors'⟩ := ih here' (List.getElem?_eq_some_iff.mp here').1
      exact ⟨u, reaches.trans later, by rw [authors', authors, List.set_set]⟩
    · exact ⟨t, reaches, authors⟩

theorem reaches_of_todo {todo : List Carrier} (free : s.lockFree = true)
    (here : s.authors[i]? = some ⟨todo, none⟩) :
    ∃ t, s.Reaches t ∧ t.authors = s.authors.set i ⟨[], none⟩ := by
  have inside := (List.getElem?_eq_some_iff.mp here).1
  induction todo generalizing s with
  | nil =>
    obtain ⟨_, same⟩ := List.getElem?_eq_some_iff.mp here
    exact ⟨s, .refl s, same ▸ (List.set_getElem_self inside).symm⟩
  | cons c rest ih =>
    have move := advance_of_getElem? here
    simp only [moveAuthor, free, if_true] at move
    let next := s.setAuthor i ⟨rest, some ((Block.chunks c).map Utf8.bytes)⟩
    have here' : next.authors[i]? = some ⟨rest, some ((Block.chunks c).map Utf8.bytes)⟩ :=
      List.getElem?_set_self inside
    obtain ⟨t, block, authors⟩ := reaches_of_block here'
    have written : t.authors = s.authors.set i ⟨rest, none⟩ := authors.trans (List.set_set ..)
    have again : t.authors[i]? = some ⟨rest, none⟩ := by
      rw [written, List.getElem?_set_self inside]
    have released : t.lockFree = true := lockFree_of_set (others_of_lockFree free i) written
    obtain ⟨u, later, authors'⟩ := ih released again (List.getElem?_eq_some_iff.mp again).1
    exact ⟨u, .turn move (block.trans later), by rw [authors', written, List.set_set]⟩

theorem reaches_end (free : s.lockFree = true) (n : Nat) :
    ∃ t, s.Reaches t ∧ t.lockFree = true ∧ t.authors.length = s.authors.length ∧
      ∀ j < n, t.left j = [] := by
  induction n with
  | zero => exact ⟨s, .refl s, free, rfl, fun _ before => absurd before (Nat.not_lt_zero _)⟩
  | succ n ih =>
    obtain ⟨t, reaches, free', length, done⟩ := ih
    cases here : t.authors[n]? with
    | none =>
      refine ⟨t, reaches, free', length, Nat.forall_lt_succ_right.mpr ⟨done, ?_⟩⟩
      rw [left, here]
      rfl
    | some a =>
      obtain ⟨todo, chunks⟩ := a
      obtain rfl : chunks = none := lockFree_iff.mp free' _ (List.mem_of_getElem? here)
      obtain ⟨u, later, authors⟩ := reaches_of_todo free' here
      have free'' := lockFree_of_set (others_of_lockFree free' n) authors
      refine ⟨u, reaches.trans later, free'', by rw [authors, List.length_set, length], ?_⟩
      intro j before
      rw [left_of_set here authors]
      split
      · rfl
      · exact done j (by omega)

/-- Nobody can go on exactly when nobody holds the lock and everything is written. -/
theorem stuck_iff :
    (∀ i, s.advance i = none) ↔ s.lockFree = true ∧ ∀ i, s.left i = [] := by
  constructor
  · intro stuck
    have free : s.lockFree = true := by
      rw [lockFree_iff]
      intro a mem
      obtain ⟨i, here⟩ := List.getElem?_of_mem mem
      have move := (advance_of_getElem? here).symm.trans (stuck i)
      obtain ⟨todo, chunks⟩ := a
      cases chunks with
      | none => rfl
      | some chunks =>
        rcases chunks with _ | ⟨_ | ⟨b, bs⟩, rest⟩ <;> cases move
    refine ⟨free, fun i => ?_⟩
    cases here : s.authors[i]? with
    | none => rw [left, here]; rfl
    | some a =>
      have move := (advance_of_getElem? here).symm.trans (stuck i)
      obtain ⟨todo, chunks⟩ := a
      obtain rfl : chunks = none := lockFree_iff.mp free _ (List.mem_of_getElem? here)
      cases todo with
      | nil => exact left_of_getElem? here
      | cons c rest =>
        simp only [moveAuthor, free, if_true] at move
        cases move
  · rintro ⟨free, done⟩ i
    cases here : s.authors[i]? with
    | none => rw [advance, here]; rfl
    | some a =>
      obtain ⟨todo, chunks⟩ := a
      obtain rfl : chunks = none := lockFree_iff.mp free _ (List.mem_of_getElem? here)
      obtain rfl : todo = [] := (left_of_getElem? here).symm.trans (done i)
      exact advance_of_getElem? here

end

/-! ## The order of the blocks -/

variable {W : Type} [ByteSink W]

/-- The carriers of one author in an order of all. -/
def partOf (order : List (Nat × Carrier)) (index : Nat) : List Carrier :=
  (order.filter (·.1 = index)).map Prod.snd

theorem partOf_append (order : List (Nat × Carrier)) (e : Nat × Carrier) (j : Nat) :
    partOf (order ++ [e]) j = partOf order j ++ if e.1 = j then [e.2] else [] := by
  rw [partOf, List.filter_append, List.map_append, ← partOf]
  by_cases own : e.1 = j <;> simp [own]

/-- The sink if carriers had been written one after the other. -/
def sinkOf (w : W) (order : List (Nat × Carrier)) : W :=
  order.foldl (fun w e => (Block.write w e.2).2) w

theorem sinkOf_append (w : W) (order : List (Nat × Carrier)) (e : Nat × Carrier) :
    sinkOf w (order ++ [e]) = (Block.write (sinkOf w order) e.2).2 := List.foldl_append ..

/-- The order in which the lock was taken: what every author has yet to take up follows what it has
taken up, and once the block under way is finished, the sink is as if the blocks had been written
one after the other. At most one author is at work on a block. -/
structure Serial (w : W) (todos : List (List Carrier)) (order : List (Nat × Carrier))
    (s : SharedWriter W) : Prop where
  parts : ∀ i : Nat, partOf order i ++ s.left i = (todos[i]?).getD []
  free : s.lockFree = true → s.sink = sinkOf w order
  underWay : ∀ i a cs, s.authors[i]? = some a → a.chunks = some cs →
    (writeChunks s.sink cs).2 = sinkOf w order ∧ s.Others i

namespace Serial

variable {w : W} {todos : List (List Carrier)} {order : List (Nat × Carrier)}
  {s t : SharedWriter W} {i : Nat} {a : Author}

theorem start (w : W) (todos : List (List Carrier)) : (ofSink w todos).Serial w todos [] where
  parts i := by
    rw [left, ofSink, List.getElem?_map]
    cases todos[i]? <;> rfl
  free _ := rfl
  underWay i a cs here busy := by
    obtain ⟨todo, -, rfl⟩ := List.mem_map.mp (List.mem_of_getElem? here)
    cases busy

theorem working (others : s.Others i) (inside : i < s.authors.length) {todo : List Carrier}
    {cs : List (List UInt8)} (authors : t.authors = s.authors.set i ⟨todo, some cs⟩)
    (parts : ∀ j : Nat, partOf order j ++ t.left j = (todos[j]?).getD [])
    (sink : (writeChunks t.sink cs).2 = sinkOf w order) : t.Serial w todos order := by
  have here : t.authors[i]? = some ⟨todo, some cs⟩ := by
    rw [authors, List.getElem?_set_self inside]
  have apart : t.Others i := by
    intro j b other there
    rw [authors, List.getElem?_set_ne (Ne.symm other)] at there
    exact others j b other there
  refine ⟨parts, fun free => ?_, fun j b ds there busy => ?_⟩
  · cases lockFree_iff.mp free _ (List.mem_of_getElem? here)
  · by_cases own : j = i
    · subst own
      cases here.symm.trans there
      cases busy
      exact ⟨sink, apart⟩
    · cases (apart j b own there).symm.trans busy

theorem take (h : s.Serial w todos order) {c : Carrier} {rest : List Carrier}
    {chunks : Option (List (List UInt8))} (here : s.authors[i]? = some ⟨c :: rest, chunks⟩)
    (free : s.lockFree = true) :
    (s.setAuthor i ⟨rest, some ((Block.chunks c).map Utf8.bytes)⟩).Serial w todos
      (order ++ [(i, c)]) := by
  obtain ⟨inside, -⟩ := List.getElem?_eq_some_iff.mp here
  refine working (others_of_lockFree free i) inside rfl (fun j => ?_) ?_
  · rw [← h.parts j, partOf_append, left_of_set here rfl]
    by_cases own : i = j
    · subst own
      simp [left_of_getElem? here]
    · simp [own]
  · rw [sinkOf_append, ← h.free free]
    rfl

theorem parts_of_set (h : s.Serial w todos order) {todo : List Carrier}
    {cs chunks : Option (List (List UInt8))} (here : s.authors[i]? = some ⟨todo, cs⟩)
    (authors : t.authors = s.authors.set i ⟨todo, chunks⟩) (j : Nat) :
    partOf order j ++ t.left j = (todos[j]?).getD [] := by
  rw [← h.parts j, left_of_set here authors]
  split
  · rename_i own
    rw [← own, left_of_getElem? here]
  · rfl

theorem goOn (h : s.Serial w todos order) {todo : List Carrier} {cs cs' : List (List UInt8)}
    (here : s.authors[i]? = some ⟨todo, some cs⟩)
    (authors : t.authors = s.authors.set i ⟨todo, some cs'⟩)
    (same : (writeChunks s.sink cs).2 = (writeChunks t.sink cs').2) :
    t.Serial w todos order := by
  obtain ⟨sink, others⟩ := h.underWay i _ cs here rfl
  have inside := (List.getElem?_eq_some_iff.mp here).1
  exact working others inside authors (h.parts_of_set here authors) (same.symm.trans sink)

theorem release (h : s.Serial w todos order) {todo : List Carrier} {cs : List (List UInt8)}
    (here : s.authors[i]? = some ⟨todo, some cs⟩)
    (authors : t.authors = s.authors.set i ⟨todo, none⟩)
    (same : (writeChunks s.sink cs).2 = t.sink) :
    t.Serial w todos order := by
  obtain ⟨sink, others⟩ := h.underWay i _ cs here rfl
  have free : t.lockFree = true := lockFree_of_set others authors
  refine ⟨h.parts_of_set here authors, fun _ => same.symm.trans sink, fun j b ds there busy => ?_⟩
  cases (lockFree_iff.mp free b (List.mem_of_getElem? there)).symm.trans busy

theorem writeSome (h : s.Serial w todos order) {todo : List Carrier} {b : UInt8} {bs : List UInt8}
    {rest : List (List UInt8)} (here : s.authors[i]? = some ⟨todo, some ((b :: bs) :: rest)⟩) :
    (s.writeSome i ⟨todo, some ((b :: bs) :: rest)⟩ (b :: bs) rest).Serial w todos order := by
  rcases answer : ByteSink.write s.sink (b :: bs) with ⟨reply, w'⟩
  rw [SharedWriter.writeSome, answer]
  rcases reply with (_ | n) | _ | cause
  · exact h.release here rfl (by rw [writeChunks, writeAll_cons, answer]; rfl)
  · exact h.goOn here rfl (by rw [writeChunks, writeAll_cons, answer]; rfl)
  · obtain ⟨inside, same⟩ := List.getElem?_eq_some_iff.mp here
    exact h.goOn here (same ▸ (List.set_getElem_self inside).symm)
      (by rw [writeChunks, writeAll_cons, answer]; rfl)
  · exact h.release here rfl (by rw [writeChunks, writeAll_cons, answer]; rfl)

theorem advance (h : s.Serial w todos order) (move : s.advance i = some t) :
    ∃ order, t.Serial w todos order := by
  obtain ⟨⟨todo, chunks⟩, here, move⟩ := Option.bind_eq_some_iff.mp move
  rcases chunks with _ | _ | ⟨_ | ⟨b, bs⟩, rest⟩
  · cases todo with
    | nil => cases move
    | cons c rest =>
      obtain ⟨free, moved⟩ := Option.ite_none_right_eq_some.mp move
      cases moved
      exact ⟨_, h.take here free⟩
  · cases move
    exact ⟨order, h.release here rfl rfl⟩
  · cases move
    exact ⟨order, h.goOn here rfl (by rw [writeChunks, writeAll]; rfl)⟩
  · cases move
    exact ⟨order, h.writeSome here⟩

theorem advanceAll (h : s.Serial w todos order) {turns : List Nat}
    (run : s.advanceAll turns = some t) : ∃ order, t.Serial w todos order := by
  induction turns generalizing s order with
  | nil =>
    cases run
    exact ⟨order, h⟩
  | cons i rest ih =>
    obtain ⟨m, move, run⟩ := Option.bind_eq_some_iff.mp run
    obtain ⟨order, h⟩ := h.advance move
    exact ih h run

end Serial

theorem taken_sinkOf {s : Recording W} (reliable : Reliable s.sink) (order : List (Nat × Carrier)) :
    (sinkOf s order).taken =
      s.taken ++ order.flatMap fun e => Utf8.bytes (Block.text e.2) := by
  induction order generalizing s with
  | nil => exact (List.append_nil _).symm
  | cons e order ih =>
    obtain ⟨taken, reliable⟩ := Writer.write_reliable e.2 reliable
    rw [sinkOf, List.foldl_cons, ← sinkOf, ih reliable, taken, List.flatMap_cons,
      List.append_assoc]

/-- A run can always be carried on until nobody can go on. -/
theorem Serial.completes {w : W} {todos : List (List Carrier)} {order : List (Nat × Carrier)}
    {s : SharedWriter W} (h : s.Serial w todos order) :
    ∃ t, s.Reaches t ∧ ∀ i, t.advance i = none := by
  obtain ⟨m, first, free⟩ : ∃ m, s.Reaches m ∧ m.lockFree = true := by
    by_cases free : s.lockFree = true
    · exact ⟨s, .refl s, free⟩
    · obtain ⟨i, todo, cs, here⟩ := exists_busy free
      obtain ⟨t, reaches, authors⟩ := reaches_of_block here
      exact ⟨t, reaches, lockFree_of_set (h.underWay i _ cs here rfl).2 authors⟩
  obtain ⟨t, later, free', length, done⟩ := reaches_end free m.authors.length
  refine ⟨t, first.trans later, stuck_iff.mpr ⟨free', fun i => ?_⟩⟩
  by_cases inside : i < m.authors.length
  · exact done i inside
  · rw [left, List.getElem?_eq_none (by omega)]
    rfl

theorem Serial.taken_isPrefix {w : Recording W} {todos : List (List Carrier)}
    {order : List (Nat × Carrier)} {s : SharedWriter (Recording W)}
    (h : s.Serial w todos order) : s.sink.taken <+: (sinkOf w order).taken := by
  by_cases free : s.lockFree = true
  · exact h.free free ▸ List.prefix_rfl
  · obtain ⟨i, todo, cs, here⟩ := exists_busy free
    obtain ⟨piece, taken, -⟩ := (writeChunks_delivery s.sink cs).spec
    rw [← (h.underWay i _ cs here rfl).1, taken]
    exact List.prefix_append _ _

/-- Callers write into one sink that never fails, in turns of any kind. There is an order of the
carriers that were taken up, in which those of each caller stand as it took them up, such that
the sink has taken the first bytes of their blocks in that order. A run can always be carried on
until nobody can go on, and then each caller has written every one of its carriers once, in its own
order, and the sink has taken the whole blocks and nothing else. -/
theorem blocks_stay_whole {w : W} (reliable : Reliable w) {todos : List (List Carrier)}
    {turns : List Nat} {s : SharedWriter (Recording W)}
    (run : (ofSink (.fresh w) todos).advanceAll turns = some s) :
    ∃ order : List (Nat × Carrier),
      let blocks := order.flatMap fun e => Utf8.bytes (Block.text e.2)
      (∀ i : Nat, partOf order i ++ s.left i = (todos[i]?).getD []) ∧
      s.sink.taken <+: blocks ∧
      (∃ more t, s.advanceAll more = some t ∧ ∀ i, t.advance i = none) ∧
      ((∀ i, s.advance i = none) →
        (∀ i : Nat, partOf order i = (todos[i]?).getD []) ∧ s.sink.taken = blocks) := by
  obtain ⟨order, serial⟩ := (Serial.start (Recording.fresh w) todos).advanceAll run
  have all : (sinkOf (Recording.fresh w) order).taken =
      order.flatMap fun e => Utf8.bytes (Block.text e.2) := taken_sinkOf reliable order
  refine ⟨order, serial.parts, ?begun, ?_, fun stuck => ?_⟩
  case begun =>
    rw [← all]
    exact serial.taken_isPrefix
  · obtain ⟨t, ⟨more, reaches⟩, stuck⟩ := serial.completes
    exact ⟨more, t, reaches, stuck⟩
  · obtain ⟨free, written⟩ := stuck_iff.mp stuck
    refine ⟨fun i => ?_, ?_⟩
    · rw [← serial.parts i, written i, List.append_nil]
    · rw [serial.free free, all]

def bare : Carrier :=
  .new (.ofUrl ⟨"https", some ⟨"", none, some (.name "a.example"), none⟩, "/", none, none⟩)

/-- The second of two callers takes the lock first and writes its block before the first one. -/
theorem blocks_stay_whole_of_two :
    Reliable MemorySink.unlimited ∧ ∃ s order,
      (ofSink (Recording.fresh MemorySink.unlimited) [[bare], [bare]]).advanceAll
          (List.replicate 18 1 ++ List.replicate 18 0) = some s ∧
        partOf order 0 = [bare] ∧ partOf order 1 = [bare] ∧
        s.sink.taken = order.flatMap fun e => Utf8.bytes (Block.text e.2) := by
  have reliable := MemorySink.reliable .unlimited rfl
  have ends : ((ofSink (Recording.fresh MemorySink.unlimited) [[bare], [bare]]).advanceAll
      (List.replicate 18 1 ++ List.replicate 18 0)).map SharedWriter.authors =
        some [⟨[], none⟩, ⟨[], none⟩] := rfl
  obtain ⟨s, run, authors⟩ := Option.map_eq_some_iff.mp ends
  obtain ⟨order, -, -, -, whole⟩ := blocks_stay_whole reliable run
  have stuck : ∀ i, s.advance i = none := by
    refine stuck_iff.mpr ⟨by rw [lockFree, authors]; rfl, fun i => ?_⟩
    rw [left, authors]
    rcases i with _ | _ | i <;> rfl
  obtain ⟨parts, taken⟩ := whole stuck
  exact ⟨reliable, s, order, run, parts 0, parts 1, taken⟩

end SharedWriter

end WebCrawl
