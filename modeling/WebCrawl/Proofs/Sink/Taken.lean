import WebCrawl.Sink.Basic

/-!
# What a sink takes

A sink with a record of the bytes it has taken answers as it does without one. Of the bytes that are
handed over a sink takes a prefix, and all of them exactly when the writing does not fail. From a
sink known to have room for so many bytes it follows which prefix that is.
-/

namespace WebCrawl

/-- The bytes a sink takes of those it is given. -/
def WriteReply.taken : WriteReply → List UInt8 → List UInt8
  | .accepted n, bs => bs.take n
  | .interrupted, _ => []
  | .failed _, _ => []

/-- A sink with a record of the bytes it has taken. -/
structure Recording (W : Type) where
  sink : W
  taken : List UInt8

namespace Recording

variable {W : Type}

def fresh (w : W) : Recording W := ⟨w, []⟩

variable [ByteSink W]

instance : ByteSink (Recording W) where
  write s bs :=
    let answer := ByteSink.write s.sink bs
    (answer.1, ⟨answer.2, s.taken ++ answer.1.taken bs⟩)
  flush s :=
    let answer := ByteSink.flush s.sink
    (answer.1, { s with sink := answer.2 })
  patience s bs := ByteSink.patience s.sink bs
  patience_lt {s s' bs} h := by
    have reply : (ByteSink.write s.sink bs).1 = .interrupted := congrArg Prod.fst h
    have sink : (ByteSink.write s.sink bs).2 = s'.sink := congrArg (fun answer => answer.2.sink) h
    exact ByteSink.patience_lt (Prod.ext reply sink)

theorem write_eq {s s' : Recording W} {bs : List UInt8} {reply : WriteReply}
    (h : ByteSink.write s bs = (reply, s')) :
    ByteSink.write s.sink bs = (reply, s'.sink) ∧ s'.taken = s.taken ++ reply.taken bs := by
  cases h
  exact ⟨rfl, rfl⟩

end Recording

open ByteSink

variable {W : Type}

section

variable [ByteSink W]

theorem writeAll_cons (w : W) (b : UInt8) (rest : List UInt8) :
    writeAll w (b :: rest) =
      match ByteSink.write w (b :: rest) with
      | (.accepted 0, w') => (.error .nothingWritten, w')
      | (.accepted (n + 1), w') => writeAll w' (rest.drop n)
      | (.interrupted, w') => writeAll w' (b :: rest)
      | (.failed cause, w') => (.error cause, w') := by
  rw [writeAll]
  split <;> rename_i h <;> simp only [h]

/-! ## The record changes nothing -/

theorem writeAll_sink (s : Recording W) (bs : List UInt8) :
    writeAll s.sink bs = ((writeAll s bs).1, (writeAll s bs).2.sink) := by
  fun_induction writeAll s bs with
  | case1 s => rw [writeAll]
  | case2 s b rest s' h => rw [writeAll_cons, (Recording.write_eq h).1]
  | case3 s b rest n s' h ih => rw [writeAll_cons, (Recording.write_eq h).1]; exact ih
  | case4 s b rest s' h less ih => rw [writeAll_cons, (Recording.write_eq h).1]; exact ih
  | case5 s b rest cause s' h => rw [writeAll_cons, (Recording.write_eq h).1]

theorem writeChunks_sink (s : Recording W) (chunks : List (List UInt8)) :
    writeChunks s.sink chunks = ((writeChunks s chunks).1, (writeChunks s chunks).2.sink) := by
  induction chunks generalizing s with
  | nil => rfl
  | cons chunk rest ih =>
    rw [writeChunks, writeChunks, writeAll_sink]
    rcases writeAll s chunk with ⟨_ | _, s'⟩
    · rfl
    · exact ih s'

end

/-! ## Prefixes -/

/-- How handing bytes to a sink ends: the sink has taken all of them, or the writing has failed when
some were still to be taken. -/
inductive Delivery (before bs : List UInt8) : Except IoError Unit × Recording W → Prop
  | whole {s : Recording W} (all : s.taken = before ++ bs) : Delivery before bs (.ok (), s)
  | cut {cause : IoError} {s : Recording W} {piece rest : List UInt8} (parts : piece ++ rest = bs)
      (missing : rest ≠ []) (begun : s.taken = before ++ piece) :
      Delivery before bs (.error cause, s)

theorem Delivery.prepend {before earlier bs : List UInt8} {r : Except IoError Unit × Recording W}
    (h : Delivery (before ++ earlier) bs r) : Delivery before (earlier ++ bs) r := by
  cases h with
  | whole all => exact .whole (by rw [all, List.append_assoc])
  | @cut _ s piece _ parts missing begun =>
    have both : s.taken = before ++ (earlier ++ piece) := by rw [begun, List.append_assoc]
    exact .cut (by rw [List.append_assoc, parts]) missing both

theorem Delivery.spec {before bs : List UInt8} {r : Except IoError Unit × Recording W}
    (h : Delivery before bs r) :
    ∃ piece, r.2.taken = before ++ piece ∧ piece <+: bs ∧ (piece = bs ↔ r.1 = .ok ()) := by
  cases h with
  | whole all => exact ⟨bs, all, List.prefix_rfl, iff_of_true rfl rfl⟩
  | @cut _ _ piece rest parts missing begun =>
    refine ⟨piece, begun, ⟨rest, parts⟩, iff_of_false (fun same => ?_) nofun⟩
    exact missing (List.append_cancel_left (parts.trans (same.symm.trans (List.append_nil _).symm)))

section

variable [ByteSink W]

theorem writeAll_delivery (s : Recording W) (bs : List UInt8) :
    Delivery s.taken bs (writeAll s bs) := by
  fun_induction writeAll s bs with
  | case1 s => exact .whole (List.append_nil _).symm
  | case2 s b rest s' h =>
    exact .cut (List.nil_append _) (List.cons_ne_nil b rest) (Recording.write_eq h).2
  | case3 s b rest n s' h ih =>
    have taken : s'.taken = s.taken ++ (b :: rest).take (n + 1) := (Recording.write_eq h).2
    rw [taken] at ih
    have both := ih.prepend
    rwa [List.take_succ_cons, List.cons_append, List.take_append_drop] at both
  | case4 s b rest s' h less ih =>
    have taken : s'.taken = s.taken ++ [] := (Recording.write_eq h).2
    rw [taken] at ih
    exact ih.prepend
  | case5 s b rest cause s' h =>
    exact .cut (List.nil_append _) (List.cons_ne_nil b rest) (Recording.write_eq h).2

theorem writeChunks_delivery (s : Recording W) (chunks : List (List UInt8)) :
    Delivery s.taken chunks.flatten (writeChunks s chunks) := by
  induction chunks generalizing s with
  | nil => exact .whole (List.append_nil _).symm
  | cons chunk rest ih =>
    have first := writeAll_delivery s chunk
    rw [writeChunks, List.flatten_cons]
    cases answer : writeAll s chunk with
    | mk result s' =>
      rw [answer] at first
      cases first with
      | whole all =>
        have later := ih s'
        rw [all] at later
        exact later.prepend
      | @cut _ _ _ left parts missing begun =>
        have behind : left ++ rest.flatten ≠ [] := List.append_ne_nil_of_left_ne_nil missing _
        exact .cut (by rw [← parts, List.append_assoc]) behind begun

end

/-! ## Room -/

/-- The answers to a write of some bytes when there is room for `n`: some of those that fit are
taken, or all are refused if none do. An interruption changes nothing. -/
def ByteSink.Fits (Room : W → Nat → Prop) (n : Nat) (bs : List UInt8) : WriteReply × W → Prop
  | (.accepted k, w) => k ≤ min bs.length n ∧ (k = 0 → n = 0) ∧ Room w (n - k)
  | (.interrupted, w) => Room w n
  | (.failed _, w) => n = 0 ∧ Room w 0

theorem ByteSink.Fits.imp {Room Room' : W → Nat → Prop} (weaker : ∀ {w n}, Room w n → Room' w n)
    {n : Nat} {bs : List UInt8} :
    ∀ {answer : WriteReply × W}, Fits Room n bs answer → Fits Room' n bs answer
  | (.accepted _, _), ⟨bound, empty, room⟩ => ⟨bound, empty, weaker room⟩
  | (.interrupted, _), room => weaker (n := n) room
  | (.failed _, _), ⟨full, room⟩ => ⟨full, weaker room⟩

variable [ByteSink W]

/-- The sink takes so many bytes in all, cutting a write short if it must, and then refuses
everything. -/
def ByteSink.HasRoom (w : W) (n : Nat) : Prop :=
  ∃ Room : W → Nat → Prop, Room w n ∧
    ∀ {w n} {bs : List UInt8}, Room w n → bs ≠ [] → Fits Room n bs (ByteSink.write w bs)

theorem ByteSink.HasRoom.fits {w : W} {n : Nat} {b : UInt8} {rest : List UInt8}
    {answer : WriteReply × W} (h : HasRoom w n) (eq : ByteSink.write w (b :: rest) = answer) :
    Fits HasRoom n (b :: rest) answer := by
  obtain ⟨Room, room, answers⟩ := h
  exact eq ▸ (answers room (List.cons_ne_nil b rest)).imp fun later => ⟨Room, later, answers⟩

/-- The bytes that fit are taken, and the writing does not fail if and only if all of them fit. -/
structure Filled (s : Recording W) (n : Nat) (bs : List UInt8)
    (r : Except IoError Unit × Recording W) : Prop where
  taken : r.2.taken = s.taken ++ bs.take n
  room : HasRoom r.2.sink (n - bs.length)
  ok : r.1 = .ok () ↔ bs.length ≤ n

theorem Filled.prepend {s s' : Recording W} {n k : Nat} {bs : List UInt8}
    {r : Except IoError Unit × Recording W} (bound : k ≤ min bs.length n)
    (first : s'.taken = s.taken ++ bs.take k) (later : Filled s' (n - k) (bs.drop k) r) :
    Filled s n bs r := by
  obtain ⟨taken, room, ok⟩ := later
  rw [List.length_drop] at room ok
  refine ⟨?_, ?_, ok.trans (by omega)⟩
  · rw [taken, first, List.append_assoc, ← List.take_add]
    congr 2
    omega
  · have left : n - k - (bs.length - k) = n - bs.length := by omega
    rwa [left] at room

theorem writeAll_filled (s : Recording W) (bs : List UInt8) {n : Nat} (room : HasRoom s.sink n) :
    Filled s n bs (writeAll s bs) := by
  fun_induction writeAll s bs generalizing n with
  | case1 s => exact ⟨by simp, room, by simp⟩
  | case2 s b rest s' h =>
    obtain ⟨answer, taken⟩ := Recording.write_eq h
    obtain ⟨-, empty, later⟩ := room.fits answer
    obtain rfl := empty rfl
    exact ⟨taken, by simpa using later, by simp⟩
  | case3 s b rest k s' h ih =>
    obtain ⟨answer, taken⟩ := Recording.write_eq h
    obtain ⟨bound, -, later⟩ := room.fits answer
    exact .prepend bound taken (ih later)
  | case4 s b rest s' h less ih =>
    obtain ⟨answer, same⟩ := Recording.write_eq h
    obtain ⟨taken, room, ok⟩ := ih (room.fits answer)
    rw [same, WriteReply.taken, List.append_nil] at taken
    exact ⟨taken, room, ok⟩
  | case5 s b rest cause s' h =>
    obtain ⟨answer, taken⟩ := Recording.write_eq h
    obtain ⟨rfl, later⟩ := room.fits answer
    exact ⟨taken, by simpa using later, by simp⟩

theorem writeChunks_filled (s : Recording W) (chunks : List (List UInt8)) {n : Nat}
    (room : HasRoom s.sink n) : Filled s n chunks.flatten (writeChunks s chunks) := by
  induction chunks generalizing s n with
  | nil => exact ⟨by simp [writeChunks], room, by simp [writeChunks]⟩
  | cons chunk rest ih =>
    have first := writeAll_filled s chunk room
    rw [writeChunks, List.flatten_cons]
    rcases answer : writeAll s chunk with ⟨cause | done, s'⟩
    · rw [answer] at first
      obtain ⟨taken, room, ok⟩ := first
      have short : n < chunk.length := Nat.lt_of_not_le fun fits => nomatch ok.mpr fits
      refine ⟨?_, ?_, iff_of_false nofun ?_⟩
      · rw [taken, List.take_append_of_le_length (Nat.le_of_lt short)]
      · rwa [show n - (chunk ++ rest.flatten).length = n - chunk.length by
          rw [List.length_append]; omega]
      · rw [List.length_append]
        omega
    · rw [answer] at first
      obtain ⟨taken, room, ok⟩ := first
      have fits : chunk.length ≤ n := ok.mp rfl
      have bound : chunk.length ≤ min (chunk ++ rest.flatten).length n := by
        rw [List.length_append]
        omega
      have first : s'.taken = s.taken ++ (chunk ++ rest.flatten).take chunk.length := by
        rw [taken, List.take_of_length_le fits, List.take_left]
      refine Filled.prepend bound first ?_
      rw [List.drop_left]
      exact ih s' room

/-! ## Sinks that never fail -/

/-- The answer is no failure: some bytes are taken, or there is an interruption. -/
def ByteSink.GoesOn (Good : W → Prop) : WriteReply × W → Prop
  | (.accepted k, w) => k ≠ 0 ∧ Good w
  | (.interrupted, w) => Good w
  | (.failed _, _) => False

/-- No write ever fails, though it may be cut short. -/
def ByteSink.Reliable (w : W) : Prop :=
  ∃ Good : W → Prop, Good w ∧
    ∀ {w} {bs : List UInt8}, Good w → bs ≠ [] → GoesOn Good (ByteSink.write w bs)

theorem ByteSink.Reliable.goesOn {w : W} {b : UInt8} {rest : List UInt8}
    {answer : WriteReply × W} (h : Reliable w) (eq : ByteSink.write w (b :: rest) = answer) :
    GoesOn Reliable answer := by
  obtain ⟨Good, good, answers⟩ := h
  have next := answers good (List.cons_ne_nil b rest)
  rw [eq] at next
  match answer, next with
  | (.accepted _, _), ⟨taken, later⟩ => exact ⟨taken, Good, later, answers⟩
  | (.interrupted, _), later => exact ⟨Good, later, answers⟩

theorem writeAll_reliable {w : W} (h : Reliable w) (bs : List UInt8) :
    (writeAll w bs).1 = .ok () ∧ Reliable (writeAll w bs).2 := by
  fun_induction writeAll w bs with
  | case1 w => exact ⟨rfl, h⟩
  | case2 w b rest w' answer => exact absurd rfl (h.goesOn answer).1
  | case3 w b rest n w' answer ih => exact ih (h.goesOn answer).2
  | case4 w b rest w' answer less ih => exact ih (h.goesOn answer)
  | case5 w b rest cause w' answer => exact (h.goesOn answer).elim

theorem writeChunks_reliable {w : W} (h : Reliable w) (chunks : List (List UInt8)) :
    (writeChunks w chunks).1 = .ok () ∧ Reliable (writeChunks w chunks).2 := by
  induction chunks generalizing w with
  | nil => exact ⟨rfl, h⟩
  | cons chunk rest ih =>
    obtain ⟨done, reliable⟩ := writeAll_reliable h chunk
    rw [writeChunks]
    rcases answer : writeAll w chunk with ⟨_ | _, w'⟩
    · rw [answer] at done
      cases done
    · rw [answer] at reliable
      exact ih reliable

/-! ## Memory -/

theorem MemorySink.hasRoom (s : MemorySink) {limit : Nat} (limited : s.limit = some limit) :
    HasRoom s (limit - s.content.length) := by
  refine ⟨fun s n => s.limit = some limit ∧ n = limit - s.content.length, ⟨limited, rfl⟩, ?_⟩
  rintro s n bs ⟨limited, rfl⟩ nonempty
  have positive : 0 < bs.length := List.length_pos_iff.mpr nonempty
  have fitting : s.room bs.length = min bs.length (limit - s.content.length) := by
    rw [room, limited]
  simp only [ByteSink.write, take, fitting]
  split
  · rename_i refused
    have full : limit - s.content.length = 0 := by omega
    exact ⟨full, limited, full.symm⟩
  · refine ⟨Nat.le_refl _, fun empty => by omega, limited, ?_⟩
    rw [List.length_append, List.length_take]
    omega

theorem MemorySink.reliable (s : MemorySink) (unlimited : s.limit = none) : Reliable s := by
  refine ⟨fun s => s.limit = none, unlimited, ?_⟩
  intro s bs unlimited nonempty
  have fitting : s.room bs.length = bs.length := by
    rw [room, unlimited]
  have positive : bs.length ≠ 0 := fun empty => nonempty (List.length_eq_zero_iff.mp empty)
  simp only [ByteSink.write, take, fitting]
  rw [if_neg fun refused => positive refused.1]
  exact ⟨positive, unlimited⟩

end WebCrawl
