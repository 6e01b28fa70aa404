import WebCrawl.Proofs.Json.Lexemes

/-!
# What is read of a spelled value

A reading of a laid out text takes the tokens of one value and leaves the others, and what it yields
depends on the tokens alone, not on the blanks between them. A value that opens too many brackets is
refused, as is one that holds a number or a string that is.
-/

namespace WebCrawl.Json

/-- A reading that leaves a text of the given tokens. -/
def Reads {α : Type} (ts : List Token) : Reading α → Option α → Prop :=
  Yields fun a b => b.1 = a ∧ Laid ts b.2

mutual

/-- The value of a tree with at most `depth` brackets inside one another. -/
def Spelling.build : Nat → Spelling → Option Json
  | _, .null => some .null
  | _, .bool b => some (.bool b)
  | _, .number n => n.value
  | _, .string l => l.string?.map .string
  | 0, .array _ => none
  | depth + 1, .array items => (buildItems depth items).map .array
  | 0, .object _ => none
  | depth + 1, .object members => (buildMembers depth members).map .ofMembers

def buildItems : Nat → List Spelling → Option (List Json)
  | _, [] => some []
  | depth, v :: rest => do
    let x ← v.build depth
    let xs ← buildItems depth rest
    some (x :: xs)

def buildMembers : Nat → List (Literal × Spelling) → Option (List (String × Json))
  | _, [] => some []
  | depth, (name, v) :: rest => do
    let key ← name.string?
    let x ← v.build depth
    let xs ← buildMembers depth rest
    some ((key, x) :: xs)

end

/-- A member, if its name and its value can be read. -/
def named? {α : Type} (f : Spelling → Option α) (m : Literal × Spelling) : Option (String × α) := do
  let key ← m.1.string?
  let x ← f m.2
  some (key, x)

theorem buildItems_eq (depth : Nat) (vs : List Spelling) :
    buildItems depth vs = vs.mapM (Spelling.build depth) := by
  induction vs with
  | nil => rfl
  | cons v rest ih =>
    rw [buildItems, List.mapM_cons, ih]
    rfl

theorem buildMembers_eq (depth : Nat) (ms : List (Literal × Spelling)) :
    buildMembers depth ms = ms.mapM (named? (Spelling.build depth)) := by
  induction ms with
  | nil => rfl
  | cons m rest ih =>
    obtain ⟨name, v⟩ := m
    rw [buildMembers, List.mapM_cons, ih, named?]
    cases name.string? with
    | none => rfl
    | some key => cases v.build depth <;> rfl

section

variable {ts : List Token} {t : Token} {s : List Char} {first : Bool}

theorem nextItem_close (h : Laid (.mark .listCloses :: ts) s) : nextItem first s = .ok none := by
  obtain ⟨rest, same, -⟩ := h.skipBlanks_cons
  rw [nextItem, same]
  rfl

theorem nextItem_open (opens : t.opens = true) (h : Laid (separator first ++ t :: ts) s) :
    ∃ s', nextItem first s = .ok (some s') ∧ Laid (t :: ts) s' := by
  obtain ⟨c, cs, text, open_end, -, apart⟩ := Token.exists_opening opens
  cases first with
  | true =>
    obtain ⟨rest, same, -⟩ := h.skipBlanks_cons
    refine ⟨skipBlanks s, ?_, h.skipBlanks⟩
    rw [nextItem, same, text]
    simp
  | false =>
    obtain ⟨rest, same, later⟩ := h.skipBlanks_cons
    obtain ⟨rest', same', -⟩ := later.skipBlanks_cons
    refine ⟨skipBlanks rest, ?_, later.skipBlanks⟩
    have comma : skipBlanks s = ',' :: rest := same
    rw [text, List.cons_append] at same'
    rw [nextItem, comma]
    simp [same', open_end]

theorem nextMember_close (h : Laid (.mark .objectCloses :: ts) s) :
    nextMember first s = .ok none := by
  obtain ⟨rest, same, -⟩ := h.skipBlanks_cons
  rw [nextMember, same]
  rfl

theorem nextMember_open {name : Literal} (h : Laid (separator first ++ .string name :: ts) s) :
    ∃ s', nextMember first s = .ok (some (Literal.tail name.pieces ++ s')) ∧ Laid ts s' := by
  cases first with
  | true =>
    obtain ⟨rest, same, later⟩ := h.skipBlanks_cons
    refine ⟨rest, ?_, later⟩
    rw [nextMember, same]
    rfl
  | false =>
    obtain ⟨rest, same, named⟩ := h.skipBlanks_cons
    obtain ⟨rest', same', later⟩ := named.skipBlanks_cons
    refine ⟨rest', ?_, later⟩
    have comma : skipBlanks s = ',' :: rest := same
    have quote : skipBlanks rest = '"' :: (Literal.tail name.pieces ++ rest') := same'
    rw [nextMember, comma]
    simp [quote]

theorem colon_laid (h : Laid (.mark .colon :: ts) s) : ∃ s', colon s = .ok s' ∧ Laid ts s' := by
  obtain ⟨rest, same, later⟩ := h.skipBlanks_cons
  refine ⟨rest, ?_, later⟩
  rw [colon, same]
  rfl

theorem item_laid {v : Spelling} {vs : List Spelling} {m : Mark}
    (h : Laid (itemTokens first (v :: vs) ++ .mark m :: ts) s) :
    ∃ s', nextItem first s = .ok (some s') ∧
      Laid (v.tokens ++ (itemTokens false vs ++ .mark m :: ts)) s' := by
  obtain ⟨t, ts', tokens, opens⟩ := v.exists_tokens
  rw [itemTokens, tokens, List.append_assoc, List.append_assoc, List.cons_append] at h
  rw [tokens, List.cons_append]
  exact nextItem_open opens h

theorem member_laid {name : Literal} {v : Spelling} {ms : List (Literal × Spelling)} {m : Mark}
    (h : Laid (memberTokens first ((name, v) :: ms) ++ .mark m :: ts) s) :
    ∃ s₁ s₂, nextMember first s = .ok (some (Literal.tail name.pieces ++ s₁)) ∧
      colon s₁ = .ok s₂ ∧ Laid (v.tokens ++ (memberTokens false ms ++ .mark m :: ts)) s₂ := by
  rw [memberTokens, List.append_assoc, List.cons_append, List.cons_append,
    List.append_assoc] at h
  obtain ⟨s₁, next, laid⟩ := nextMember_open h
  obtain ⟨s₂, passed, laid'⟩ := colon_laid laid
  exact ⟨s₁, s₂, next, passed, laid'⟩

theorem closeList_laid (h : Laid (.mark .listCloses :: ts) s) :
    ∃ s', closeList s = .ok s' ∧ Laid ts s' := by
  obtain ⟨rest, same, later⟩ := h.skipBlanks_cons
  refine ⟨rest, ?_, later⟩
  rw [closeList, same]
  rfl

theorem closeObject_laid (h : Laid (.mark .objectCloses :: ts) s) :
    ∃ s', closeObject s = .ok s' ∧ Laid ts s' := by
  obtain ⟨rest, same, later⟩ := h.skipBlanks_cons
  refine ⟨rest, ?_, later⟩
  rw [closeObject, same]
  rfl

theorem finish_laid (h : Laid [] s) : finish s = .ok () := by
  rw [finish, h.skipBlanks_nil]

end

section

variable {α : Type} {f : Spelling → Option α} {read : List Char → Reading α} {vs : List Spelling}
  {ms : List (Literal × Spelling)}

/-- The reading takes a tree's tokens and yields what `f` says. -/
def ReadsAs (read : List Char → Reading α) (f : Spelling → Option α) (v : Spelling) : Prop :=
  ∀ ts s, Ends ts → Laid (v.tokens ++ ts) s → Reads ts (read s) (f v)

theorem reads_items (each : ∀ v ∈ vs, ReadsAs read f v) {fuel : Nat} {first : Bool}
    {ts : List Token} {s : List Char} (enough : vs.length < fuel)
    (h : Laid (itemTokens first vs ++ .mark .listCloses :: ts) s) :
    Reads (.mark .listCloses :: ts) (items read fuel first s) (vs.mapM f) := by
  induction vs generalizing fuel first s with
  | nil =>
    obtain ⟨fuel, rfl⟩ := Nat.exists_eq_succ_of_ne_zero (Nat.ne_of_gt enough)
    rw [items, nextItem_close h]
    exact .ok ⟨rfl, h⟩
  | cons v rest ih =>
    obtain ⟨fuel, rfl⟩ := Nat.exists_eq_succ_of_ne_zero (Nat.ne_of_gt (Nat.zero_lt_of_lt enough))
    obtain ⟨one, others⟩ := List.forall_mem_cons.mp each
    obtain ⟨s', next, laid⟩ := item_laid h
    rw [items, next, List.mapM_cons]
    refine (one _ s' ends_items laid).bind ?_
    rintro x ⟨_, s₁⟩ ⟨rfl, later⟩
    refine (ih others (Nat.lt_of_succ_lt_succ enough) later).bind ?_
    rintro xs ⟨_, s₂⟩ ⟨rfl, left⟩
    exact .ok ⟨rfl, left⟩

theorem reads_members (each : ∀ m ∈ ms, ReadsAs read f m.2) {fuel : Nat} {first : Bool}
    {ts : List Token} {s : List Char} (enough : ms.length < fuel)
    (h : Laid (memberTokens first ms ++ .mark .objectCloses :: ts) s) :
    Reads (.mark .objectCloses :: ts) (members read fuel first s) (ms.mapM (named? f)) := by
  induction ms generalizing fuel first s with
  | nil =>
    obtain ⟨fuel, rfl⟩ := Nat.exists_eq_succ_of_ne_zero (Nat.ne_of_gt enough)
    rw [members, nextMember_close h]
    exact .ok ⟨rfl, h⟩
  | cons m rest ih =>
    obtain ⟨name, v⟩ := m
    obtain ⟨fuel, rfl⟩ := Nat.exists_eq_succ_of_ne_zero (Nat.ne_of_gt (Nat.zero_lt_of_lt enough))
    obtain ⟨one, others⟩ := List.forall_mem_cons.mp each
    obtain ⟨s₁, s₂, next, passed, laid⟩ := member_laid h
    rw [members, next, List.mapM_cons, named?]
    simp only [bind_assoc]
    refine (leaves_string name s₁).bind ?_
    rintro key _ rfl
    dsimp only
    rw [passed]
    refine (one _ s₂ ends_members laid).bind ?_
    rintro x ⟨_, s₃⟩ ⟨rfl, later⟩
    refine (ih others (Nat.lt_of_succ_lt_succ enough) later).bind ?_
    rintro xs ⟨_, s₄⟩ ⟨rfl, left⟩
    exact .ok ⟨rfl, left⟩

end

theorem Leaves.reads {α : Type} {ts : List Token} {t : List Char} {r : Reading α} {a? : Option α}
    (h : Leaves t r a?) (laid : Laid ts t) : Reads ts r a? := by
  cases h with
  | ok same =>
    cases same
    exact .ok ⟨rfl, laid⟩
  | error e => exact .error e

theorem value_digit (depth : Nat) {s rest : List Char} {c : Char} (digit : c.isDigit = true)
    (same : skipBlanks s = c :: rest) : value depth s = numberTail false (c :: rest) := by
  have first := mem_decimals digit
  unfold value
  rw [same]
  simp only [decimals, List.mem_cons, List.not_mem_nil, or_false] at first
  rcases first with rfl | rfl | rfl | rfl | rfl | rfl | rfl | rfl | rfl | rfl <;> rfl

theorem reads_number (depth : Nat) (n : Numeral) :
    ReadsAs (value depth) (Spelling.build depth) (.number n) := by
  intro ts s ends h
  obtain ⟨rest, same, later⟩ := h.skipBlanks_cons
  have leaves := leaves_number n (stops_of_laid later ends)
  rw [Token.text] at same
  cases signed : n.negative with
  | true =>
    rw [Numeral.text_of_negative signed] at same
    rw [signed] at leaves
    unfold value
    rw [same]
    exact leaves.reads later
  | false =>
    rw [Numeral.text_of_not_negative signed] at same
    obtain ⟨c, tail, body, digit⟩ := n.exists_body
    rw [signed, body] at leaves
    rw [body] at same
    rw [value_digit depth digit same]
    exact leaves.reads later

/-- Blanks make no difference to a value, wherever they stand. -/
theorem reads_value (v : Spelling) : ∀ depth, ReadsAs (value depth) (Spelling.build depth) v := by
  induction v using Spelling.induct with
  | null =>
    intro depth ts s _ h
    obtain ⟨rest, same, later⟩ := h.skipBlanks_cons
    unfold value
    rw [same]
    exact .ok ⟨rfl, later⟩
  | bool b =>
    intro depth ts s _ h
    obtain ⟨rest, same, later⟩ := h.skipBlanks_cons
    unfold value
    rw [same]
    cases b <;> exact .ok ⟨rfl, later⟩
  | number n => exact fun depth => reads_number depth n
  | string l =>
    intro depth ts s _ h
    obtain ⟨rest, same, later⟩ := h.skipBlanks_cons
    unfold value
    rw [same, Spelling.build, Option.map_eq_bind]
    refine (leaves_string l rest).bind ?_
    rintro text _ rfl
    exact .ok ⟨rfl, later⟩
  | array vs each =>
    intro depth ts s _ h
    obtain ⟨rest, same, later⟩ := h.of_array
    unfold value
    rw [same]
    cases depth with
    | zero => exact .error _
    | succ depth =>
      have enough := length_lt_of_laid_items later
      rw [Spelling.build, Option.map_eq_bind, buildItems_eq]
      refine (reads_items (fun v known => each v known depth) enough later).bind ?_
      rintro xs ⟨_, s₁⟩ ⟨rfl, closes⟩
      obtain ⟨s₂, closed, left⟩ := closeList_laid closes
      dsimp only
      rw [closed]
      exact .ok ⟨rfl, left⟩
  | object ms each =>
    intro depth ts s _ h
    obtain ⟨rest, same, later⟩ := h.of_object
    unfold value
    rw [same]
    cases depth with
    | zero => exact .error _
    | succ depth =>
      have enough := length_lt_of_laid_members later
      rw [Spelling.build, Option.map_eq_bind, buildMembers_eq]
      refine (reads_members (fun m known => each m known depth) enough later).bind ?_
      rintro xs ⟨_, s₁⟩ ⟨rfl, closes⟩
      obtain ⟨s₂, closed, left⟩ := closeObject_laid closes
      dsimp only
      rw [closed]
      exact .ok ⟨rfl, left⟩

theorem of_toOption_eq_some {ε α : Type} {x : Except ε α} {a : α} (h : x.toOption = some a) :
    x = .ok a := by
  cases x with
  | error e => cases h
  | ok b => exact congrArg Except.ok (Option.some.inj h)

theorem toOption_wholeText {α : Type} {read : List Char → Reading α} {text : String}
    {a? : Option α} (h : Reads [] (read text.toList) a?) :
    (wholeText read text).toOption = a? := by
  unfold wholeText
  dsimp only
  generalize read text.toList = r at h ⊢
  cases h with
  | error e => rfl
  | @ok a b same =>
    obtain ⟨rfl, left⟩ := same
    have done := finish_laid left
    obtain ⟨a, rest⟩ := b
    simp only [bind, Except.bind, done]
    rfl

end WebCrawl.Json
