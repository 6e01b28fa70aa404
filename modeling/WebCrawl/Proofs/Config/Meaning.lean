import WebCrawl.Config.Reader
import WebCrawl.Proofs.Json.Skipping

/-!
# What a configuration text means

A configuration is read member by member, so its meaning is a fold over the members of a tree: a
known name sets one field of the draft, and any other name leaves the draft as it is, whatever its
value is. The blanks of the text have no part in it.
-/

namespace WebCrawl

namespace Json

abbrev Member := Literal × Spelling

end Json

namespace Config

open Json

def unsignedOf : Spelling → Option UInt64
  | .number n => do
    let x ← n.value
    (unsigned? "u64" x).toOption
  | _ => none

theorem toOption_unsigned? (expected expected' : String) (x : Json) :
    (unsigned? expected x).toOption = (unsigned? expected' x).toOption := by
  unfold unsigned?
  cases x with
  | int n =>
    dsimp only
    split <;> rfl
  | _ => rfl

theorem readUnsigned_digit (expected : String) {s rest : List Char} {c : Char}
    (digit : c.isDigit = true) (same : skipBlanks s = c :: rest) :
    readUnsigned expected s =
      match numberTail false (c :: rest) with
      | .error e => .error e
      | .ok (v, rest) =>
        match unsigned? expected v with
        | .ok n => .ok (n, rest)
        | .error issue => .error (.before issue rest) := by
  have first := mem_decimals digit
  unfold readUnsigned
  rw [same]
  simp only [decimals, List.mem_cons, List.not_mem_nil, or_false] at first
  rcases first with rfl | rfl | rfl | rfl | rfl | rfl | rfl | rfl | rfl | rfl <;> rfl

theorem reads_fitting (expected : String) {ts : List Token} {t : List Char} {r : Reading Json}
    {x? : Option Json} (h : Leaves t r x?) (laid : Laid ts t) :
    Reads ts
      (match r with
        | .error e => .error e
        | .ok (v, rest) =>
          match unsigned? expected v with
          | .ok n => .ok (n, rest)
          | .error issue => .error (.before issue rest))
      (x? >>= fun x => (unsigned? "u64" x).toOption) := by
  cases h with
  | error e => exact .error e
  | @ok x b same =>
    cases same
    rw [Option.bind_eq_bind, Option.bind_some, toOption_unsigned? "u64" expected]
    dsimp only
    cases unsigned? expected x with
    | ok n => exact .ok ⟨rfl, laid⟩
    | error issue => exact .error _

theorem reads_unsigned (expected : String) (v : Spelling) :
    ReadsAs (readUnsigned expected) unsignedOf v := by
  intro ts s ends h
  cases v with
  | number n =>
    obtain ⟨rest, same, later⟩ := h.skipBlanks_cons
    have fitting := reads_fitting expected (leaves_number n (stops_of_laid later ends)) later
    rw [Token.text] at same
    cases signed : n.negative with
    | true =>
      rw [Numeral.text_of_negative signed] at same
      rw [signed] at fitting
      unfold readUnsigned
      rw [same]
      exact fitting
    | false =>
      obtain ⟨c, tail, body, digit⟩ := n.exists_body
      rw [Numeral.text_of_not_negative signed, body] at same
      rw [signed, body] at fitting
      rw [readUnsigned_digit expected digit same]
      exact fitting
  | bool b =>
    obtain ⟨rest, same, -⟩ := h.skipBlanks_cons
    rw [readUnsigned, same]
    cases b <;> exact .error _
  | _ =>
    obtain ⟨rest, same, -⟩ := h.skipBlanks_cons
    rw [readUnsigned, same]
    exact .error _

/-! ## Filters -/

def tagNamed : String → Option FilterTag
  | "none" => some .none
  | "distinct" => some .distinct
  | "bloom" => some .bloom
  | _ => none

theorem tagNamed_of_ne {name : String} (h : name = "none" → False)
    (h' : name = "distinct" → False) (h'' : name = "bloom" → False) : tagNamed name = none := by
  unfold tagNamed
  split
  · exact (h rfl).elim
  · exact (h' rfl).elim
  · exact (h'' rfl).elim
  · rfl

def tagOf : Spelling → Option FilterTag
  | .string l => do
    let name ← l.string?
    tagNamed name
  | _ => none

theorem reads_tag (v : Spelling) : ReadsAs readTag tagOf v := by
  intro ts s _ h
  cases v with
  | string l =>
    obtain ⟨rest, same, later⟩ := h.skipBlanks_cons
    rw [readTag, same, tagOf]
    refine (leaves_string l rest).bind ?_
    rintro name _ rfl
    dsimp only
    split
    · exact .ok ⟨rfl, later⟩
    · exact .ok ⟨rfl, later⟩
    · exact .ok ⟨rfl, later⟩
    · rw [tagNamed_of_ne ‹_› ‹_› ‹_›]
      exact .error _
  | bool b =>
    obtain ⟨rest, same, -⟩ := h.skipBlanks_cons
    rw [readTag, same]
    cases b <;> exact .error _
  | number n =>
    obtain ⟨rest, same, -⟩ := h.skipBlanks_cons
    obtain ⟨c, tail, text, first⟩ := n.exists_text
    have unquoted : ∀ c ∈ '-' :: decimals, c ≠ '"' := List.all_iff_forall_prop.mp (by decide)
    rw [Token.text, text, List.cons_append] at same
    rw [readTag, same]
    split
    · rename_i empty
      cases empty
    · rename_i quote
      exact absurd (List.cons.inj quote).1 (unquoted c first)
    · exact .error _
  | _ =>
    obtain ⟨rest, same, -⟩ := h.skipBlanks_cons
    rw [readTag, same]
    exact .error _

/-- What the members of a filter object hold: the kind, if it is given, and the others in order. -/
def filterParts (depth : Nat) :
    Option FilterTag → List Member → Option (Option FilterTag × List (String × Json))
  | tag?, [] => some (tag?, [])
  | tag?, (name, v) :: rest => do
    let key ← name.string?
    if key = "kind" then
      if tag?.isSome then none
      else
        let tag ← tagOf v
        filterParts depth (some tag) rest
    else
      let x ← v.build depth
      let (tag?, xs) ← filterParts depth tag? rest
      some (tag?, (key, x) :: xs)

theorem yields_filterMembers (depth : Nat) (ms : List Member) {fuel : Nat} {first : Bool}
    {tag? : Option FilterTag} {ts : List Token} {s : List Char} (enough : ms.length < fuel)
    (h : Laid (memberTokens first ms ++ .mark .objectCloses :: ts) s) :
    Yields (fun a b => b.1 = a.1 ∧ b.2.1 = a.2 ∧ Laid (.mark .objectCloses :: ts) b.2.2)
      (filterMembers depth fuel first tag? s) (filterParts depth tag? ms) := by
  induction ms generalizing fuel first s tag? with
  | nil =>
    obtain ⟨fuel, rfl⟩ := Nat.exists_eq_succ_of_ne_zero (Nat.ne_of_gt enough)
    rw [filterMembers, nextMember_close h]
    exact .ok ⟨rfl, rfl, h⟩
  | cons m rest ih =>
    obtain ⟨name, v⟩ := m
    obtain ⟨fuel, rfl⟩ := Nat.exists_eq_succ_of_ne_zero (Nat.ne_of_gt (Nat.zero_lt_of_lt enough))
    obtain ⟨s₁, s₂, next, passed, laid⟩ := member_laid h
    have fewer := Nat.lt_of_succ_lt_succ enough
    rw [filterMembers, next, filterParts]
    refine (leaves_string name s₁).bind ?_
    rintro key _ rfl
    dsimp only
    rw [passed]
    split
    · split
      · exact .error _
      · refine (reads_tag v _ s₂ ends_members laid).bind ?_
        rintro tag ⟨_, s₃⟩ ⟨rfl, later⟩
        exact ih fewer later
    · refine (reads_value v depth _ s₂ ends_members laid).bind ?_
      rintro x ⟨_, s₃⟩ ⟨rfl, later⟩
      refine (ih fewer later).bind ?_
      rintro ⟨_, xs⟩ ⟨_, _, s₄⟩ ⟨rfl, rfl, left⟩
      exact .ok ⟨rfl, rfl, left⟩

def shapeOf (depth : Nat) : Spelling → Option (FilterTag × FilterBody)
  | .object members => do
    let (tag?, members) ← filterParts depth none members
    let tag ← tag?
    some (tag, .named members)
  | .array (v :: rest) => do
    let tag ← tagOf v
    let values ← rest.mapM (Spelling.build depth)
    some (tag, .listed values)
  | _ => none

def filterOf (depth : Nat) (v : Spelling) : Option FilterKind := do
  let (tag, body) ← shapeOf depth v
  (judge tag body).toOption

/-- A reading of a filter that yields its kind and its other values. -/
def Shapes (ts : List Token) :
    Except Failure (FilterTag × FilterBody × List Char) → Option (FilterTag × FilterBody) → Prop :=
  Yields fun a b => b.1 = a.1 ∧ b.2.1 = a.2 ∧ Laid ts b.2.2

theorem shapes_filterObject (depth : Nat) {ms : List Member} {ts : List Token} {s : List Char}
    (h : Laid (memberTokens true ms ++ .mark .objectCloses :: ts) s) :
    Shapes (.mark .objectCloses :: ts) (filterObject depth s) (shapeOf depth (.object ms)) := by
  refine (yields_filterMembers depth ms (length_lt_of_laid_members h) h).bind ?_
  rintro ⟨_, _⟩ ⟨tag?, xs, s'⟩ ⟨rfl, rfl, later⟩
  cases tag? with
  | none => exact .error _
  | some tag => exact .ok ⟨rfl, rfl, later⟩

theorem shapes_filterList (depth : Nat) {vs : List Spelling} {ts : List Token} {s : List Char}
    (h : Laid (itemTokens true vs ++ .mark .listCloses :: ts) s) :
    Shapes (.mark .listCloses :: ts) (filterList depth s) (shapeOf depth (.array vs)) := by
  unfold filterList
  cases vs with
  | nil =>
    rw [nextItem_close h]
    exact .error _
  | cons v rest =>
    obtain ⟨s₁, next, laid⟩ := item_laid h
    rw [next]
    refine (reads_tag v _ s₁ ends_items laid).bind ?_
    rintro tag ⟨_, s₂⟩ ⟨rfl, later⟩
    have each : ∀ v ∈ rest, ReadsAs (value depth) (Spelling.build depth) v :=
      fun v _ => reads_value v depth
    refine (reads_items each (length_lt_of_laid_items later) later).bind ?_
    rintro xs ⟨_, s₃⟩ ⟨rfl, left⟩
    exact .ok ⟨rfl, rfl, left⟩

theorem shapes_filterShape (depth : Nat) (v : Spelling) {ts : List Token} {s : List Char}
    (h : Laid (v.tokens ++ ts) s) : Shapes ts (filterShape depth s) (shapeOf depth v) := by
  unfold filterShape
  cases v with
  | object ms =>
    obtain ⟨rest, same, laid⟩ := h.of_object
    rw [same, ← bind_pure (shapeOf depth (.object ms))]
    refine ((shapes_filterObject depth laid).mapError _).bind ?_
    rintro ⟨tag, body⟩ ⟨_, _, s₁⟩ ⟨rfl, rfl, closes⟩
    obtain ⟨s₂, closed, left⟩ := closeObject_laid closes
    dsimp only
    rw [closed]
    exact .ok ⟨rfl, rfl, left⟩
  | array vs =>
    obtain ⟨rest, same, laid⟩ := h.of_array
    rw [same, ← bind_pure (shapeOf depth (.array vs))]
    refine ((shapes_filterList depth laid).mapError _).bind ?_
    rintro ⟨tag, body⟩ ⟨_, _, s₁⟩ ⟨rfl, rfl, closes⟩
    obtain ⟨s₂, closed, left⟩ := closeList_laid closes
    dsimp only
    rw [closed]
    exact .ok ⟨rfl, rfl, left⟩
  | bool b =>
    obtain ⟨rest, same, -⟩ := h.skipBlanks_cons
    rw [same]
    cases b <;> exact .error _
  | number n =>
    obtain ⟨rest, same, -⟩ := h.skipBlanks_cons
    obtain ⟨c, tail, text, first⟩ := n.exists_text
    have apart : ∀ c ∈ '-' :: decimals, c ≠ '[' ∧ c ≠ '\x7b' :=
      List.all_iff_forall_prop.mp (by decide)
    rw [Token.text, text, List.cons_append] at same
    rw [same]
    split
    · rename_i empty
      cases empty
    · rename_i bracket
      exact absurd (List.cons.inj bracket).1 (apart c first).1
    · rename_i brace
      exact absurd (List.cons.inj brace).1 (apart c first).2
    · exact .error _
  | _ =>
    obtain ⟨rest, same, -⟩ := h.skipBlanks_cons
    rw [same]
    exact .error _

theorem reads_filter (depth : Nat) (v : Spelling) :
    ReadsAs (readFilter depth) (filterOf depth) v := by
  intro ts s _ h
  refine (shapes_filterShape depth v h).bind ?_
  rintro ⟨_, _⟩ ⟨tag, body, s'⟩ ⟨rfl, rfl, later⟩
  dsimp only
  cases judge tag body with
  | ok k => exact .ok ⟨rfl, later⟩
  | error issue => exact .error _

/-! ## Members of a configuration -/

/-- What a known member says. -/
inductive Setting where
  | fetchWorkers (n : UInt64)
  | processWorkers (n : UInt64)
  | waitMillis (n : UInt64)
  | filter (k : FilterKind)

def Setting.field : Setting → Field
  | fetchWorkers _ => .fetchWorkers
  | processWorkers _ => .processWorkers
  | waitMillis _ => .waitMillis
  | filter _ => .filter

def Draft.set (d : Draft) : Setting → Draft
  | .fetchWorkers n => { d with fetchWorkers := some n }
  | .processWorkers n => { d with processWorkers := some n }
  | .waitMillis n => { d with waitMillis := some n }
  | .filter k => { d with filter := some k }

/-- No field is set twice. -/
def Draft.add (d : Draft) (s : Setting) : Option Draft :=
  if s.field.isGiven d then none else some (d.set s)

def Field.setting (f : Field) (v : Spelling) : Option Setting :=
  match f with
  | .fetchWorkers => (unsignedOf v).map .fetchWorkers
  | .processWorkers => (unsignedOf v).map .processWorkers
  | .waitMillis => (unsignedOf v).map .waitMillis
  | .filter => (filterOf (depthBound - 2) v).map .filter

theorem field_of_setting {f : Field} {v : Spelling} {s : Setting} (h : f.setting v = some s) :
    s.field = f := by
  cases f <;>
  · obtain ⟨_, -, rfl⟩ := Option.map_eq_some_iff.mp h
    rfl

theorem reads_field (f : Field) (d : Draft) (v : Spelling) :
    ReadsAs (f.read d) (fun v => (f.setting v).map d.set) v := by
  intro ts s ends h
  cases f with
  | filter =>
    simp only [Field.setting, Option.map_map]
    rw [Option.map_eq_bind]
    refine (reads_filter _ v _ s ends h).bind ?_
    rintro k ⟨_, s'⟩ ⟨rfl, later⟩
    exact .ok ⟨rfl, later⟩
  | _ =>
    simp only [Field.setting, Option.map_map]
    rw [Option.map_eq_bind]
    refine (reads_unsigned _ v _ s ends h).bind ?_
    rintro n ⟨_, s'⟩ ⟨rfl, later⟩
    exact .ok ⟨rfl, later⟩

/-- What a member says: nothing, if its name is not a known one. -/
def settingOf (m : Member) : Option (Option Setting) := do
  let name ← m.1.string?
  match Field.ofName? name with
  | some f => (f.setting m.2).map some
  | none => some none

theorem ofName?_name (f : Field) : Field.ofName? f.name = some f := by
  cases f <;> decide

theorem settingOf_of_field {f : Field} {name : Literal} (named : name.string? = some f.name)
    (v : Spelling) : settingOf (name, v) = (f.setting v).map some := by
  simp only [settingOf, named, Option.bind_eq_bind, Option.bind_some, ofName?_name]

/-- Takes up what a further member says, if it says anything. -/
def heed {β μ σ : Type} (tell : μ → Option (Option σ)) (add : β → σ → Option β) (b : β) (m : μ) :
    Option β := do
  match ← tell m with
  | some s => add b s
  | none => some b

def Draft.take : Draft → Member → Option Draft := heed settingOf Draft.add

theorem take_of_some {m : Member} {s : Setting} (h : settingOf m = some (some s)) (d : Draft) :
    d.take m = d.add s := by
  simp only [Draft.take, heed, h, Option.bind_eq_bind, Option.bind_some]

theorem take_of_none {m : Member} (h : settingOf m = some none) (d : Draft) :
    d.take m = some d := by
  simp only [Draft.take, heed, h, Option.bind_eq_bind, Option.bind_some]

theorem take_eq (d : Draft) (name : Literal) (v : Spelling) : d.take (name, v) =
    name.string? >>= fun key =>
      match Field.ofName? key with
      | some f => if f.isGiven d then none else (f.setting v).map d.set
      | none => some d := by
  unfold Draft.take heed settingOf
  cases name.string? with
  | none => rfl
  | some key =>
    simp only [Option.bind_eq_bind, Option.bind_some]
    cases Field.ofName? key with
    | none => rfl
    | some f =>
      dsimp only
      cases said : f.setting v with
      | none => simp
      | some s =>
        simp only [Option.map_some, Option.bind_some, Draft.add, field_of_setting said]

theorem reads_readMembers {ms : List Member} {fuel : Nat} {first : Bool} {d : Draft}
    {ts : List Token} {s : List Char} (enough : ms.length < fuel)
    (h : Laid (memberTokens first ms ++ .mark .objectCloses :: ts) s) :
    Reads (.mark .objectCloses :: ts) (readMembers fuel first d s) (ms.foldlM Draft.take d) := by
  induction ms generalizing fuel first s d with
  | nil =>
    obtain ⟨fuel, rfl⟩ := Nat.exists_eq_succ_of_ne_zero (Nat.ne_of_gt enough)
    rw [readMembers, nextMember_close h]
    exact .ok ⟨rfl, h⟩
  | cons m rest ih =>
    obtain ⟨name, v⟩ := m
    obtain ⟨fuel, rfl⟩ := Nat.exists_eq_succ_of_ne_zero (Nat.ne_of_gt (Nat.zero_lt_of_lt enough))
    obtain ⟨s₁, s₂, next, passed, laid⟩ := member_laid h
    have fewer := Nat.lt_of_succ_lt_succ enough
    rw [readMembers, next, List.foldlM_cons, take_eq, bind_assoc]
    refine (leaves_string name s₁).bind ?_
    rintro key _ rfl
    dsimp only
    rw [passed]
    cases Field.ofName? key with
    | none =>
      -- The value is not read at all, so nothing is asked of it.
      obtain ⟨s₃, skipped, later⟩ := skip_laid ends_members laid
      change Yields _ (Except.bind (skip s₂) fun s => readMembers fuel false d s) _
      rw [skipped]
      exact ih fewer later
    | some f =>
      dsimp only
      split
      · exact .error _
      · refine (reads_field f d v _ s₂ ends_members laid).bind ?_
        rintro d' ⟨_, s₃⟩ ⟨rfl, later⟩
        exact ih fewer later

def configOf (ms : List Member) : Option Config := do
  let d ← ms.foldlM Draft.take .empty
  match d.complete.validate with
  | .ok () => some d.complete
  | .error _ => none

theorem configOf_of_valid {ms : List Member} {d : Draft}
    (drafted : ms.foldlM Draft.take .empty = some d) (valid : d.complete.validate = .ok ()) :
    configOf ms = some d.complete := by
  rw [configOf, drafted, Option.bind_eq_bind, Option.bind_some, valid]

theorem reads_config {ms : List Member} {s : List Char}
    (h : Laid (Spelling.object ms).tokens s) :
    Reads [] (read s) (ms.foldlM Draft.take .empty >>= fun d => some d.complete) := by
  obtain ⟨rest, same, laid⟩ := h.skipBlanks_cons
  rw [read, same]
  refine ((reads_readMembers (length_lt_of_laid_members laid) laid).mapError _).bind ?_
  rintro _ ⟨d, s₁⟩ ⟨rfl, closes⟩
  obtain ⟨s₂, closed, left⟩ := closeObject_laid closes
  dsimp only
  rw [closed]
  exact .ok ⟨rfl, left⟩

/-- However an object is laid out, it is read as the configuration that its members stand for. -/
theorem toOption_ofText {ms : List Member} {text : String}
    (h : Laid (Spelling.object ms).tokens text.toList) : (ofText text).toOption = configOf ms := by
  have whole := toOption_wholeText (reads_config h)
  unfold ofText configOf
  generalize ms.foldlM Draft.take .empty = d? at whole ⊢
  generalize wholeText read text = r at whole ⊢
  cases d? with
  | none =>
    cases r with
    | error e => rfl
    | ok c => cases whole
  | some d =>
    cases r with
    | error e => cases whole
    | ok c =>
      cases whole
      rw [Option.bind_eq_bind, Option.bind_some]
      dsimp only
      cases d.complete.validate <;> rfl

end Config

end WebCrawl
