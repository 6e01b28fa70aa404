import Mathlib.Data.Multiset.AddSub
import Mathlib.Logic.Relation
import WebCrawl.Proofs.Config.Meaning

/-!
# Texts that mean the same

The meaning of a configuration is made of what its known members say. So the members may come in any
order, those of the filter too, a member that says what holds by default may be left out, and what
has another name may be added, with any value.
-/

namespace WebCrawl

theorem foldlM_perm {α β : Type} {f : β → α → Option β}
    (swap : ∀ b x y, (f b x >>= fun c => f c y) = f b y >>= fun c => f c x) {l l' : List α}
    (h : l.Perm l') (b : β) : l.foldlM f b = l'.foldlM f b := by
  induction h generalizing b with
  | nil => rfl
  | cons x _ ih =>
    rw [List.foldlM_cons, List.foldlM_cons]
    exact congrArg (f b x >>= ·) (funext ih)
  | swap x y l =>
    simp only [List.foldlM_cons]
    rw [← bind_assoc, swap b y x, bind_assoc]
  | trans _ _ ih ih' => rw [ih, ih']

namespace Config

open Json

theorem heed_swap {β μ σ : Type} {tell : μ → Option (Option σ)} {add : β → σ → Option β}
    (swap : ∀ b s t, (add b s >>= fun c => add c t) = add b t >>= fun c => add c s) (b : β)
    (m m' : μ) : (heed tell add b m >>= fun c => heed tell add c m') =
      heed tell add b m' >>= fun c => heed tell add c m := by
  unfold heed
  rcases tell m with _ | _ | s
  · simp
  · simp
  · rcases tell m' with _ | _ | t
    · simp
    · simp
    · exact swap b s t

/-! ## The order of the members -/

theorem isGiven_set (d : Draft) (s : Setting) (f : Field) :
    f.isGiven (d.set s) = (f.isGiven d || decide (f = s.field)) := by
  cases s <;> cases f <;> simp [Field.isGiven, Draft.set, Setting.field]

theorem set_swap {s t : Setting} (apart : s.field ≠ t.field) (d : Draft) :
    (d.set s).set t = (d.set t).set s := by
  cases s <;> cases t <;> first
    | rfl
    | exact absurd rfl apart

theorem add_swap (d : Draft) (s t : Setting) :
    (d.add s >>= fun d => d.add t) = d.add t >>= fun d => d.add s := by
  unfold Draft.add
  by_cases given : s.field.isGiven d = true
  · by_cases given' : t.field.isGiven d = true <;> simp [given, given', isGiven_set]
  · by_cases given' : t.field.isGiven d = true
    · simp [given, given', isGiven_set]
    · by_cases same : s.field = t.field
      · simp [given', isGiven_set, same]
      · simp [given, given', isGiven_set, same, Ne.symm same, set_swap same]

theorem take_swap (d : Draft) (m m' : Member) :
    (d.take m >>= fun d => d.take m') = d.take m' >>= fun d => d.take m :=
  heed_swap add_swap d m m'

/-! ## The order of the members of a filter -/

/-- What a member of a Bloom filter says of its sizes. -/
inductive Sizing where
  | expected (n : UInt64)
  | rate (x : Float)

def sizing (m : String × Json) : Option (Option Sizing) :=
  if m.1 = "expected_insertions" then (unsigned? "usize" m.2).toOption.map (some ∘ .expected)
  else if m.1 = "false_positive_rate" then (rate? m.2).toOption.map (some ∘ .rate)
  else some none

def addSizing (sizes : Option UInt64 × Option Float) :
    Sizing → Option (Option UInt64 × Option Float)
  | .expected n => if sizes.1.isSome then none else some (some n, sizes.2)
  | .rate x => if sizes.2.isSome then none else some (sizes.1, some x)

theorem addSizing_swap (sizes : Option UInt64 × Option Float) (s t : Sizing) :
    (addSizing sizes s >>= fun b => addSizing b t) =
      addSizing sizes t >>= fun b => addSizing b s := by
  obtain ⟨expected, rate⟩ := sizes
  cases expected <;> cases rate <;> cases s <;> cases t <;> rfl

theorem toOption_bloomMembers (sizes : Option UInt64 × Option Float) (ms : List (String × Json)) :
    (bloomMembers sizes.1 sizes.2 ms).toOption =
      (ms.foldlM (heed sizing addSizing) sizes).map fun s =>
        .bloom (s.1.getD FilterKind.defaultExpected) (s.2.getD FilterKind.defaultRate) := by
  induction ms generalizing sizes with
  | nil => rfl
  | cons m rest ih =>
    obtain ⟨name, v⟩ := m
    obtain ⟨expected, rate⟩ := sizes
    rw [bloomMembers, List.foldlM_cons, heed, sizing]
    dsimp only
    split
    · cases unsigned? "usize" v with
      | error issue => cases expected <;> rfl
      | ok n =>
        cases expected with
        | some _ => rfl
        | none => exact ih (some n, rate)
    · split
      · cases rate? v with
        | error issue => cases rate <;> rfl
        | ok x =>
          cases rate with
          | some _ => rfl
          | none => exact ih (expected, some x)
      · exact ih (expected, rate)

theorem judge_perm (tag : FilterTag) {ms ms' : List (String × Json)} (h : ms.Perm ms') :
    (judge tag (.named ms)).toOption = (judge tag (.named ms')).toOption := by
  cases tag with
  | bloom =>
    have sizes := toOption_bloomMembers (none, none)
    simp only [judge]
    rw [sizes ms, sizes ms', foldlM_perm (heed_swap addSizing_swap) h]
  | _ => rfl

/-- What a member of a filter object is: its kind, or something else that is kept. -/
inductive Part where
  | kind (tag : FilterTag)
  | other (m : String × Json)

def part (depth : Nat) (m : Member) : Option (Option Part) := do
  let key ← m.1.string?
  if key = "kind" then (tagOf m.2).map (some ∘ .kind)
  else (m.2.build depth).map fun x => some (.other (key, x))

def addPart (parts : Option FilterTag × Multiset (String × Json)) :
    Part → Option (Option FilterTag × Multiset (String × Json))
  | .kind tag => if parts.1.isSome then none else some (some tag, parts.2)
  | .other m => some (parts.1, m ::ₘ parts.2)

theorem addPart_swap (parts : Option FilterTag × Multiset (String × Json)) (s t : Part) :
    (addPart parts s >>= fun b => addPart b t) = addPart parts t >>= fun b => addPart b s := by
  obtain ⟨tag?, others⟩ := parts
  cases s with
  | kind tag => cases tag? <;> cases t <;> rfl
  | other m =>
    cases t with
    | kind tag => cases tag? <;> rfl
    | other m' => exact congrArg (fun ms => some (tag?, ms)) (Multiset.cons_swap m' m others)

theorem map_filterParts (depth : Nat) (ms : List Member) (tag? : Option FilterTag)
    (others : Multiset (String × Json)) :
    ((filterParts depth tag? ms).map fun p => (p.1, others + p.2)) =
      ms.foldlM (heed (part depth) addPart) (tag?, others) := by
  induction ms generalizing tag? others with
  | nil => simp [filterParts]
  | cons m rest ih =>
    obtain ⟨name, v⟩ := m
    rw [filterParts, List.foldlM_cons, heed, part]
    cases name.string? with
    | none => rfl
    | some key =>
      simp only [Option.bind_eq_bind, Option.bind_some]
      split
      · cases tagOf v with
        | none => cases tag? <;> rfl
        | some tag =>
          cases tag? with
          | some _ => rfl
          | none => exact ih (some tag) others
      · cases v.build depth with
        | none => rfl
        | some x =>
          refine Eq.trans ?_ (ih tag? ((key, x) ::ₘ others))
          cases filterParts depth tag? rest with
          | none => rfl
          | some p =>
            have kept : others + ((key, x) :: p.2 : List (String × Json)) =
                (key, x) ::ₘ others + p.2 := by
              rw [← Multiset.cons_coe, Multiset.add_cons, Multiset.cons_add]
            exact congrArg (fun ms => some (p.1, ms)) kept

theorem filterOf_perm (depth : Nat) {ms ms' : List Member} (h : ms.Perm ms') :
    filterOf depth (.object ms) = filterOf depth (.object ms') := by
  have parts := map_filterParts depth ms none 0
  rw [foldlM_perm (heed_swap addPart_swap) h, ← map_filterParts depth ms' none 0] at parts
  simp only [filterOf, shapeOf]
  generalize filterParts depth none ms = p? at parts ⊢
  generalize filterParts depth none ms' = p?' at parts ⊢
  cases p? with
  | none =>
    cases p?' with
    | none => rfl
    | some p' => cases parts
  | some p =>
    cases p?' with
    | none => cases parts
    | some p' =>
      obtain ⟨tag?, xs⟩ := p
      obtain ⟨tag?', xs'⟩ := p'
      simp only [Option.map_some, Multiset.zero_add, Option.some.injEq, Prod.mk.injEq,
        Multiset.coe_eq_coe] at parts
      obtain ⟨rfl, others⟩ := parts
      cases tag? with
      | none => rfl
      | some tag => exact judge_perm tag others

/-! ## Members that may come and go -/

/-- The first value is the second, or is missing where the second is the default. -/
def Defers {α : Type} (default : α) (x x' : Option α) : Prop :=
  x = x' ∨ x = none ∧ x' = some default

namespace Defers

variable {α : Type} {default : α} {x x' : Option α}

theorem getD_eq (h : Defers default x x') : x.getD default = x'.getD default := by
  rcases h with rfl | ⟨rfl, rfl⟩ <;> rfl

theorem isSome_eq_false (h : Defers default x x') (missing : x'.isSome = false) :
    x.isSome = false := by
  rcases h with rfl | ⟨rfl, rfl⟩
  · exact missing
  · rfl

theorem of_getD (same : x.getD default = default) : Defers default none x := by
  cases x with
  | none => exact .inl rfl
  | some a => exact .inr ⟨rfl, congrArg some same⟩

end Defers

/-- What one draft lacks of another holds by default. -/
structure Lacks (d d' : Draft) : Prop where
  fetchWorkers : Defers Config.default.fetchWorkers d.fetchWorkers d'.fetchWorkers
  processWorkers : Defers Config.default.processWorkers d.processWorkers d'.processWorkers
  waitMillis : Defers Config.default.waitMillis d.waitMillis d'.waitMillis
  filter : Defers Config.default.filter d.filter d'.filter

namespace Lacks

variable {d d' : Draft}

theorem of_complete (h : d.complete = Config.default) : Lacks .empty d where
  fetchWorkers := .of_getD (congrArg Config.fetchWorkers h)
  processWorkers := .of_getD (congrArg Config.processWorkers h)
  waitMillis := .of_getD (congrArg Config.waitMillis h)
  filter := .of_getD (congrArg Config.filter h)

theorem complete (h : Lacks d d') : d.complete = d'.complete := by
  unfold Draft.complete
  rw [h.fetchWorkers.getD_eq, h.processWorkers.getD_eq, h.waitMillis.getD_eq, h.filter.getD_eq]

theorem isGiven (h : Lacks d d') {f : Field} (missing : f.isGiven d' = false) :
    f.isGiven d = false := by
  cases f with
  | fetchWorkers => exact h.fetchWorkers.isSome_eq_false missing
  | processWorkers => exact h.processWorkers.isSome_eq_false missing
  | waitMillis => exact h.waitMillis.isSome_eq_false missing
  | filter => exact h.filter.isSome_eq_false missing

theorem set (h : Lacks d d') (s : Setting) : Lacks (d.set s) (d'.set s) := by
  cases s with
  | fetchWorkers n => exact ⟨.inl rfl, h.processWorkers, h.waitMillis, h.filter⟩
  | processWorkers n => exact ⟨h.fetchWorkers, .inl rfl, h.waitMillis, h.filter⟩
  | waitMillis n => exact ⟨h.fetchWorkers, h.processWorkers, .inl rfl, h.filter⟩
  | filter k => exact ⟨h.fetchWorkers, h.processWorkers, h.waitMillis, .inl rfl⟩

theorem take (h : Lacks d d') {m : Member} {e' : Draft} (taken : d'.take m = some e') :
    ∃ e, d.take m = some e ∧ Lacks e e' := by
  obtain ⟨said, known, adds⟩ := Option.bind_eq_some_iff.mp taken
  cases said with
  | none =>
    cases adds
    exact ⟨d, take_of_none known d, h⟩
  | some s =>
    rw [take_of_some known]
    dsimp only [Draft.add] at adds ⊢
    split at adds
    · cases adds
    · rename_i missing
      cases adds
      have missing' := h.isGiven (Bool.eq_false_iff.mpr missing)
      exact ⟨d.set s, if_neg (Bool.eq_false_iff.mp missing'), h.set s⟩

theorem foldlM (h : Lacks d d') {ms : List Member} {e' : Draft}
    (taken : ms.foldlM Draft.take d' = some e') :
    ∃ e, ms.foldlM Draft.take d = some e ∧ Lacks e e' := by
  induction ms generalizing d d' with
  | nil =>
    cases taken
    exact ⟨d, rfl, h⟩
  | cons m rest ih =>
    rw [List.foldlM_cons] at taken
    obtain ⟨c', one, others⟩ := Option.bind_eq_some_iff.mp taken
    obtain ⟨c, one', lacks⟩ := h.take one
    obtain ⟨e, others', lacks'⟩ := ih lacks others
    exact ⟨e, by rw [List.foldlM_cons, one']; exact others', lacks'⟩

end Lacks

theorem configOf_perm {ms ms' : List Member} (h : ms.Perm ms') : configOf ms = configOf ms' := by
  unfold configOf
  rw [foldlM_perm take_swap h]

theorem configOf_congr {before after : List Member} {m m' : Member}
    (same : settingOf m = settingOf m') :
    configOf (before ++ m :: after) = configOf (before ++ m' :: after) := by
  have taken : ∀ d : Draft, d.take m = d.take m' := by
    intro d
    simp only [Draft.take, heed, same]
  unfold configOf
  simp only [List.foldlM_append, List.foldlM_cons, taken]

theorem configOf_drop {m : Member} {ms : List Member} {c : Config}
    (alone : configOf [m] = some Config.default) (h : configOf (m :: ms) = some c) :
    configOf ms = some c := by
  obtain ⟨d, first, by_default⟩ := Option.bind_eq_some_iff.mp alone
  obtain ⟨e, all, accepted⟩ := Option.bind_eq_some_iff.mp h
  have one : Draft.empty.take m = some d := by simpa using first
  have complete : d.complete = Config.default := by
    cases valid : d.complete.validate with
    | ok _ =>
      rw [valid] at by_default
      exact Option.some.inj by_default
    | error issue =>
      rw [valid] at by_default
      cases by_default
  -- What the member has set is missing without it, and holds by default.
  rw [List.foldlM_cons, one] at all
  obtain ⟨e', others, lacks⟩ := (Lacks.of_complete complete).foldlM all
  unfold configOf
  rw [others, Option.bind_eq_bind, Option.bind_some, lacks.complete]
  exact accepted

theorem configOf_insert {m : Member} {ms : List Member} (mute : settingOf m = some none) :
    configOf (m :: ms) = configOf ms := by
  unfold configOf
  rw [List.foldlM_cons, take_of_none mute]
  rfl

/-- The text of a tree without blanks. -/
def compactText (v : Spelling) : String := String.ofList (v.tokens.flatMap Token.text)

theorem laid_compactText (v : Spelling) : Laid v.tokens (compactText v).toList := by
  rw [compactText, String.toList_ofList]
  exact .compact _

theorem toOption_ofText_compactText (ms : List Member) :
    (ofText (compactText (.object ms))).toOption = configOf ms :=
  toOption_ofText (laid_compactText _)

/-- One change to an object text: the members in another order, the members of the filter in another
order, a member left out that says what holds by default, or a further member of an unknown name,
whose value may be any. -/
inductive Rearranges : List Member → List Member → Prop where
  | permuted {ms ms' : List Member} (h : ms.Perm ms') : Rearranges ms ms'
  | filterPermuted (before after : List Member) {name : Literal} {fs fs' : List Member}
      (named : name.string? = some Field.filter.name) (h : fs.Perm fs') :
      Rearranges (before ++ (name, .object fs) :: after) (before ++ (name, .object fs') :: after)
  | dropped (before after : List Member) {m : Member}
      (by_default : ofText (compactText (.object [m])) = .ok Config.default) :
      Rearranges (before ++ m :: after) (before ++ after)
  | inserted (before after : List Member) {name : Literal} {key : String} (v : Spelling)
      (named : name.string? = some key) (unknown : Field.ofName? key = none) :
      Rearranges (before ++ after) (before ++ (name, v) :: after)

theorem Rearranges.configOf {ms ms' : List Member} {c : Config} (h : Rearranges ms ms')
    (accepted : configOf ms = some c) : configOf ms' = some c := by
  cases h with
  | permuted h => rwa [← configOf_perm h]
  | @filterPermuted before after name fs fs' named h =>
    have same : settingOf (name, .object fs) = settingOf (name, .object fs') := by
      simp only [settingOf_of_field named, Field.setting, filterOf_perm _ h]
    rwa [← configOf_congr same]
  | @dropped before after m by_default =>
    have alone : Config.configOf [m] = some Config.default := by
      rw [← toOption_ofText_compactText, by_default]
      rfl
    rw [configOf_perm List.perm_middle] at accepted
    exact configOf_drop alone accepted
  | @inserted before after name key v named unknown =>
    have mute : settingOf (name, v) = some none := by
      simp only [settingOf, named, Option.bind_eq_bind, Option.bind_some, unknown]
    rw [configOf_perm List.perm_middle, configOf_insert mute]
    exact accepted

/-- If the text of an object is accepted as a configuration, then so is every text that comes of it
by changes to its members and by any other blanks between its tokens, as the same
configuration. -/
theorem ofText_of_rearranged {ms ms' : List Member}
    (changed : Relation.ReflTransGen Rearranges ms ms') {text text' : String}
    (laid : Laid (Spelling.object ms).tokens text.toList)
    (laid' : Laid (Spelling.object ms').tokens text'.toList) {c : Config}
    (accepted : ofText text = .ok c) : ofText text' = .ok c := by
  have first : configOf ms = some c := by
    rw [← toOption_ofText laid, accepted]
    rfl
  have last : configOf ms' = some c := by
    clear laid'
    induction changed with
    | refl => exact first
    | tail _ change ih => exact change.configOf ih
  rw [← toOption_ofText laid'] at last
  exact of_toOption_eq_some last

/-- A string in which nothing is escaped; what would have to be is left out. -/
def plainly (text : String) : Literal where
  pieces := text.toList.filterMap fun c =>
    if h : 0x20 ≤ c.toNat ∧ c ≠ '"' ∧ c ≠ '\\' then some (.plain c h.1 h.2.1 h.2.2) else none

def patient : Member :=
  (plainly "wait_millis",
    .number ⟨false, ['5', '0', '0'], none, none, ⟨nofun, List.all_eq_true.mp rfl⟩, nofun⟩)

def acceptsAll : Member := (plainly "kind", .string (plainly "none"))

def remark : Member := (plainly "remark", .array [.null])

/-- The interval is left out, the filter turned round, and a remark put before it. -/
theorem ofText_of_rearranged_remark :
    ofText (compactText (.object [patient, (plainly "filter", .object [acceptsAll, remark])])) =
        .ok ⟨5, 1, 500, .none⟩ ∧
      ofText ("\n" ++ compactText
        (.object [remark, (plainly "filter", .object [remark, acceptsAll])])) =
          .ok ⟨5, 1, 500, .none⟩ := by
  have accepted : ofText (compactText
      (.object [patient, (plainly "filter", .object [acceptsAll, remark])])) =
        .ok ⟨5, 1, 500, .none⟩ :=
    of_toOption_eq_some (toOption_ofText_compactText _)
  have by_default : ofText (compactText (.object [patient])) = .ok Config.default :=
    of_toOption_eq_some (toOption_ofText_compactText _)
  have dropped : Rearranges [patient, (plainly "filter", .object [acceptsAll, remark])]
      [(plainly "filter", .object [acceptsAll, remark])] := .dropped [] _ by_default
  have turned : Rearranges [(plainly "filter", .object [acceptsAll, remark])]
      [(plainly "filter", .object [remark, acceptsAll])] :=
    .filterPermuted [] [] rfl (.swap _ _ _)
  have inserted : Rearranges [(plainly "filter", .object [remark, acceptsAll])]
      [remark, (plainly "filter", .object [remark, acceptsAll])] :=
    @Rearranges.inserted [] _ _ "remark" _ rfl (by decide)
  refine ⟨accepted, ofText_of_rearranged
    (((Relation.ReflTransGen.single dropped).tail turned).tail inserted) (laid_compactText _) ?_
    accepted⟩
  rw [String.toList_append, compactText, String.toList_ofList]
  exact @Laid.cons ['\n'] _ _ _ (List.all_eq_true.mp rfl) (.compact _)

end Config

end WebCrawl
