import Mathlib.Data.Bool.AllAny
import Mathlib.Data.List.TakeWhile
import WebCrawl.Json.Reader

/-!
# How a JSON value is spelled

A JSON text is the tokens of a tree with blanks before, between and after them. The tree keeps what
the text says and not only what it means: numbers with all their digits, strings with their escapes,
and the members of an object in their order, equal names included.
-/

namespace WebCrawl.Json

def decimals : List Char := ['0', '1', '2', '3', '4', '5', '6', '7', '8', '9']

theorem mem_decimals {c : Char} (h : c.isDigit = true) : c ∈ decimals := by
  have range : 48 ≤ c.toNat ∧ c.toNat ≤ 57 := by
    rw [Char.isDigit, Bool.and_eq_true, decide_eq_true_eq, decide_eq_true_eq] at h
    exact h
  have known : ∀ n < 58, 48 ≤ n → Char.ofNat n ∈ decimals := by decide
  rw [← Char.ofNat_toNat c]
  exact known c.toNat (Nat.lt_succ_of_le range.2) range.1

def IsDigits (ds : List Char) : Prop := ds ≠ [] ∧ ∀ c ∈ ds, c.isDigit = true

def exponentMarks : List (List Char) :=
  [['e'], ['E'], ['e', '+'], ['E', '+'], ['e', '-'], ['E', '-']]

structure Exponent where
  mark : List Char
  digits : List Char
  marked : mark ∈ exponentMarks
  isDigits : IsDigits digits

/-- A number of any magnitude. -/
structure Numeral where
  negative : Bool
  whole : List Char
  fraction : Option { ds : List Char // IsDigits ds }
  exponent : Option Exponent
  isDigits : IsDigits whole
  unpadded : whole.head? = some '0' → whole = ['0']

def escapes : List Char := ['"', '\\', '/', 'b', 'f', 'n', 'r', 't']

def hexDigits : List Char :=
  ['0', '1', '2', '3', '4', '5', '6', '7', '8', '9', 'a', 'b', 'c', 'd', 'e', 'f', 'A', 'B', 'C',
    'D', 'E', 'F']

/-- What stands between the quotes of a string, one piece after the other. A unit may be one half of
a pair of surrogates, or a half without the other. -/
inductive Piece where
  | plain (c : Char) (visible : 0x20 ≤ c.toNat) (unquoted : c ≠ '"') (unescaped : c ≠ '\\')
  | escape (e : Char) (known : e ∈ escapes)
  | unit (a b c d : Char) (hex : ∀ x ∈ [a, b, c, d], x ∈ hexDigits)

structure Literal where
  pieces : List Piece

inductive Spelling where
  | null
  | bool (value : Bool)
  | number (n : Numeral)
  | string (l : Literal)
  | array (items : List Spelling)
  | object (members : List (Literal × Spelling))

inductive Mark where
  | listOpens
  | listCloses
  | objectOpens
  | objectCloses
  | comma
  | colon

inductive Token where
  | mark (m : Mark)
  | null
  | bool (value : Bool)
  | number (n : Numeral)
  | string (l : Literal)

def Exponent.text (e : Exponent) : List Char := e.mark ++ e.digits

theorem Exponent.exists_text (e : Exponent) : ∃ mark sign, e.text = mark :: (sign ++ e.digits) ∧
    (mark = 'e' ∨ mark = 'E') ∧ sign ∈ [[], ['+'], ['-']] := by
  obtain ⟨mark, digits, marked, -⟩ := e
  simp only [exponentMarks, List.mem_cons, List.not_mem_nil, or_false] at marked
  rcases marked with rfl | rfl | rfl | rfl | rfl | rfl <;> exact ⟨_, _, rfl, by simp, by simp⟩

namespace Numeral

def fractionText (n : Numeral) : List Char :=
  match n.fraction with
  | none => []
  | some ds => '.' :: ds.1

def exponentText (n : Numeral) : List Char :=
  match n.exponent with
  | none => []
  | some e => e.text

theorem fractionText_of_none {n : Numeral} (h : n.fraction = none) : n.fractionText = [] := by
  rw [fractionText, h]

theorem fractionText_of_some {n : Numeral} {ds : { ds : List Char // IsDigits ds }}
    (h : n.fraction = some ds) : n.fractionText = '.' :: ds.1 := by
  rw [fractionText, h]

theorem exponentText_of_none {n : Numeral} (h : n.exponent = none) : n.exponentText = [] := by
  rw [exponentText, h]

theorem exponentText_of_some {n : Numeral} {e : Exponent} (h : n.exponent = some e) :
    n.exponentText = e.text := by
  rw [exponentText, h]

def body (n : Numeral) : List Char := n.whole ++ (n.fractionText ++ n.exponentText)

def text (n : Numeral) : List Char := if n.negative then '-' :: n.body else n.body

theorem exists_body (n : Numeral) : ∃ c rest, n.body = c :: rest ∧ c.isDigit = true := by
  obtain ⟨nonempty, digits⟩ := n.isDigits
  obtain ⟨c, rest, whole⟩ := List.exists_cons_of_ne_nil nonempty
  refine ⟨c, rest ++ (n.fractionText ++ n.exponentText), ?_, digits c ?_⟩
  · rw [body, whole, List.cons_append]
  · rw [whole]
    exact List.mem_cons_self

theorem text_of_negative {n : Numeral} (h : n.negative = true) : n.text = '-' :: n.body := by
  rw [text, if_pos h]

theorem text_of_not_negative {n : Numeral} (h : n.negative = false) : n.text = n.body := by
  rw [text, h]
  rfl

theorem exists_text (n : Numeral) : ∃ c rest, n.text = c :: rest ∧ c ∈ '-' :: decimals := by
  obtain ⟨c, rest, body, digit⟩ := n.exists_body
  cases signed : n.negative with
  | true => exact ⟨'-', n.body, text_of_negative signed, List.mem_cons_self⟩
  | false =>
    refine ⟨c, rest, ?_, List.mem_cons_of_mem _ (mem_decimals digit)⟩
    rw [text_of_not_negative signed, body]

end Numeral

def Piece.text : Piece → List Char
  | plain c .. => [c]
  | escape e _ => ['\\', e]
  | unit a b c d _ => ['\\', 'u', a, b, c, d]

namespace Literal

def tail (pieces : List Piece) : List Char := pieces.flatMap Piece.text ++ ['"']

def text (l : Literal) : List Char := '"' :: tail l.pieces

@[simp] theorem tail_nil : tail [] = ['"'] := rfl

@[simp] theorem tail_cons (p : Piece) (ps : List Piece) : tail (p :: ps) = p.text ++ tail ps := by
  simp [tail]

end Literal

def Mark.char : Mark → Char
  | listOpens => '['
  | listCloses => ']'
  | objectOpens => '\x7b'
  | objectCloses => '\x7d'
  | comma => ','
  | colon => ':'

namespace Token

def text : Token → List Char
  | mark m => [m.char]
  | null => ['n', 'u', 'l', 'l']
  | bool true => ['t', 'r', 'u', 'e']
  | bool false => ['f', 'a', 'l', 's', 'e']
  | number n => n.text
  | string l => l.text

def opens : Token → Bool
  | mark .listOpens => true
  | mark .objectOpens => true
  | mark _ => false
  | _ => true

def isMark : Token → Bool
  | mark _ => true
  | _ => false

theorem exists_text (t : Token) : ∃ c rest, t.text = c :: rest ∧ isBlank c = false := by
  cases t with
  | mark m => exact ⟨m.char, [], rfl, by cases m <;> rfl⟩
  | null => exact ⟨'n', _, rfl, rfl⟩
  | bool b => cases b <;> exact ⟨_, _, rfl, rfl⟩
  | number n =>
    obtain ⟨c, rest, text, first⟩ := n.exists_text
    have visible : ∀ c ∈ '-' :: decimals, isBlank c = false :=
      List.all_iff_forall_prop.mp (by decide)
    exact ⟨c, rest, text, visible c first⟩
  | string l => exact ⟨'"', _, rfl, rfl⟩

theorem exists_opening {t : Token} (h : t.opens = true) :
    ∃ c rest, t.text = c :: rest ∧ c ≠ ']' ∧ c ≠ '\x7d' ∧ c ≠ ',' := by
  cases t with
  | mark m =>
    cases m with
    | listOpens => exact ⟨_, _, rfl, by decide, by decide, by decide⟩
    | objectOpens => exact ⟨_, _, rfl, by decide, by decide, by decide⟩
    | _ => cases h
  | null => exact ⟨_, _, rfl, by decide, by decide, by decide⟩
  | bool b => cases b <;> exact ⟨_, _, rfl, by decide, by decide, by decide⟩
  | string l => exact ⟨_, _, rfl, by decide, by decide, by decide⟩
  | number n =>
    obtain ⟨c, rest, text, first⟩ := n.exists_text
    have apart : ∀ c ∈ '-' :: decimals, c ≠ ']' ∧ c ≠ '\x7d' ∧ c ≠ ',' :=
      List.all_iff_forall_prop.mp (by decide)
    exact ⟨c, rest, text, apart c first⟩

end Token

/-- The first item of a list has no comma before it. -/
def separator (first : Bool) : List Token := if first then [] else [.mark .comma]

mutual

def Spelling.tokens : Spelling → List Token
  | .null => [.null]
  | .bool b => [.bool b]
  | .number n => [.number n]
  | .string l => [.string l]
  | .array items => .mark .listOpens :: (itemTokens true items ++ [.mark .listCloses])
  | .object members => .mark .objectOpens :: (memberTokens true members ++ [.mark .objectCloses])

def itemTokens : Bool → List Spelling → List Token
  | _, [] => []
  | first, v :: rest => separator first ++ (v.tokens ++ itemTokens false rest)

def memberTokens : Bool → List (Literal × Spelling) → List Token
  | _, [] => []
  | first, (name, v) :: rest =>
    separator first ++ (.string name :: .mark .colon :: (v.tokens ++ memberTokens false rest))

end

/-- A text is the tokens with blanks before, between and after them. -/
inductive Laid : List Token → List Char → Prop where
  | nil {blanks : List Char} (blank : ∀ c ∈ blanks, isBlank c = true) : Laid [] blanks
  | cons {blanks rest : List Char} {t : Token} {ts : List Token}
      (blank : ∀ c ∈ blanks, isBlank c = true) (later : Laid ts rest) :
      Laid (t :: ts) (blanks ++ (t.text ++ rest))

namespace Spelling

/-- Induction on the tree: what holds of the items holds of the list. -/
theorem induct {P : Spelling → Prop} (null : P .null) (bool : ∀ b, P (.bool b))
    (number : ∀ n, P (.number n)) (string : ∀ l, P (.string l))
    (array : ∀ items, (∀ v ∈ items, P v) → P (.array items))
    (object : ∀ members : List (Literal × Spelling), (∀ m ∈ members, P m.2) → P (.object members))
    (v : Spelling) : P v :=
  @Spelling.rec P (fun items => ∀ v ∈ items, P v) (fun members => ∀ m ∈ members, P m.2)
    (fun m => P m.2) null bool number string array object nofun
    (fun _ _ first others => List.forall_mem_cons.mpr ⟨first, others⟩) nofun
    (fun _ _ first others => List.forall_mem_cons.mpr ⟨first, others⟩) (fun _ _ h => h) v

theorem exists_tokens (v : Spelling) : ∃ t ts, v.tokens = t :: ts ∧ t.opens = true := by
  cases v with
  | bool b => exact ⟨_, _, rfl, by cases b <;> rfl⟩
  | _ => exact ⟨_, _, rfl, rfl⟩

end Spelling

theorem length_le_itemTokens (first : Bool) (vs : List Spelling) :
    vs.length ≤ (itemTokens first vs).length := by
  induction vs generalizing first with
  | nil => exact Nat.zero_le _
  | cons v rest ih =>
    obtain ⟨t, ts, tokens, -⟩ := v.exists_tokens
    have later := ih false
    simp only [itemTokens, tokens, List.length_append, List.length_cons]
    omega

theorem length_le_memberTokens (first : Bool) (ms : List (Literal × Spelling)) :
    ms.length ≤ (memberTokens first ms).length := by
  induction ms generalizing first with
  | nil => exact Nat.zero_le _
  | cons m rest ih =>
    obtain ⟨name, v⟩ := m
    have later := ih false
    simp only [memberTokens, List.length_append, List.length_cons]
    omega

/-- What may follow a value: nothing, or a bracket, comma or colon. -/
def Ends (ts : List Token) : Prop := ∀ t ∈ ts.head?, t.isMark = true

@[simp] theorem ends_nil : Ends [] := nofun

@[simp] theorem ends_mark (m : Mark) (ts : List Token) : Ends (.mark m :: ts) := by
  rintro _ ⟨⟩
  rfl

theorem ends_items {vs : List Spelling} {m : Mark} {ts : List Token} :
    Ends (itemTokens false vs ++ .mark m :: ts) := by
  cases vs <;> exact ends_mark _ _

theorem ends_members {ms : List (Literal × Spelling)} {m : Mark} {ts : List Token} :
    Ends (memberTokens false ms ++ .mark m :: ts) := by
  cases ms <;> exact ends_mark _ _

theorem skipBlanks_append {blanks : List Char} (blank : ∀ c ∈ blanks, isBlank c = true)
    (s : List Char) : skipBlanks (blanks ++ s) = skipBlanks s :=
  List.dropWhile_append_of_pos blank

namespace Laid

variable {t : Token} {ts : List Token} {s : List Char}

theorem skipBlanks_nil (h : Laid [] s) : skipBlanks s = [] := by
  cases h with
  | nil blank => exact List.dropWhile_eq_nil_iff.mpr blank

theorem skipBlanks_cons (h : Laid (t :: ts) s) :
    ∃ rest, skipBlanks s = t.text ++ rest ∧ Laid ts rest := by
  cases h with
  | @cons _ rest _ _ blank later =>
    obtain ⟨c, cs, text, visible⟩ := t.exists_text
    refine ⟨rest, ?_, later⟩
    rw [skipBlanks_append blank, text, List.cons_append, skipBlanks]
    exact List.dropWhile_cons_of_neg (by simp [visible])

theorem of_array {items : List Spelling} (h : Laid ((Spelling.array items).tokens ++ ts) s) :
    ∃ rest, skipBlanks s = '[' :: rest ∧
      Laid (itemTokens true items ++ .mark .listCloses :: ts) rest := by
  rw [Spelling.tokens, List.cons_append, List.append_assoc, List.singleton_append] at h
  exact h.skipBlanks_cons

theorem of_object {members : List (Literal × Spelling)}
    (h : Laid ((Spelling.object members).tokens ++ ts) s) : ∃ rest,
      skipBlanks s = '\x7b' :: rest ∧
        Laid (memberTokens true members ++ .mark .objectCloses :: ts) rest := by
  rw [Spelling.tokens, List.cons_append, List.append_assoc, List.singleton_append] at h
  exact h.skipBlanks_cons

theorem skipBlanks (h : Laid ts s) : Laid ts (skipBlanks s) := by
  cases ts with
  | nil =>
    rw [h.skipBlanks_nil]
    exact .nil nofun
  | cons t ts =>
    obtain ⟨rest, same, later⟩ := h.skipBlanks_cons
    rw [same]
    exact @Laid.cons [] rest t ts nofun later

theorem length_le (h : Laid ts s) : ts.length ≤ s.length := by
  induction h with
  | nil => exact Nat.zero_le _
  | @cons blanks rest t ts _ _ ih =>
    obtain ⟨c, cs, text, -⟩ := t.exists_text
    simp only [text, List.length_append, List.length_cons]
    omega

theorem compact (ts : List Token) : Laid ts (ts.flatMap Token.text) := by
  induction ts with
  | nil => exact .nil nofun
  | cons t ts ih => exact @Laid.cons [] _ t ts nofun ih

end Laid

theorem length_lt_of_laid_items {first : Bool} {vs : List Spelling} {ts : List Token}
    {s : List Char} (h : Laid (itemTokens first vs ++ ts) s) : vs.length < s.length + 1 := by
  have tokens := h.length_le
  have few := length_le_itemTokens first vs
  rw [List.length_append] at tokens
  omega

theorem length_lt_of_laid_members {first : Bool} {ms : List (Literal × Spelling)}
    {ts : List Token} {s : List Char} (h : Laid (memberTokens first ms ++ ts) s) :
    ms.length < s.length + 1 := by
  have tokens := h.length_le
  have few := length_le_memberTokens first ms
  rw [List.length_append] at tokens
  omega

end WebCrawl.Json
