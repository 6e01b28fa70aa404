import WebCrawl.Proofs.Json.Spelling

/-!
# What numbers and strings say

A number and a string say the same wherever they stand: their reading takes all of them, whatever
text follows. A number is refused if no double is near to it, and a string if it has half a pair of
surrogates.
-/

namespace WebCrawl.Json

/-- A reading that yields something or is refused, as it should. -/
inductive Yields {α β : Type} (R : α → β → Prop) : Except Failure β → Option α → Prop where
  | ok {a : α} {b : β} (h : R a b) : Yields R (.ok b) (some a)
  | error (e : Failure) : Yields R (.error e) none

namespace Yields

variable {α β γ δ : Type} {R : α → β → Prop} {Q : γ → δ → Prop}

theorem bind {x : Except Failure β} {a? : Option α} {k : β → Except Failure δ} {f : α → Option γ}
    (hx : Yields R x a?) (hk : ∀ a b, R a b → Yields Q (k b) (f a)) :
    Yields Q (x >>= k) (a? >>= f) := by
  cases hx with
  | ok h => exact hk _ _ h
  | error e => exact .error e

theorem mapError {x : Except Failure β} {a? : Option α} (hx : Yields R x a?)
    (f : Failure → Failure) : Yields R (x.mapError f) a? := by
  cases hx with
  | ok h => exact .ok h
  | error e => exact .error (f e)

end Yields

/-! ## Numbers -/

def isNumeric (c : Char) : Bool :=
  c.isDigit || c == '.' || c == 'e' || c == 'E' || c == '+' || c == '-'

/-- What follows cannot be taken for a part of a number. -/
def Stops (t : List Char) : Prop := ∀ c ∈ t.head?, isNumeric c = false

theorem stops_of_laid {ts : List Token} {s : List Char} (h : Laid ts s) (ends : Ends ts) :
    Stops s := by
  have blanks : ∀ c, isBlank c = true → isNumeric c = false := by
    intro c blank
    simp only [isBlank, Bool.or_eq_true, decide_eq_true_eq] at blank
    rcases blank with ((rfl | rfl) | rfl) | rfl <;> rfl
  cases h with
  | nil blank => exact fun c first => blanks c (blank c (List.mem_of_mem_head? first))
  | @cons bs rest t ts blank later =>
    cases bs with
    | cons b bs =>
      rintro c ⟨⟩
      exact blanks b (blank b List.mem_cons_self)
    | nil =>
      have mark := ends t rfl
      cases t with
      | mark m =>
        rintro c ⟨⟩
        cases m <;> rfl
      | _ => cases mark

/-- A reading that leaves just the text that follows. -/
def Leaves {α : Type} (t : List Char) : Reading α → Option α → Prop :=
  Yields fun a b => b = (a, t)

theorem Stops.noDigit {t : List Char} (h : Stops t) : ∀ c ∈ t.head?, c.isDigit = false := by
  intro c hc
  have plain := h c hc
  simp only [isNumeric, Bool.or_eq_false_iff] at plain
  exact plain.1.1.1.1.1

theorem span_digits {ds t : List Char} (digits : ∀ c ∈ ds, c.isDigit = true)
    (ends : ∀ c ∈ t.head?, c.isDigit = false) :
    (ds ++ t).takeWhile Char.isDigit = ds ∧ (ds ++ t).dropWhile Char.isDigit = t := by
  rw [List.takeWhile_append_of_pos digits, List.dropWhile_append_of_pos digits]
  cases t with
  | nil => exact ⟨List.append_nil ds, rfl⟩
  | cons c t =>
    have none := ends c rfl
    simp [none]

section number

variable (negative : Bool) (significand : Nat) (exponent : Int)

theorem exists_leaves_scaled :
    ∃ a?, ∀ t, Leaves t (scaled negative significand exponent t) a? := by
  unfold scaled
  cases scale significand exponent with
  | none => exact ⟨none, fun t => .error _⟩
  | some x => exact ⟨some (.float (signed negative x)), fun t => .ok rfl⟩

theorem exists_exponentDigits {ds : List Char} (digits : ∀ c ∈ ds, c.isDigit = true)
    (value : Nat) : ∃ e? unread, (∀ c ∈ unread, c.isDigit = true) ∧
      (e? ≠ none → unread = []) ∧ ∀ t : List Char, (∀ c ∈ t.head?, c.isDigit = false) →
        exponentDigits value (ds ++ t) = (e?, unread ++ t) := by
  induction ds generalizing value with
  | nil =>
    refine ⟨some value, [], nofun, fun _ => rfl, fun t ends => ?_⟩
    cases t with
    | nil => rfl
    | cons c t => simp [exponentDigits, ends c rfl]
  | cons c ds ih =>
    obtain ⟨digit, others⟩ := List.forall_mem_cons.mp digits
    by_cases fits : value * 10 + digitValue c < exponentBound
    · obtain ⟨e?, unread, rest, all, reads⟩ := ih others (value * 10 + digitValue c)
      refine ⟨e?, unread, rest, all, fun t ends => ?_⟩
      rw [List.cons_append, exponentDigits, if_pos digit, if_pos fits, reads t ends]
    · refine ⟨none, ds, others, fun known => absurd rfl known, fun t _ => ?_⟩
      rw [List.cons_append, exponentDigits, if_pos digit, if_neg fits]

theorem exponentPart_unsigned {c : Char} (digit : c.isDigit = true) (s : List Char) :
    exponentPart negative significand exponent (c :: s) =
      exponentPart negative significand exponent ('+' :: c :: s) := by
  have plus : c ≠ '+' := by
    rintro rfl
    cases digit
  have minus : c ≠ '-' := by
    rintro rfl
    cases digit
  simp [exponentPart, plus, minus]

theorem exponentPart_signed {c : Char} (digit : c.isDigit = true) (down : Bool) (s : List Char) :
    exponentPart negative significand exponent ((if down then '-' else '+') :: c :: s) =
      match exponentDigits (digitValue c) s with
      | (some e, rest) =>
        scaled negative significand
          (clampExponent (if down then exponent - (e : Int) else exponent + (e : Int))) rest
      | (none, rest) =>
        if significand ≠ 0 ∧ ¬down then .error (.before .numberOutOfRange rest)
        else .ok (.float (signed negative 0.0), rest.dropWhile Char.isDigit) := by
  cases down <;> exact if_neg (not_not_intro digit)

theorem exists_leaves_signed {c : Char} {ds : List Char} (digit : c.isDigit = true)
    (digits : ∀ c ∈ ds, c.isDigit = true) (down : Bool) : ∃ a?, ∀ t, Stops t →
      Leaves t (exponentPart negative significand exponent
        ((if down then '-' else '+') :: c :: (ds ++ t))) a? := by
  obtain ⟨e?, unread, rest, consumed, reads⟩ := exists_exponentDigits digits (digitValue c)
  cases e? with
  | some e =>
    cases consumed nofun
    obtain ⟨a?, leaves⟩ := exists_leaves_scaled negative significand
      (clampExponent (if down then exponent - (e : Int) else exponent + (e : Int)))
    refine ⟨a?, fun t stops => ?_⟩
    rw [exponentPart_signed _ _ _ digit, reads t stops.noDigit]
    exact leaves t
  | none =>
    refine ⟨if significand ≠ 0 ∧ ¬down then none else some (.float (signed negative 0.0)),
      fun t stops => ?_⟩
    rw [exponentPart_signed _ _ _ digit, reads t stops.noDigit]
    dsimp only
    split
    · exact .error _
    · exact .ok (congrArg (Prod.mk _) (span_digits rest stops.noDigit).2)

theorem exists_leaves_exponentPart {sign ds : List Char} (signs : sign ∈ [[], ['+'], ['-']])
    (digits : IsDigits ds) : ∃ a?, ∀ t, Stops t →
      Leaves t (exponentPart negative significand exponent (sign ++ (ds ++ t))) a? := by
  obtain ⟨nonempty, all⟩ := digits
  obtain ⟨c, ds, rfl⟩ := List.exists_cons_of_ne_nil nonempty
  obtain ⟨digit, others⟩ := List.forall_mem_cons.mp all
  obtain ⟨up?, up⟩ := exists_leaves_signed negative significand exponent digit others false
  obtain ⟨down?, down⟩ := exists_leaves_signed negative significand exponent digit others true
  simp only [List.mem_cons, List.not_mem_nil, or_false] at signs
  rcases signs with rfl | rfl | rfl
  · refine ⟨up?, fun t stops => ?_⟩
    rw [List.nil_append, List.cons_append, exponentPart_unsigned _ _ _ digit]
    exact up t stops
  · exact ⟨up?, up⟩
  · exact ⟨down?, down⟩

theorem exists_leaves_exponent (e : Exponent) : ∃ mark rest a?, e.text = mark :: rest ∧
    (mark = 'e' ∨ mark = 'E') ∧
    ∀ t, Stops t → Leaves t (exponentPart negative significand exponent (rest ++ t)) a? := by
  obtain ⟨mark, sign, text, either, signs⟩ := e.exists_text
  obtain ⟨a?, leaves⟩ :=
    exists_leaves_exponentPart negative significand exponent signs e.isDigits
  refine ⟨mark, sign ++ e.digits, a?, text, either, fun t stops => ?_⟩
  rw [List.append_assoc]
  exact leaves t stops

theorem Stops.unmarked {t : List Char} (h : Stops t) {c : Char} {rest : List Char}
    (same : t = c :: rest) : c ≠ '.' ∧ c ≠ 'e' ∧ c ≠ 'E' := by
  have plain := h c (by rw [same]; rfl)
  refine ⟨?_, ?_, ?_⟩
  all_goals
    rintro rfl
    cases plain

theorem noDigit_of_mark {mark : Char} (either : mark = 'e' ∨ mark = 'E') (rest : List Char) :
    ∀ c ∈ (mark :: rest).head?, c.isDigit = false := by
  rintro c ⟨⟩
  rcases either with rfl | rfl <;> rfl

theorem fractionPart_marked {ds rest : List Char} {mark : Char} (digits : IsDigits ds)
    (either : mark = 'e' ∨ mark = 'E') :
    fractionPart negative significand exponent (ds ++ mark :: rest) =
      exponentPart negative (accumulate significand ds).1
        (exponent - ((ds.length - (accumulate significand ds).2.length : Nat) : Int)) rest := by
  obtain ⟨nonempty, all⟩ := digits
  obtain ⟨taken, left⟩ := span_digits all (noDigit_of_mark either rest)
  have some_digits : ¬ ds.isEmpty = true := by simpa using nonempty
  simp only [fractionPart, taken, left, if_neg some_digits]
  rcases either with rfl | rfl <;> rfl

theorem fractionPart_unmarked {ds t : List Char} (digits : IsDigits ds) (stops : Stops t) :
    fractionPart negative significand exponent (ds ++ t) =
      scaled negative (accumulate significand ds).1
        (exponent - ((ds.length - (accumulate significand ds).2.length : Nat) : Int)) t := by
  obtain ⟨nonempty, all⟩ := digits
  obtain ⟨taken, left⟩ := span_digits all stops.noDigit
  have some_digits : ¬ ds.isEmpty = true := by simpa using nonempty
  simp only [fractionPart, taken, left, if_neg some_digits]
  split
  · exact absurd rfl (stops.unmarked rfl).2.1
  · exact absurd rfl (stops.unmarked rfl).2.2
  · rfl

theorem exists_leaves_fractionPart (n : Numeral) {ds : List Char} (digits : IsDigits ds) :
    ∃ a?, ∀ t, Stops t → Leaves t
      (fractionPart negative significand exponent (ds ++ (n.exponentText ++ t))) a? := by
  cases given : n.exponent with
  | none =>
    obtain ⟨a?, leaves⟩ := exists_leaves_scaled negative (accumulate significand ds).1
      (exponent - ((ds.length - (accumulate significand ds).2.length : Nat) : Int))
    refine ⟨a?, fun t stops => ?_⟩
    rw [Numeral.exponentText_of_none given, List.nil_append,
      fractionPart_unmarked _ _ _ digits stops]
    exact leaves t
  | some e =>
    obtain ⟨mark, rest, a?, text, either, leaves⟩ := exists_leaves_exponent negative
      (accumulate significand ds).1
      (exponent - ((ds.length - (accumulate significand ds).2.length : Nat) : Int)) e
    refine ⟨a?, fun t stops => ?_⟩
    rw [Numeral.exponentText_of_some given, text, List.cons_append,
      fractionPart_marked _ _ _ digits either]
    exact leaves t stops

end number

section whole

variable (negative : Bool) (n : Numeral)

theorem span_whole {rest : List Char} (ends : ∀ c ∈ rest.head?, c.isDigit = false) :
    (n.whole ++ rest).takeWhile Char.isDigit = n.whole ∧
      (n.whole ++ rest).dropWhile Char.isDigit = rest ∧
      ∃ c tail, n.whole ++ rest = c :: tail ∧ c.isDigit = true ∧
        ¬ (c = '0' ∧ tail.head?.any Char.isDigit = true) := by
  obtain ⟨nonempty, all⟩ := n.isDigits
  obtain ⟨taken, left⟩ := span_digits all ends
  obtain ⟨c, tail, whole⟩ := List.exists_cons_of_ne_nil nonempty
  refine ⟨taken, left, c, tail ++ rest, by rw [whole, List.cons_append], ?_, ?_⟩
  · exact all c (by rw [whole]; exact List.mem_cons_self)
  · rintro ⟨rfl, digit⟩
    have alone := n.unpadded (by rw [whole]; rfl)
    rw [whole] at alone
    cases alone
    cases rest with
    | nil => cases digit
    | cons c rest =>
      have none := ends c rfl
      simp [none] at digit

theorem numberTail_unmarked {t : List Char} (stops : Stops t) :
    numberTail negative (n.whole ++ t) =
      if (accumulate 0 n.whole).2.isEmpty then
        .ok (wholeNumber negative (accumulate 0 n.whole).1, t)
      else scaled negative (accumulate 0 n.whole).1 (accumulate 0 n.whole).2.length t := by
  obtain ⟨taken, left, c, tail, same, digit, unpadded⟩ := span_whole n stops.noDigit
  rw [same] at taken left ⊢
  simp only [numberTail, digit, not_true_eq_false, if_false, if_neg unpadded, taken, left]
  split
  · exact absurd rfl (stops.unmarked rfl).1
  · exact absurd rfl (stops.unmarked rfl).2.1
  · exact absurd rfl (stops.unmarked rfl).2.2
  · rfl

theorem numberTail_marked {rest : List Char} {mark : Char} (either : mark = 'e' ∨ mark = 'E') :
    numberTail negative (n.whole ++ mark :: rest) =
      exponentPart negative (accumulate 0 n.whole).1 (accumulate 0 n.whole).2.length rest := by
  obtain ⟨taken, left, c, tail, same, digit, unpadded⟩ :=
    span_whole n (noDigit_of_mark either rest)
  rw [same] at taken left ⊢
  simp only [numberTail, digit, not_true_eq_false, if_false, if_neg unpadded, taken, left]
  rcases either with rfl | rfl <;> rfl

theorem numberTail_pointed {rest : List Char} : numberTail negative (n.whole ++ '.' :: rest) =
    fractionPart negative (accumulate 0 n.whole).1 (accumulate 0 n.whole).2.length rest := by
  have ends : ∀ c ∈ ('.' :: rest).head?, c.isDigit = false := by
    rintro c ⟨⟩
    rfl
  obtain ⟨taken, left, c, tail, same, digit, unpadded⟩ := span_whole n ends
  rw [same] at taken left ⊢
  simp only [numberTail, digit, not_true_eq_false, if_false, if_neg unpadded, taken, left]

theorem exists_leaves_number :
    ∃ a?, ∀ t, Stops t → Leaves t (numberTail negative (n.body ++ t)) a? := by
  unfold Numeral.body
  cases fraction : n.fraction with
  | some ds =>
    obtain ⟨a?, leaves⟩ := exists_leaves_fractionPart negative (accumulate 0 n.whole).1
      (accumulate 0 n.whole).2.length n ds.2
    refine ⟨a?, fun t stops => ?_⟩
    rw [Numeral.fractionText_of_some fraction, List.append_assoc, List.cons_append,
      List.cons_append, List.append_assoc, numberTail_pointed]
    exact leaves t stops
  | none =>
    rw [Numeral.fractionText_of_none fraction, List.nil_append]
    cases exponent : n.exponent with
    | some e =>
      obtain ⟨mark, rest, a?, text, either, leaves⟩ := exists_leaves_exponent negative
        (accumulate 0 n.whole).1 (accumulate 0 n.whole).2.length e
      refine ⟨a?, fun t stops => ?_⟩
      rw [Numeral.exponentText_of_some exponent, text, List.append_assoc, List.cons_append,
        numberTail_marked _ _ either]
      exact leaves t stops
    | none =>
      rw [Numeral.exponentText_of_none exponent, List.append_nil]
      obtain ⟨a?, leaves⟩ := exists_leaves_scaled negative (accumulate 0 n.whole).1
        (accumulate 0 n.whole).2.length
      by_cases fits : (accumulate 0 n.whole).2.isEmpty = true
      · refine ⟨some (wholeNumber negative (accumulate 0 n.whole).1), fun t stops => ?_⟩
        rw [numberTail_unmarked _ _ stops, if_pos fits]
        exact .ok rfl
      · refine ⟨a?, fun t stops => ?_⟩
        rw [numberTail_unmarked _ _ stops, if_neg fits]
        exact leaves t

end whole

/-- What a number says when it stands alone. -/
def Numeral.value (n : Numeral) : Option Json :=
  (numberTail n.negative n.body).toOption.map Prod.fst

theorem leaves_number (n : Numeral) {t : List Char} (stops : Stops t) :
    Leaves t (numberTail n.negative (n.body ++ t)) n.value := by
  obtain ⟨a?, leaves⟩ := exists_leaves_number n.negative n
  have alone := leaves [] nofun
  have same : a? = n.value := by
    unfold Numeral.value
    rw [List.append_nil] at alone
    generalize numberTail n.negative n.body = r at alone
    cases alone with
    | ok h =>
      cases h
      rfl
    | error e => rfl
  exact same ▸ leaves t stops

/-! ## Strings -/

def hexNumber (a b c d : Char) : Nat :=
  let digit (x : Char) : Nat := (hexValue? x).getD 0
  ((digit a * 16 + digit b) * 16 + digit c) * 16 + digit d

/-- The characters of a string, if every surrogate is one of a pair. -/
def decode : List Piece → Option (List Char)
  | [] => some []
  | .plain c _ _ _ :: ps => (decode ps).map (c :: ·)
  | .escape e _ :: ps => do
    let c ← simpleEscape? e
    (decode ps).map (c :: ·)
  | .unit a b c d _ :: ps =>
    let high := hexNumber a b c d
    if 0xDC00 ≤ high ∧ high ≤ 0xDFFF then none
    else if high < 0xD800 ∨ 0xDBFF < high then (decode ps).map (Char.ofNat high :: ·)
    else match ps with
      | .unit a b c d _ :: ps =>
        let low := hexNumber a b c d
        if low < 0xDC00 ∨ 0xDFFF < low then none
        else (decode ps).map
          (Char.ofNat ((high - 0xD800) * 0x400 + (low - 0xDC00) + 0x10000) :: ·)
      | _ => none

theorem decode_unit {a b c d : Char} (hex : ∀ x ∈ [a, b, c, d], x ∈ hexDigits)
    (ps : List Piece) : decode (.unit a b c d hex :: ps) =
      if 0xDC00 ≤ hexNumber a b c d ∧ hexNumber a b c d ≤ 0xDFFF then none
      else if hexNumber a b c d < 0xD800 ∨ 0xDBFF < hexNumber a b c d then
        (decode ps).map (Char.ofNat (hexNumber a b c d) :: ·)
      else match ps with
        | .unit a' b' c' d' _ :: ps =>
          if hexNumber a' b' c' d' < 0xDC00 ∨ 0xDFFF < hexNumber a' b' c' d' then none
          else (decode ps).map (Char.ofNat ((hexNumber a b c d - 0xD800) * 0x400 +
            (hexNumber a' b' c' d' - 0xDC00) + 0x10000) :: ·)
        | _ => none := by
  cases ps with
  | nil => rfl
  | cons p ps => cases p <;> rfl

def Literal.string? (l : Literal) : Option String := (decode l.pieces).map String.ofList

theorem length_le_byteLength (s : List Char) : s.length ≤ byteLength s := by
  have go : ∀ n, n + s.length ≤ s.foldl (fun n c => n + c.utf8Size) n := by
    induction s with
    | nil => exact fun n => le_rfl
    | cons c s ih =>
      intro n
      have counted := ih (n + c.utf8Size)
      have one := c.utf8Size_pos
      rw [List.length_cons, List.foldl_cons]
      omega
  simpa [byteLength] using go 0

theorem hexQuad_unit {a b c d : Char} (hex : ∀ x ∈ [a, b, c, d], x ∈ hexDigits) (s : List Char) :
    hexQuad (a :: b :: c :: d :: s) = .ok (hexNumber a b c d, s) := by
  have digits : ∀ x ∈ hexDigits, (hexValue? x).isSome = true :=
    List.all_iff_forall_prop.mp (by decide)
  have enough : ¬ byteLength (a :: b :: c :: d :: s) < 4 := by
    have long := length_le_byteLength (a :: b :: c :: d :: s)
    simp only [List.length_cons] at long
    omega
  rw [hexQuad, if_neg enough]
  simp only [List.forall_mem_cons] at hex
  obtain ⟨ha, hb, hc, hd, -⟩ := hex
  obtain ⟨x, hx⟩ := Option.isSome_iff_exists.mp (digits a ha)
  obtain ⟨y, hy⟩ := Option.isSome_iff_exists.mp (digits b hb)
  obtain ⟨z, hz⟩ := Option.isSome_iff_exists.mp (digits c hc)
  obtain ⟨w, hw⟩ := Option.isSome_iff_exists.mp (digits d hd)
  simp only [hexNumber, hx, hy, hz, hw, Option.getD_some]

theorem stringTail_plain (done : List Char) {c : Char} (visible : 0x20 ≤ c.toNat)
    (unquoted : c ≠ '"') (unescaped : c ≠ '\\') (s : List Char) :
    stringTail done (c :: s) = stringTail (c :: done) s := by
  rw [stringTail]
  · rw [if_neg (Nat.not_lt.mpr visible)]
  all_goals simp_all

theorem stringTail_escape (done : List Char) {e : Char} (known : e ∈ escapes) (s : List Char) :
    ∃ c, simpleEscape? e = some c ∧
      stringTail done ('\\' :: e :: s) = stringTail (c :: done) s := by
  simp only [escapes, List.mem_cons, List.not_mem_nil, or_false] at known
  rcases known with rfl | rfl | rfl | rfl | rfl | rfl | rfl | rfl
  all_goals
    refine ⟨_, rfl, ?_⟩
    rw [stringTail]
    · rfl
    · simp

theorem stringTail_unit (done s : List Char) : stringTail done ('\\' :: 'u' :: s) =
    match unicodeEscape s with
    | .error e => .error e
    | .ok (c, tail) => stringTail (c :: done) tail := by
  rw [stringTail]
  split
  · simp_all
  · simp_all

theorem tail_unit_append {a b c d : Char} (hex : ∀ x ∈ [a, b, c, d], x ∈ hexDigits)
    (ps : List Piece) (t : List Char) : Literal.tail (.unit a b c d hex :: ps) ++ t =
      '\\' :: 'u' :: a :: b :: c :: d :: (Literal.tail ps ++ t) := by
  simp [Piece.text]

theorem unicodeEscape_unpaired {a b c d : Char} (hex : ∀ x ∈ [a, b, c, d], x ∈ hexDigits)
    (leading : ¬ (0xDC00 ≤ hexNumber a b c d ∧ hexNumber a b c d ≤ 0xDFFF))
    (surrogate : ¬ (hexNumber a b c d < 0xD800 ∨ 0xDBFF < hexNumber a b c d)) {ps : List Piece}
    (other : ∀ a b c d hex ps', ps ≠ .unit a b c d hex :: ps') (t : List Char) :
    ∃ e, unicodeEscape (a :: b :: c :: d :: (Literal.tail ps ++ t)) = .error e := by
  simp only [unicodeEscape, hexQuad_unit hex, if_neg leading, if_neg surrogate]
  cases ps with
  | nil => exact ⟨_, rfl⟩
  | cons p ps =>
    cases p with
    | plain c visible unquoted unescaped =>
      rw [Literal.tail_cons, Piece.text, List.append_assoc, List.singleton_append]
      split
      · exact ⟨_, rfl⟩
      · exact ⟨_, rfl⟩
      · rename_i same
        exact absurd (List.cons.inj same).1 unescaped
      · exact ⟨_, rfl⟩
      · exact ⟨_, rfl⟩
    | escape e known =>
      rw [Literal.tail_cons, Piece.text, List.append_assoc, List.cons_append,
        List.singleton_append]
      split
      · exact ⟨_, rfl⟩
      · exact ⟨_, rfl⟩
      · rename_i same
        rw [(List.cons.inj (List.cons.inj same).2).1] at known
        exact absurd known (by decide)
      · exact ⟨_, rfl⟩
      · exact ⟨_, rfl⟩
    | unit a b c d hex => exact absurd rfl (other a b c d hex ps)

/-- A reading of the rest of a string, of which `done` was read. -/
def Completes (done t : List Char) : Reading String → Option (List Char) → Prop :=
  Yields fun cs b => b = (String.ofList (done.reverse ++ cs), t)

theorem Completes.cons {done t : List Char} {c : Char} {r : Reading String}
    {cs? : Option (List Char)} (h : Completes (c :: done) t r cs?) :
    Completes done t r (cs?.map (c :: ·)) := by
  cases h with
  | ok same => exact .ok (by simpa using same)
  | error e => exact .error e

theorem completes_tail (ps : List Piece) (done t : List Char) :
    Completes done t (stringTail done (Literal.tail ps ++ t)) (decode ps) := by
  -- A unit may take the next one with it, so the cases are those of `decode`.
  induction ps using decode.induct generalizing done with
  | case1 =>
    rw [Literal.tail_nil, List.singleton_append, stringTail]
    exact .ok (by rw [List.append_nil])
  | case2 c visible unquoted unescaped ps ih =>
    rw [Literal.tail_cons, Piece.text, List.append_assoc, List.singleton_append,
      stringTail_plain done visible unquoted unescaped, decode]
    exact (ih (c :: done)).cons
  | case3 e known ps ih =>
    obtain ⟨c, stands, reads⟩ := stringTail_escape done known (Literal.tail ps ++ t)
    rw [Literal.tail_cons, Piece.text, List.append_assoc, List.cons_append, List.singleton_append,
      reads, decode, stands]
    exact (ih (c :: done)).cons
  | case4 a b c d hex ps high trailing =>
    rw [tail_unit_append, stringTail_unit, decode_unit, if_pos trailing]
    simp only [unicodeEscape, hexQuad_unit hex]
    rw [if_pos trailing]
    exact .error _
  | case5 a b c d hex ps high leading plain ih =>
    rw [tail_unit_append, stringTail_unit, decode_unit, if_neg leading, if_pos plain]
    simp only [unicodeEscape, hexQuad_unit hex]
    rw [if_neg leading, if_pos plain]
    exact (ih _).cons
  | case6 a b c d hex high leading surrogate a' b' c' d' hex' ps low alone =>
    rw [tail_unit_append, stringTail_unit, decode_unit, if_neg leading, if_neg surrogate,
      tail_unit_append]
    simp only [unicodeEscape, hexQuad_unit hex, hexQuad_unit hex']
    rw [if_neg leading, if_neg surrogate, if_pos alone, if_pos alone]
    exact .error _
  | case7 a b c d hex high leading surrogate a' b' c' d' hex' ps low paired ih =>
    rw [tail_unit_append, stringTail_unit, decode_unit, if_neg leading, if_neg surrogate,
      tail_unit_append]
    simp only [unicodeEscape, hexQuad_unit hex, hexQuad_unit hex']
    rw [if_neg leading, if_neg surrogate, if_neg paired, if_neg paired]
    exact (ih _).cons
  | case8 a b c d hex ps high leading surrogate other =>
    obtain ⟨e, refused⟩ := unicodeEscape_unpaired hex leading surrogate other t
    rw [tail_unit_append, stringTail_unit, refused, decode_unit, if_neg leading, if_neg surrogate]
    cases ps with
    | nil => exact .error e
    | cons p ps =>
      cases p with
      | unit a b c d hex => exact (other a b c d hex ps rfl).elim
      | _ => exact .error e

theorem leaves_string (l : Literal) (t : List Char) :
    Leaves t (stringTail [] (Literal.tail l.pieces ++ t)) l.string? := by
  unfold Literal.string?
  have completes := completes_tail l.pieces [] t
  generalize stringTail [] (Literal.tail l.pieces ++ t) = r at completes
  generalize decode l.pieces = cs? at completes
  cases completes with
  | ok same => exact .ok same
  | error e => exact .error e

end WebCrawl.Json
