import WebCrawl.Proofs.Json.Reading

/-!
# Passing over a spelled value

Skipping takes the tokens of one value and leaves the others, whatever the value is: it may open any
number of brackets, its numbers may be of any magnitude, and its strings may hold half a pair of
surrogates.
-/

namespace WebCrawl.Json

section number

variable (n : Numeral) {t s : List Char} {mark : Char}

theorem skipNumberTail_unmarked (stops : Stops t) : skipNumberTail (n.whole ++ t) = .ok t := by
  obtain ⟨-, left, c, tail, same, digit, unpadded⟩ := span_whole n stops.noDigit
  rw [same] at left ⊢
  simp only [skipNumberTail, digit, not_true_eq_false, if_false, if_neg unpadded, left]
  split
  · exact absurd rfl (stops.unmarked rfl).1
  · exact absurd rfl (stops.unmarked rfl).2.1
  · exact absurd rfl (stops.unmarked rfl).2.2
  · rfl

theorem skipNumberTail_marked (either : mark = 'e' ∨ mark = 'E') :
    skipNumberTail (n.whole ++ mark :: s) = skipNumberTail ('0' :: 'e' :: s) := by
  obtain ⟨-, left, c, tail, same, digit, unpadded⟩ := span_whole n (noDigit_of_mark either s)
  rw [same] at left ⊢
  simp only [skipNumberTail, digit, not_true_eq_false, if_false, if_neg unpadded, left]
  rcases either with rfl | rfl <;> rfl

theorem skipNumberTail_point : skipNumberTail (n.whole ++ '.' :: s) =
    if (s.takeWhile Char.isDigit).isEmpty then
      .error (.within .badNumber (s.dropWhile Char.isDigit))
    else match s.dropWhile Char.isDigit with
      | 'e' :: rest | 'E' :: rest => skipNumberTail ('0' :: 'e' :: rest)
      | rest => .ok rest := by
  have ends : ∀ c ∈ ('.' :: s).head?, c.isDigit = false := by
    rintro c ⟨⟩
    rfl
  obtain ⟨-, left, c, tail, same, digit, unpadded⟩ := span_whole n ends
  rw [same] at left ⊢
  simp only [skipNumberTail, digit, not_true_eq_false, if_false, if_neg unpadded, left]
  rfl

theorem skipNumberTail_pointed_unmarked {ds : List Char} (digits : IsDigits ds)
    (stops : Stops t) : skipNumberTail (n.whole ++ '.' :: (ds ++ t)) = .ok t := by
  obtain ⟨nonempty, all⟩ := digits
  obtain ⟨taken, left⟩ := span_digits all stops.noDigit
  have some_digits : ¬ ds.isEmpty = true := by simpa using nonempty
  rw [skipNumberTail_point]
  simp only [taken, left, if_neg some_digits]
  split
  · exact absurd rfl (stops.unmarked rfl).2.1
  · exact absurd rfl (stops.unmarked rfl).2.2
  · rfl

theorem skipNumberTail_pointed_marked {ds : List Char} (digits : IsDigits ds)
    (either : mark = 'e' ∨ mark = 'E') :
    skipNumberTail (n.whole ++ '.' :: (ds ++ mark :: s)) = skipNumberTail ('0' :: 'e' :: s) := by
  obtain ⟨nonempty, all⟩ := digits
  obtain ⟨taken, left⟩ := span_digits all (noDigit_of_mark either s)
  have some_digits : ¬ ds.isEmpty = true := by simpa using nonempty
  rw [skipNumberTail_point]
  simp only [taken, left, if_neg some_digits]
  rcases either with rfl | rfl <;> rfl

theorem skipNumberTail_exponent (e : Exponent) (stops : Stops t) {sign : List Char}
    (signs : sign ∈ [[], ['+'], ['-']]) :
    skipNumberTail ('0' :: 'e' :: (sign ++ (e.digits ++ t))) = .ok t := by
  obtain ⟨nonempty, all⟩ := e.isDigits
  obtain ⟨c, ds, digits⟩ := List.exists_cons_of_ne_nil nonempty
  rw [digits] at all ⊢
  obtain ⟨digit, others⟩ := List.forall_mem_cons.mp all
  have passed := (span_digits others stops.noDigit).2
  have done : (if c.isDigit then .ok ((ds ++ t).dropWhile Char.isDigit)
      else .error (.within .badNumber (c :: (ds ++ t))) : Except Failure (List Char)) = .ok t := by
    rw [if_pos digit, passed]
  simp only [List.mem_cons, List.not_mem_nil, or_false] at signs
  rcases signs with rfl | rfl | rfl
  · have first := mem_decimals digit
    simp only [decimals, List.mem_cons, List.not_mem_nil, or_false] at first
    rcases first with rfl | rfl | rfl | rfl | rfl | rfl | rfl | rfl | rfl | rfl <;> exact done
  · exact done
  · exact done

theorem skipNumberTail_body (stops : Stops t) : skipNumberTail (n.body ++ t) = .ok t := by
  unfold Numeral.body
  cases fraction : n.fraction with
  | some ds =>
    rw [Numeral.fractionText_of_some fraction, List.append_assoc, List.cons_append,
      List.cons_append, List.append_assoc]
    cases exponent : n.exponent with
    | some e =>
      obtain ⟨mark, sign, text, either, signs⟩ := e.exists_text
      rw [Numeral.exponentText_of_some exponent, text, List.cons_append, List.append_assoc,
        skipNumberTail_pointed_marked n ds.2 either, skipNumberTail_exponent e stops signs]
    | none =>
      rw [Numeral.exponentText_of_none exponent, List.nil_append]
      exact skipNumberTail_pointed_unmarked n ds.2 stops
  | none =>
    rw [Numeral.fractionText_of_none fraction, List.nil_append, List.append_assoc]
    cases exponent : n.exponent with
    | some e =>
      obtain ⟨mark, sign, text, either, signs⟩ := e.exists_text
      rw [Numeral.exponentText_of_some exponent, text, List.cons_append, List.append_assoc,
        skipNumberTail_marked n either, skipNumberTail_exponent e stops signs]
    | none =>
      rw [Numeral.exponentText_of_none exponent, List.nil_append]
      exact skipNumberTail_unmarked n stops

end number

theorem skipStringTail_tail (ps : List Piece) (t : List Char) :
    skipStringTail (Literal.tail ps ++ t) = .ok t := by
  induction ps with
  | nil => rw [Literal.tail_nil, List.singleton_append, skipStringTail]
  | cons p ps ih =>
    cases p with
    | plain c visible unquoted unescaped =>
      rw [Literal.tail_cons, Piece.text, List.append_assoc, List.singleton_append, skipStringTail]
      · rw [if_neg (Nat.not_lt.mpr visible), ih]
      all_goals simp_all
    | escape e known =>
      have simple : ∀ e ∈ escapes, e ≠ 'u' ∧ (simpleEscape? e).isSome = true :=
        List.all_iff_forall_prop.mp (by decide)
      obtain ⟨apart, stands⟩ := simple e known
      rw [Literal.tail_cons, Piece.text, List.append_assoc, List.cons_append,
        List.singleton_append, skipStringTail]
      · rw [if_pos stands, ih]
      all_goals simp_all
    | unit a b c d hex =>
      rw [tail_unit_append, skipStringTail]
      split
      · rename_i e refused
        rw [hexQuad_unit hex] at refused
        cases refused
      · rename_i taken
        rw [hexQuad_unit hex] at taken
        cases taken
        exact ih

/-! ## Whole values -/

/-- In `n` steps the skipping gets from one point to another. -/
def Passes (n : Nat) (p : SkipPoint) (stack : List Bracket) (s : List Char) (p' : SkipPoint)
    (stack' : List Bracket) (s' : List Char) : Prop :=
  ∀ fuel, skipFrom (fuel + n) p stack s = skipFrom fuel p' stack' s'

theorem Passes.trans {n m : Nat} {p p' p'' : SkipPoint} {stack stack' stack'' : List Bracket}
    {s s' s'' : List Char} (h : Passes n p stack s p' stack' s')
    (h' : Passes m p' stack' s' p'' stack'' s'') : Passes (n + m) p stack s p'' stack'' s'' := by
  intro fuel
  rw [Nat.add_comm n m, ← Nat.add_assoc, h, h']

/-- The tokens of a value are passed over, in less than twice as many steps. -/
def Skips (v : Spelling) : Prop :=
  ∀ stack ts s, Ends ts → Laid (v.tokens ++ ts) s →
    ∃ n s', n < 2 * v.tokens.length ∧ Passes n .value stack s (.inside false) stack s' ∧
      Laid ts s'

section

variable {stack : List Bracket} {ts : List Token} {s s' : List Char} {first : Bool}
  {b : Bracket}

theorem passes_scalar (opening : skipOpening s = .ok (none, s')) :
    Passes 1 .value stack s (.inside false) stack s' := by
  intro fuel
  rw [skipFrom, opening]
  rfl

theorem passes_bracket (opening : skipOpening s = .ok (some b, s')) :
    Passes 1 .value stack s (.inside true) (b :: stack) s' := by
  intro fuel
  rw [skipFrom, opening]
  rfl

def Bracket.closes : Bracket → Mark
  | .list => .listCloses
  | .object => .objectCloses

theorem passes_close (h : Laid (.mark b.closes :: ts) s) :
    ∃ s', Passes 1 (.inside first) (b :: stack) s (.inside false) stack s' ∧ Laid ts s' := by
  obtain ⟨rest, same, later⟩ := h.skipBlanks_cons
  refine ⟨rest, fun fuel => ?_, later⟩
  rw [skipFrom]
  simp only [same]
  cases b <;> rfl

theorem passes_next {t : Token} {ts' : List Token} (opens : t.opens = true)
    (h : Laid (separator first ++ t :: ts) s)
    (named : ∀ s, Laid (t :: ts) s → ∃ s', skipName b s = .ok s' ∧ Laid ts' s') :
    ∃ s', Passes 1 (.inside first) (b :: stack) s .value (b :: stack) s' ∧ Laid ts' s' := by
  obtain ⟨c, cs, text, list_open, object_open, apart⟩ := Token.exists_opening opens
  cases first with
  | true =>
    obtain ⟨rest, same, -⟩ := h.skipBlanks_cons
    obtain ⟨s', passed, later⟩ := named _ h.skipBlanks
    refine ⟨s', fun fuel => ?_, later⟩
    have unclosed : c ≠ b.closing := by cases b <;> assumption
    rw [same, text, List.cons_append] at passed
    rw [skipFrom]
    simp only [same, text, List.cons_append, apart, unclosed, passed]
    rfl
  | false =>
    obtain ⟨rest, same, laid⟩ := h.skipBlanks_cons
    obtain ⟨s', passed, later⟩ := named _ laid
    refine ⟨s', fun fuel => ?_, later⟩
    have comma : skipBlanks s = ',' :: rest := same
    rw [skipFrom]
    simp only [comma, passed]
    rfl

theorem skipName_member {name : Literal} (h : Laid (.string name :: .mark .colon :: ts) s) :
    ∃ s', skipName .object s = .ok s' ∧ Laid ts s' := by
  obtain ⟨rest, same, named⟩ := h.skipBlanks_cons
  obtain ⟨s', passed, later⟩ := colon_laid named
  refine ⟨s', ?_, later⟩
  have quote : skipBlanks s = '"' :: (Literal.tail name.pieces ++ rest) := same
  rw [skipName, quote]
  simp only [skipStringTail_tail]
  exact passed

theorem skips_items {vs : List Spelling} (each : ∀ v ∈ vs, Skips v)
    (h : Laid (itemTokens first vs ++ .mark .listCloses :: ts) s) :
    ∃ n s', n ≤ 2 * (itemTokens first vs).length + 1 ∧
      Passes n (.inside first) (.list :: stack) s (.inside false) stack s' ∧ Laid ts s' := by
  induction vs generalizing first s with
  | nil =>
    obtain ⟨s', closed, later⟩ := passes_close (b := .list) h
    exact ⟨1, s', Nat.le_refl 1, closed, later⟩
  | cons v rest ih =>
    obtain ⟨one, others⟩ := List.forall_mem_cons.mp each
    obtain ⟨t, ts', tokens, opens⟩ := v.exists_tokens
    have laid := h
    rw [itemTokens, tokens, List.append_assoc, List.append_assoc, List.cons_append] at laid
    obtain ⟨s₁, next, laid₁⟩ := passes_next (b := .list) opens laid fun s h => ⟨s, rfl, h⟩
    rw [← List.cons_append, ← tokens] at laid₁
    obtain ⟨n, s₂, short, passed, laid₂⟩ := one _ _ _ ends_items laid₁
    obtain ⟨m, s₃, short', passed', laid₃⟩ := ih others laid₂
    refine ⟨1 + n + m, s₃, ?_, (next.trans passed).trans passed', laid₃⟩
    rw [itemTokens, List.length_append, List.length_append]
    omega

theorem skips_members {ms : List (Literal × Spelling)} (each : ∀ m ∈ ms, Skips m.2)
    (h : Laid (memberTokens first ms ++ .mark .objectCloses :: ts) s) :
    ∃ n s', n ≤ 2 * (memberTokens first ms).length + 1 ∧
      Passes n (.inside first) (.object :: stack) s (.inside false) stack s' ∧ Laid ts s' := by
  induction ms generalizing first s with
  | nil =>
    obtain ⟨s', closed, later⟩ := passes_close (b := .object) h
    exact ⟨1, s', Nat.le_refl 1, closed, later⟩
  | cons m rest ih =>
    obtain ⟨name, v⟩ := m
    obtain ⟨one, others⟩ := List.forall_mem_cons.mp each
    have laid := h
    rw [memberTokens, List.append_assoc, List.cons_append, List.cons_append,
      List.append_assoc] at laid
    obtain ⟨s₁, next, laid₁⟩ := passes_next rfl laid fun _ h => skipName_member h
    obtain ⟨n, s₂, short, passed, laid₂⟩ := one _ _ _ ends_members laid₁
    obtain ⟨m, s₃, short', passed', laid₃⟩ := ih others laid₂
    refine ⟨1 + n + m, s₃, ?_, (next.trans passed).trans passed', laid₃⟩
    have few : n < 2 * v.tokens.length := short
    rw [memberTokens, List.length_append, List.length_cons, List.length_cons, List.length_append]
    omega

end

theorem skipOpening_digit {s rest : List Char} {c : Char} (digit : c.isDigit = true)
    (same : skipBlanks s = c :: rest) :
    skipOpening s = (skipNumberTail (c :: rest)).map (Prod.mk none) := by
  have first := mem_decimals digit
  unfold skipOpening
  rw [same]
  simp only [decimals, List.mem_cons, List.not_mem_nil, or_false] at first
  rcases first with rfl | rfl | rfl | rfl | rfl | rfl | rfl | rfl | rfl | rfl <;> rfl

theorem skipOpening_number {n : Numeral} {ts : List Token} {s : List Char} (ends : Ends ts)
    (h : Laid (.number n :: ts) s) : ∃ s', skipOpening s = .ok (none, s') ∧ Laid ts s' := by
  obtain ⟨rest, same, later⟩ := h.skipBlanks_cons
  refine ⟨rest, ?_, later⟩
  have passed := skipNumberTail_body n (stops_of_laid later ends)
  rw [Token.text] at same
  cases signed : n.negative with
  | true =>
    rw [Numeral.text_of_negative signed] at same
    rw [skipOpening, same]
    simp only [List.cons_append, passed]
    rfl
  | false =>
    obtain ⟨c, tail, body, digit⟩ := n.exists_body
    rw [Numeral.text_of_not_negative signed] at same
    rw [body] at same passed
    rw [List.cons_append] at same passed
    rw [skipOpening_digit digit same, passed]
    rfl

theorem skips (v : Spelling) : Skips v := by
  induction v using Spelling.induct with
  | null =>
    intro stack ts s _ h
    obtain ⟨rest, same, later⟩ := h.skipBlanks_cons
    refine ⟨1, rest, Nat.one_lt_two, passes_scalar ?_, later⟩
    rw [skipOpening, same]
    rfl
  | bool b =>
    intro stack ts s _ h
    obtain ⟨rest, same, later⟩ := h.skipBlanks_cons
    refine ⟨1, rest, Nat.one_lt_two, passes_scalar ?_, later⟩
    rw [skipOpening, same]
    cases b <;> rfl
  | number n =>
    intro stack ts s ends h
    obtain ⟨s', opening, later⟩ := skipOpening_number ends h
    exact ⟨1, s', Nat.one_lt_two, passes_scalar opening, later⟩
  | string l =>
    intro stack ts s _ h
    obtain ⟨rest, same, later⟩ := h.skipBlanks_cons
    refine ⟨1, rest, Nat.one_lt_two, passes_scalar ?_, later⟩
    have quote : skipBlanks s = '"' :: (Literal.tail l.pieces ++ rest) := same
    rw [skipOpening, quote]
    simp only [skipStringTail_tail]
    rfl
  | array vs each =>
    intro stack ts s _ h
    obtain ⟨rest, same, laid⟩ := h.of_array
    have opening : skipOpening s = .ok (some .list, rest) := by
      rw [skipOpening, same]
      rfl
    obtain ⟨n, s', short, passed, later⟩ := skips_items each laid
    -- The closing bracket counts for two steps: one of them is the opening.
    refine ⟨1 + n, s', ?_, (passes_bracket opening).trans passed, later⟩
    rw [Spelling.tokens, List.length_cons, List.length_append, List.length_singleton]
    omega
  | object ms each =>
    intro stack ts s _ h
    obtain ⟨rest, same, laid⟩ := h.of_object
    have opening : skipOpening s = .ok (some .object, rest) := by
      rw [skipOpening, same]
      rfl
    obtain ⟨n, s', short, passed, later⟩ := skips_members each laid
    refine ⟨1 + n, s', ?_, (passes_bracket opening).trans passed, later⟩
    rw [Spelling.tokens, List.length_cons, List.length_append, List.length_singleton]
    omega

/-- Exactly one value is passed over, of whatever shape and size. -/
theorem skip_laid {v : Spelling} {ts : List Token} {s : List Char} (ends : Ends ts)
    (h : Laid (v.tokens ++ ts) s) : ∃ s', skip s = .ok s' ∧ Laid ts s' := by
  obtain ⟨n, s', short, passed, later⟩ := skips v [] ts s ends h
  refine ⟨s', ?_, later⟩
  have tokens := h.length_le
  rw [List.length_append] at tokens
  obtain ⟨fuel, enough⟩ : ∃ fuel, 2 * s.length + 2 = fuel + 1 + n :=
    ⟨2 * s.length + 1 - n, by omega⟩
  rw [skip, enough, passed]
  rfl

end WebCrawl.Json
