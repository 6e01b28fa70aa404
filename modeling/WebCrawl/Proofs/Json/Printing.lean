import Mathlib.Data.List.Basic
import WebCrawl.Json.Printer
import WebCrawl.Proofs.Json.Reading

/-!
# What is printed can be read

A printed string or whole number is the text of a token that says what was printed. Of a double
only this much is known: if its text is read as a number at all, the text is that of a numeral.
-/

namespace WebCrawl.Json

theorem Laid.append {ts ts' : List Token} {s s' : List Char} (h : Laid ts s) (h' : Laid ts' s') :
    Laid (ts ++ ts') (s ++ s') := by
  induction h with
  | @nil blanks blank =>
    cases h' with
    | nil blank' =>
      exact .nil fun c hc => (List.mem_append.mp hc).elim (blank c) (blank' c)
    | cons blank' later =>
      rw [← List.append_assoc]
      exact .cons (fun c hc => (List.mem_append.mp hc).elim (blank c) (blank' c)) later
  | cons blank _ ih =>
    rw [List.append_assoc, List.append_assoc]
    exact .cons blank ih

theorem laid_token (t : Token) : Laid [t] t.text := by
  have alone := Laid.compact [t]
  rwa [List.flatMap_singleton] at alone

/-! ## Strings -/

/-- A piece with the given text that stands for the character. -/
def Writes (text : List Char) (c : Char) : Prop :=
  ∃ p : Piece, p.text = text ∧ ∀ ps, decode (p :: ps) = (decode ps).map (c :: ·)

theorem writes_escape {c e : Char} (known : e ∈ escapes) (stands : simpleEscape? e = some c) :
    Writes ['\\', e] c := by
  refine ⟨.escape e known, rfl, fun ps => ?_⟩
  rw [decode, stands, Option.bind_eq_bind, Option.bind_some]

theorem writes_escapeChar (c : Char) : Writes (escapeChar c) c := by
  unfold escapeChar
  split_ifs with quote backslash line carriage tab back feed control
  · exact writes_escape (by decide) (congrArg some quote.symm)
  · exact writes_escape (by decide) (congrArg some backslash.symm)
  · exact writes_escape (by decide) (congrArg some line.symm)
  · exact writes_escape (by decide) (congrArg some carriage.symm)
  · exact writes_escape (by decide) (congrArg some tab.symm)
  · exact writes_escape (by decide) (congrArg some back.symm)
  · exact writes_escape (by decide) (congrArg some feed.symm)
  · have units : ∀ n < 0x20,
        (['0', '0', hexDigit (n / 16), hexDigit (n % 16)].all fun x => decide (x ∈ hexDigits)) ∧
          hexNumber '0' '0' (hexDigit (n / 16)) (hexDigit (n % 16)) = n := by decide
    obtain ⟨hex, same⟩ := units c.toNat control
    refine ⟨.unit '0' '0' _ _ (List.all_iff_forall_prop.mp hex), rfl, fun ps => ?_⟩
    rw [decode_unit, same, if_neg (by omega), if_pos (.inl (by omega)), Char.ofNat_toNat]
  · exact ⟨.plain c (Nat.not_lt.mp control) quote backslash, rfl, fun _ => rfl⟩

theorem exists_pieces (cs : List Char) :
    ∃ ps, ps.flatMap Piece.text = cs.flatMap escapeChar ∧ decode ps = some cs := by
  induction cs with
  | nil => exact ⟨[], rfl, rfl⟩
  | cons c cs ih =>
    obtain ⟨p, text, stands⟩ := writes_escapeChar c
    obtain ⟨ps, texts, decoded⟩ := ih
    refine ⟨p :: ps, ?_, ?_⟩
    · rw [List.flatMap_cons, List.flatMap_cons, text, texts]
    · rw [stands, decoded, Option.map_some]

theorem exists_literal (s : String) :
    ∃ l : Literal, l.text = (quote s).toList ∧ l.string? = some s := by
  obtain ⟨ps, texts, decoded⟩ := exists_pieces s.toList
  refine ⟨⟨ps⟩, ?_, ?_⟩
  · rw [Literal.text, Literal.tail, texts, quote, String.toList_ofList, List.cons_append]
  · rw [Literal.string?, decoded, Option.map_some, String.ofList_toList]

/-! ## Whole numbers -/

theorem le_ofDigitChars (ds : List Char) (n : Nat) : n ≤ Nat.ofDigitChars 10 ds n := by
  induction ds generalizing n with
  | nil => exact Nat.le_refl n
  | cons c ds ih =>
    rw [Nat.ofDigitChars_cons]
    exact Nat.le_trans (by omega) (ih _)

theorem accumulate_eq {ds : List Char} {n : Nat} (fits : Nat.ofDigitChars 10 ds n < wordBound) :
    accumulate n ds = (Nat.ofDigitChars 10 ds n, []) := by
  induction ds generalizing n with
  | nil => rfl
  | cons c ds ih =>
    have next : n * 10 + digitValue c = 10 * n + (c.toNat - '0'.toNat) := by
      rw [digitValue, Nat.mul_comm]
    rw [Nat.ofDigitChars_cons] at fits ⊢
    simp only [accumulate, next]
    rw [if_pos (Nat.lt_of_le_of_lt (le_ofDigitChars ds _) fits)]
    exact ih fits

theorem isDigits_toDigits (n : Nat) : IsDigits (Nat.toDigits 10 n) :=
  ⟨Nat.toDigits_ne_nil, fun _ => Nat.isDigit_of_mem_toDigits (by decide) (by decide)⟩

theorem unpadded_toDigits (n : Nat) (zero : (Nat.toDigits 10 n).head? = some '0') :
    Nat.toDigits 10 n = ['0'] := by
  induction n using Nat.strongRecOn with
  | ind n ih =>
    by_cases small : n < 10
    · rw [Nat.toDigits_of_lt_base small] at zero ⊢
      exact congrArg (fun c => [c]) (Option.some.inj zero)
    · have more : 10 ≤ n := Nat.not_lt.mp small
      rw [Nat.toDigits_of_base_le (by decide) more,
        List.head?_append_of_ne_nil _ Nat.toDigits_ne_nil] at zero
      -- A zero in front would stand in front of the tens already.
      have only := ih (n / 10) (Nat.div_lt_self (by omega) (by decide)) zero
      have value := @Nat.ofDigitChars_ten_toDigits (n / 10)
      rw [only] at value
      have none : n / 10 = 0 := value.symm
      omega

def Numeral.ofNat (n : Nat) : Numeral where
  negative := false
  whole := Nat.toDigits 10 n
  fraction := none
  exponent := none
  isDigits := isDigits_toDigits n
  unpadded := unpadded_toDigits n

theorem Numeral.text_ofNat (n : Nat) : (Numeral.ofNat n).text = (toString (n : Int)).toList := by
  rw [text_of_not_negative rfl, body, fractionText_of_none rfl, exponentText_of_none rfl,
    List.append_nil, List.append_nil]
  exact (congrArg String.toList Nat.toString_eq_ofList_toDigits).symm ▸ String.toList_ofList.symm

theorem Numeral.value_ofNat {n : Nat} (fits : n < wordBound) :
    (Numeral.ofNat n).value = some (.int n) := by
  have digits : Nat.ofDigitChars 10 (Nat.toDigits 10 n) 0 = n := Nat.ofDigitChars_ten_toDigits
  have all : accumulate 0 (Numeral.ofNat n).whole = (n, []) := by
    have fits' : Nat.ofDigitChars 10 (Nat.toDigits 10 n) 0 < wordBound := by rwa [digits]
    have read := accumulate_eq fits'
    rwa [digits] at read
  have stops : Stops [] := nofun
  have alone : numberTail false ((Numeral.ofNat n).whole ++ []) = .ok (.int n, []) := by
    rw [numberTail_unmarked _ _ stops, all]
    rfl
  rw [value, body, fractionText_of_none rfl, exponentText_of_none rfl]
  exact congrArg (fun r => r.toOption.map Prod.fst) alone

/-! ## Numbers that are read -/

theorem exponentDigits_split (value : Nat) (s : List Char) :
    ∃ ds, (∀ c ∈ ds, c.isDigit = true) ∧ s = ds ++ (exponentDigits value s).2 := by
  induction s generalizing value with
  | nil => exact ⟨[], nofun, rfl⟩
  | cons c s ih =>
    by_cases digit : c.isDigit = true
    · rw [exponentDigits, if_pos digit]
      dsimp only
      split
      · obtain ⟨ds, digits, same⟩ := ih (value * 10 + digitValue c)
        exact ⟨c :: ds, List.forall_mem_cons.mpr ⟨digit, digits⟩, congrArg (c :: ·) same⟩
      · exact ⟨[c], List.forall_mem_cons.mpr ⟨digit, nofun⟩, rfl⟩
    · rw [exponentDigits, if_neg digit]
      exact ⟨[], nofun, rfl⟩

theorem split_digits (s : List Char) : (∀ c ∈ s.takeWhile Char.isDigit, c.isDigit = true) ∧
    s = s.takeWhile Char.isDigit ++ s.dropWhile Char.isDigit :=
  ⟨fun _ => List.mem_takeWhile_imp, List.takeWhile_append_dropWhile.symm⟩

section

variable {negative down : Bool} {significand : Nat} {exponent : Int} {s rest : List Char} {v : Json}

theorem scaled_eq_ok (h : scaled negative significand exponent s = .ok (v, rest)) : s = rest := by
  unfold scaled at h
  split at h
  · cases h
    rfl
  · cases h

theorem exponentPart_signed_eq_ok (h : exponentPart negative significand exponent
    ((if down then '-' else '+') :: s) = .ok (v, rest)) : ∃ ds, IsDigits ds ∧ s = ds ++ rest := by
  cases s with
  | nil => cases down <;> cases h
  | cons c s =>
    by_cases digit : c.isDigit = true
    · obtain ⟨ds, digits, same⟩ := exponentDigits_split (digitValue c) s
      rw [exponentPart_signed _ _ _ digit] at h
      generalize exponentDigits (digitValue c) s = found at same h
      obtain ⟨e?, unread⟩ := found
      cases e? with
      | some e =>
        cases scaled_eq_ok h
        exact ⟨c :: ds, ⟨nofun, List.forall_mem_cons.mpr ⟨digit, digits⟩⟩,
          congrArg (c :: ·) same⟩
      | none =>
        dsimp only at h
        split at h
        · cases h
        · obtain ⟨digits', left⟩ := split_digits unread
          cases h
          refine ⟨c :: (ds ++ unread.takeWhile Char.isDigit),
            ⟨nofun, List.forall_mem_cons.mpr ⟨digit, ?_⟩⟩, ?_⟩
          · exact List.forall_mem_append.mpr ⟨digits, digits'⟩
          · rw [List.cons_append, List.append_assoc, ← left]
            exact congrArg (c :: ·) same
    · have refused : ∃ e, exponentPart negative significand exponent
          ((if down then '-' else '+') :: c :: s) = .error e := by
        cases down <;> exact ⟨_, if_pos digit⟩
      obtain ⟨e, refused⟩ := refused
      rw [refused] at h
      cases h

theorem exponentPart_eq_ok (h : exponentPart negative significand exponent s = .ok (v, rest)) :
    ∃ sign ∈ [[], ['+'], ['-']], ∃ ds, IsDigits ds ∧ s = sign ++ (ds ++ rest) := by
  cases s with
  | nil => cases h
  | cons c s =>
    by_cases plus : c = '+'
    · subst plus
      obtain ⟨ds, digits, rfl⟩ := @exponentPart_signed_eq_ok _ false _ _ _ _ _ h
      exact ⟨['+'], by simp, ds, digits, rfl⟩
    by_cases minus : c = '-'
    · subst minus
      obtain ⟨ds, digits, rfl⟩ := @exponentPart_signed_eq_ok _ true _ _ _ _ _ h
      exact ⟨['-'], by simp, ds, digits, rfl⟩
    by_cases digit : c.isDigit = true
    · rw [exponentPart_unsigned _ _ _ digit] at h
      obtain ⟨ds, digits, same⟩ := @exponentPart_signed_eq_ok _ false _ _ _ _ _ h
      exact ⟨[], by simp, ds, digits, same⟩
    · simp [exponentPart, plus, minus, digit] at h

theorem exists_exponent {mark : Char} (either : mark = 'e' ∨ mark = 'E')
    (h : exponentPart negative significand exponent s = .ok (v, rest)) :
    ∃ e : Exponent, mark :: s = e.text ++ rest := by
  obtain ⟨sign, signs, ds, digits, rfl⟩ := exponentPart_eq_ok h
  have marked : mark :: sign ∈ exponentMarks := by
    simp only [List.mem_cons, List.not_mem_nil, or_false] at signs
    rcases either with rfl | rfl <;> rcases signs with rfl | rfl | rfl <;> decide
  refine ⟨⟨mark :: sign, ds, marked, digits⟩, ?_⟩
  rw [Exponent.text, List.append_assoc]
  rfl

theorem fractionPart_eq_ok (h : fractionPart negative significand exponent s = .ok (v, rest)) :
    ∃ (ds : { ds : List Char // IsDigits ds }) (e? : Option Exponent),
      s = ds.1 ++ (e?.elim [] Exponent.text ++ rest) := by
  obtain ⟨digits, same⟩ := split_digits s
  simp only [fractionPart] at h
  split at h
  · cases h
  · rename_i nonempty
    have isDigits : IsDigits (s.takeWhile Char.isDigit) := ⟨by simpa using nonempty, digits⟩
    generalize s.takeWhile Char.isDigit = ds at same h isDigits
    generalize s.dropWhile Char.isDigit = tail at same h
    split at h
    · obtain ⟨e, text⟩ := exists_exponent (.inl rfl) h
      exact ⟨⟨ds, isDigits⟩, some e, by rw [same, text]; rfl⟩
    · obtain ⟨e, text⟩ := exists_exponent (.inr rfl) h
      exact ⟨⟨ds, isDigits⟩, some e, by rw [same, text]; rfl⟩
    · cases scaled_eq_ok h
      exact ⟨⟨ds, isDigits⟩, none, same⟩

theorem whole_digits {c : Char} (digit : c.isDigit = true)
    (unpadded : ¬ (c = '0' ∧ s.head?.any Char.isDigit = true)) :
    IsDigits ((c :: s).takeWhile Char.isDigit) ∧
      (((c :: s).takeWhile Char.isDigit).head? = some '0' →
        (c :: s).takeWhile Char.isDigit = ['0']) := by
  obtain ⟨digits, -⟩ := split_digits (c :: s)
  rw [List.takeWhile_cons_of_pos digit] at digits ⊢
  refine ⟨⟨nofun, digits⟩, ?_⟩
  rintro ⟨⟩
  cases s with
  | nil => rfl
  | cons c s =>
    have other : ¬ c.isDigit = true := fun digit => unpadded ⟨rfl, digit⟩
    rw [List.takeWhile_cons_of_neg other]

theorem numberTail_eq_ok (h : numberTail negative s = .ok (v, rest)) :
    ∃ n : Numeral, n.negative = negative ∧ s = n.body ++ rest := by
  cases s with
  | nil => cases h
  | cons c s =>
    simp only [numberTail] at h
    split at h
    · cases h
    rename_i digit
    split at h
    · cases h
    rename_i unpadded
    obtain ⟨digits, zero⟩ := whole_digits (not_not.mp digit) unpadded
    have same := (split_digits (c :: s)).2
    generalize (c :: s).takeWhile Char.isDigit = whole at h digits zero same
    generalize (c :: s).dropWhile Char.isDigit = tail at h same
    obtain ⟨f?, e?, text⟩ : ∃ (f? : Option { ds : List Char // IsDigits ds })
        (e? : Option Exponent), tail =
          f?.elim [] (fun ds => '.' :: ds.1) ++ (e?.elim [] Exponent.text ++ rest) := by
      split at h
      · obtain ⟨ds, e?, text⟩ := fractionPart_eq_ok h
        exact ⟨some ds, e?, congrArg ('.' :: ·) text⟩
      · obtain ⟨e, text⟩ := exists_exponent (.inl rfl) h
        exact ⟨none, some e, text⟩
      · obtain ⟨e, text⟩ := exists_exponent (.inr rfl) h
        exact ⟨none, some e, text⟩
      · split at h
        · cases h
          exact ⟨none, none, rfl⟩
        · exact ⟨none, none, scaled_eq_ok h⟩
    refine ⟨⟨negative, whole, f?, e?, digits, zero⟩, rfl, ?_⟩
    rw [same, text]
    cases f? <;> cases e? <;>
      simp [Numeral.body, Numeral.fractionText, Numeral.exponentText]

end

theorem exists_of_bind_eq_ok {α β : Type} {x : Except Failure α} {k : α → Except Failure β} {b : β}
    (h : x >>= k = .ok b) : ∃ a, x = .ok a ∧ k a = .ok b := by
  cases x with
  | error e => cases h
  | ok a => exact ⟨a, rfl, h⟩

theorem exists_numeral_of_value {depth : Nat} {s rest : List Char} {x : Float}
    (h : value depth s = .ok (.float x, rest)) : ∃ n : Numeral, skipBlanks s = n.text ++ rest := by
  unfold value at h
  split at h
  · cases h
  · obtain ⟨_, -, null⟩ := exists_of_bind_eq_ok h
    cases null
  · obtain ⟨_, -, bool⟩ := exists_of_bind_eq_ok h
    cases bool
  · obtain ⟨_, -, bool⟩ := exists_of_bind_eq_ok h
    cases bool
  · rename_i same
    obtain ⟨n, signed, rfl⟩ := numberTail_eq_ok h
    exact ⟨n, by rw [same, Numeral.text_of_negative signed, List.cons_append]⟩
  · obtain ⟨_, -, string⟩ := exists_of_bind_eq_ok h
    cases string
  · split at h
    · cases h
    · obtain ⟨_, -, items⟩ := exists_of_bind_eq_ok h
      obtain ⟨_, -, array⟩ := exists_of_bind_eq_ok items
      cases array
  · split at h
    · cases h
    · obtain ⟨_, -, members⟩ := exists_of_bind_eq_ok h
      obtain ⟨_, -, object⟩ := exists_of_bind_eq_ok members
      cases object
  · rename_i same
    split at h
    · obtain ⟨n, signed, text⟩ := numberTail_eq_ok h
      exact ⟨n, by rw [same, text, Numeral.text_of_not_negative signed]⟩
    · cases h

theorem of_mapError_eq_ok {ε ε' α : Type} {f : ε → ε'} {x : Except ε α} {a : α}
    (h : x.mapError f = .ok a) : x = .ok a := by
  cases x with
  | error e => cases h
  | ok a' =>
    cases h
    rfl

theorem wholeText_eq_ok {α : Type} {read : List Char → Reading α} {text : String} {a : α}
    (h : wholeText read text = .ok a) :
    ∃ rest, read text.toList = .ok (a, rest) ∧ ∀ c ∈ rest, isBlank c = true := by
  obtain ⟨⟨_, rest⟩, taken, later⟩ := exists_of_bind_eq_ok (of_mapError_eq_ok h)
  obtain ⟨_, done, same⟩ := exists_of_bind_eq_ok later
  cases same
  refine ⟨rest, taken, ?_⟩
  unfold finish at done
  split at done
  · exact List.dropWhile_eq_nil_iff.mp ‹_›
  · cases done

theorem exists_laid_numeral {text : String} {x : Float} (h : parse text = .ok (.float x)) :
    ∃ n : Numeral, Laid [.number n] text.toList ∧ n.value = some (.float x) := by
  obtain ⟨rest, read, blank⟩ := wholeText_eq_ok h
  obtain ⟨n, same⟩ := exists_numeral_of_value read
  have split := @List.takeWhile_append_dropWhile _ isBlank text.toList
  have laid : Laid [.number n] text.toList := by
    rw [← split, show text.toList.dropWhile isBlank = n.text ++ rest from same]
    exact .cons (fun _ => List.mem_takeWhile_imp) (.nil blank)
  refine ⟨n, laid, ?_⟩
  have reads := toOption_wholeText (reads_value (.number n) depthBound [] _ ends_nil laid)
  have built : Spelling.build depthBound (.number n) = n.value := rfl
  rw [← built, ← reads]
  exact congrArg Except.toOption h

/-! ## Values -/

/-- The text of a printed value is that of a tree. -/
def Prints (v : Json) (t : Spelling) : Prop := Laid t.tokens v.render.toList

structure PrintsMember (m : String × Json) (m' : Literal × Spelling) : Prop where
  quoted : m'.1.text = (quote m.1).toList
  named : m'.1.string? = some m.1
  prints : Prints m.2 m'.2

theorem exists_prints_string (s : String) :
    ∃ l : Literal, Prints (.string s) (.string l) ∧ l.string? = some s := by
  obtain ⟨l, text, named⟩ := exists_literal s
  refine ⟨l, ?_, named⟩
  have laid := laid_token (.string l)
  rw [Token.text, text] at laid
  exact laid

theorem prints_ofNat (n : Nat) : Prints (.int n) (.number (.ofNat n)) := by
  have laid := laid_token (.number (.ofNat n))
  rw [Token.text, Numeral.text_ofNat] at laid
  exact laid

theorem exists_prints_float {x : Float} (h : parse (floatText x) = .ok (.float x)) :
    ∃ n : Numeral, Prints (.float x) (.number n) ∧ n.value = some (.float x) :=
  exists_laid_numeral h

theorem exists_prints_member (name : String) {v : Json} {t : Spelling} (h : Prints v t) :
    ∃ l : Literal, PrintsMember (name, v) (l, t) := by
  obtain ⟨l, text, named⟩ := exists_literal name
  exact ⟨l, text, named, h⟩

theorem laid_renderMembers {ms : List (String × Json)} {ms' : List (Literal × Spelling)}
    (h : List.Forall₂ PrintsMember ms ms') :
    Laid (memberTokens true ms') (renderMembers ms).toList := by
  induction h with
  | nil => exact .nil nofun
  | @cons m m' rest rest' one others ih =>
    obtain ⟨key, v⟩ := m
    obtain ⟨name, t⟩ := m'
    have first : Laid (.string name :: .mark .colon :: t.tokens)
        ((quote key).toList ++ ([':'] ++ v.render.toList)) := by
      rw [← one.quoted]
      exact (laid_token (.string name)).append ((laid_token (.mark .colon)).append one.prints)
    cases others with
    | nil =>
      simpa [memberTokens, separator, renderMembers] using first
    | @cons m m' rest rest' two others =>
      have all := first.append ((laid_token (.mark .comma)).append ih)
      simpa [memberTokens, separator, renderMembers, Token.text, Mark.char] using all

theorem prints_object {ms : List (String × Json)} {ms' : List (Literal × Spelling)}
    (h : List.Forall₂ PrintsMember ms ms') : Prints (.object ms) (.object ms') := by
  have laid := (laid_token (.mark .objectOpens)).append
    ((laid_renderMembers h).append (laid_token (.mark .objectCloses)))
  simpa [Prints, render, Spelling.tokens, Token.text, Mark.char] using laid

end WebCrawl.Json
