import Mathlib.Data.List.SplitBy
import Mathlib.Tactic.SplitIfs
import WebCrawl.Json.Printer

/-!
# The compact form

A text that is made of lines, each ended by a line feed, is cut into these lines again. The pieces
in which a value is put out make up its compact form, and that form stands on one line, whatever the
texts in the value.
-/

namespace WebCrawl.Text

/-- The text ends no line. -/
abbrev OneLine (s : List Char) : Prop := '\n' ∉ s

theorem OneLine.append {s t : List Char} (hs : OneLine s) (ht : OneLine t) : OneLine (s ++ t) :=
  fun h => (List.mem_append.mp h).elim hs ht

def ofLines (lines : List (List Char)) : List Char := lines.flatMap fun line => line ++ ['\n']

/-- The lines of a text, the last of which must be ended like all others. -/
def lines? (s : List Char) : Option (List (List Char)) :=
  let parts := s.splitOn '\n'
  if parts.getLast? = some [] then some parts.dropLast else none

theorem splitOn_ofLines {lines : List (List Char)} (h : ∀ line ∈ lines, OneLine line) :
    (ofLines lines).splitOn '\n' = lines ++ [[]] := by
  induction lines with
  | nil => rfl
  | cons line lines ih =>
    obtain ⟨first, later⟩ := List.forall_mem_cons.mp h
    have cut : ofLines (line :: lines) = line ++ '\n' :: ofLines lines := by
      simp [ofLines]
    rw [cut, List.splitOn_append_cons_self_of_not_mem first, ih later, List.cons_append]

theorem lines?_ofLines {lines : List (List Char)} (h : ∀ line ∈ lines, OneLine line) :
    lines? (ofLines lines) = some lines := by
  simp [lines?, splitOn_ofLines h]

end WebCrawl.Text

namespace WebCrawl.Json

open Text (OneLine)

/-! ## Pieces -/

theorem join_quotePieces (s : String) : String.join (quotePieces s) = quote s := by
  have runs : ∀ parts : List (List Char),
      (parts.map fun run => String.ofList (run.flatMap escapeChar)).flatMap String.toList =
        parts.flatten.flatMap escapeChar := by
    intro parts
    induction parts with
    | nil => rfl
    | cons run parts ih =>
      rw [List.map_cons, List.flatMap_cons, ih, String.toList_ofList, List.flatten_cons,
        List.flatMap_append]
  apply String.toList_injective
  rw [String.toList_join, quotePieces, List.cons_append, List.flatMap_cons, List.flatMap_append,
    runs, List.flatten_splitBy, quote, String.toList_ofList]
  simp

mutual

theorem join_pieces : ∀ v : Json, String.join v.pieces = v.render
  | .null => rfl
  | .bool _ => rfl
  | .int _ => rfl
  | .float _ => rfl
  | .string s => join_quotePieces s
  | .array items => by
    rw [pieces, render, String.join_append, String.join_cons, join_itemPieces items]
    rfl
  | .object members => by
    rw [pieces, render, String.join_append, String.join_cons, join_memberPieces members]
    rfl

theorem join_itemPieces : ∀ items : List Json, String.join (itemPieces items) = renderItems items
  | [] => rfl
  | [x] => join_pieces x
  | x :: y :: rest => by
    simp only [itemPieces, renderItems, String.join_append, String.join_cons, join_pieces x,
      join_itemPieces (y :: rest), String.append_assoc]

theorem join_memberPieces :
    ∀ members : List (String × Json), String.join (memberPieces members) = renderMembers members
  | [] => rfl
  | [(k, v)] => by
    rw [memberPieces, renderMembers, String.join_append, String.join_cons, join_quotePieces,
      join_pieces v, String.append_assoc]
  | (k, v) :: m :: rest => by
    simp only [memberPieces, renderMembers, String.join_append, String.join_cons, join_quotePieces,
      join_pieces v, join_memberPieces (m :: rest), String.append_assoc]

end

/-! ## One line -/

theorem oneLine_of_digits {s : List Char} (h : ∀ c ∈ s, c.isDigit = true) : OneLine s :=
  fun lf => absurd (h _ lf) (by decide)

theorem oneLine_nat (n : Nat) : OneLine (toString n).toList := by
  have digits : (toString n).toList = Nat.toDigits 10 n := by
    rw [Nat.toString_eq_ofList_toDigits, String.toList_ofList]
  rw [digits]
  exact oneLine_of_digits fun _ => Nat.isDigit_of_mem_toDigits (by decide) (by decide)

theorem oneLine_int : ∀ n : Int, OneLine (toString n).toList
  | .ofNat n => oneLine_nat n
  | .negSucc n => by
    have signed : (toString (Int.negSucc n)).toList = '-' :: (toString (n + 1)).toList := by
      exact String.toList_append
    rw [signed]
    exact .append (s := ['-']) (by decide) (oneLine_nat (n + 1))

theorem oneLine_escapeChar (c : Char) : OneLine (escapeChar c) := by
  unfold escapeChar
  split_ifs with quote backslash line carriage tab back feed control
  · decide
  · decide
  · decide
  · decide
  · decide
  · decide
  · decide
  · have escapes : ∀ n < 0x20,
        OneLine ['\\', 'u', '0', '0', hexDigit (n / 16), hexDigit (n % 16)] := by decide
    exact escapes c.toNat control
  · exact fun h => line (List.mem_singleton.mp h).symm

theorem oneLine_quote (s : String) : OneLine (quote s).toList := by
  rw [quote, String.toList_ofList]
  refine .append (.append (s := ['"']) (by decide) ?_) (by decide)
  intro lf
  obtain ⟨c, -, escaped⟩ := List.mem_flatMap.mp lf
  exact oneLine_escapeChar c escaped

theorem oneLine_zeros (n : Nat) : OneLine (Decimal.zeros n).toList := by
  rw [Decimal.zeros, String.toList_ofList]
  exact fun lf => absurd (List.eq_of_mem_replicate lf) (by decide)

theorem oneLine_positional (d : Decimal.Digits) (whole : Bool) :
    OneLine (d.positional whole).toList := by
  unfold Decimal.Digits.positional
  dsimp only
  split
  · simp only [String.toList_append]
    refine .append (.append (oneLine_nat d.digits) ?_) ?_
    · split
      · decide
      · exact oneLine_zeros _
    · cases whole <;> decide
  · have padded : OneLine ((Decimal.zeros ((-d.exponent).toNat + 1 - (toString d.digits).length) ++
        toString d.digits).toList) := by
      rw [String.toList_append]
      exact (oneLine_zeros _).append (oneLine_nat d.digits)
    simp only [String.toList_append, String.toList_ofList] at padded ⊢
    exact .append (.append (fun lf => padded (List.mem_of_mem_take lf)) (by decide))
      fun lf => padded (List.mem_of_mem_drop lf)

theorem oneLine_scientific (d : Decimal.Digits) (signed : Bool) :
    OneLine (d.scientific signed).toList := by
  have digits := oneLine_nat d.digits
  unfold Decimal.Digits.scientific
  dsimp only
  simp only [String.toList_append]
  refine .append (.append (.append ?_ (by decide)) ?_) (oneLine_int _)
  · generalize (toString d.digits).toList = text at digits
    match text, digits with
    | [], _ => decide
    | [c], one => simpa using one
    | c :: c' :: rest, one => simpa [OneLine] using one
  · split <;> decide

theorem oneLine_floatText (x : Float) : OneLine (floatText x).toList := by
  unfold floatText
  split
  · rename_i negative m q _
    rw [Decimal.Layout.renderParts, String.toList_append]
    refine .append (by cases negative <;> decide) ?_
    unfold Decimal.Layout.magnitude
    split
    · exact oneLine_positional _ _
    · dsimp only
      split
      · exact oneLine_positional _ _
      · exact oneLine_scientific _ _
  · decide

theorem oneLine_leafText (v : Json) : OneLine v.leafText.toList := by
  cases v with
  | null => decide
  | bool b => cases b <;> decide
  | int n => exact oneLine_int n
  | float x => exact oneLine_floatText x
  | string s => exact oneLine_quote s
  | array _ => exact (by decide : OneLine "[]".toList)
  | object _ => exact (by decide : OneLine "\x7b\x7d".toList)

mutual

theorem oneLine_render : ∀ v : Json, OneLine v.render.toList
  | .null => oneLine_leafText .null
  | .bool b => oneLine_leafText (.bool b)
  | .int n => oneLine_leafText (.int n)
  | .float x => oneLine_leafText (.float x)
  | .string s => oneLine_leafText (.string s)
  | .array items => by
    rw [render, String.toList_append, String.toList_append]
    exact .append (.append (by decide) (oneLine_renderItems items)) (by decide)
  | .object members => by
    rw [render, String.toList_append, String.toList_append]
    exact .append (.append (by decide) (oneLine_renderMembers members)) (by decide)

theorem oneLine_renderItems : ∀ items : List Json, OneLine (renderItems items).toList
  | [] => by decide
  | [x] => oneLine_render x
  | x :: y :: rest => by
    simp only [renderItems, String.toList_append]
    exact .append (.append (oneLine_render x) (by decide)) (oneLine_renderItems (y :: rest))

theorem oneLine_renderMembers :
    ∀ members : List (String × Json), OneLine (renderMembers members).toList
  | [] => by decide
  | [(k, v)] => by
    simp only [renderMembers, String.toList_append]
    exact .append (.append (oneLine_quote k) (by decide)) (oneLine_render v)
  | (k, v) :: m :: rest => by
    simp only [renderMembers, String.toList_append]
    exact .append (.append (.append (.append (oneLine_quote k) (by decide)) (oneLine_render v))
      (by decide)) (oneLine_renderMembers (m :: rest))

end

end WebCrawl.Json
