import WebCrawl.Proofs.Json.Compact
import WebCrawl.Sink.Block

/-!
# Sheets

A sheet is what a block says: a line, and texts under keys. Sheets are written as lines of text and
read back from them. A field is never taken for a rule, as there is a colon in it, and it is cut at
the first colon before a blank, as there is none in the key.
-/

namespace WebCrawl

structure Sheet where
  line : String
  fields : List (String × String)
  deriving Repr, DecidableEq

namespace Sheet

open Text (OneLine)

def get? (s : Sheet) (key : String) : Option String :=
  (s.fields.find? fun f => f.1 == key).map Prod.snd

/-! ## Writing -/

def fieldLine (f : String × String) : List Char := f.1.toList ++ [':', ' '] ++ f.2.toList

def lines (s : Sheet) : List (List Char) :=
  (s.line.toList ++ [':']) :: Block.headerRule.toList ::
    (s.fields.map fieldLine ++ [Block.footerRule.toList])

def text (sheets : List Sheet) : List Char := Text.ofLines (sheets.flatMap lines)

/-- Nothing in the sheet ends a line, and nothing in a key ends the key. -/
structure Legible (s : Sheet) : Prop where
  line : OneLine s.line.toList
  key : ∀ f ∈ s.fields, OneLine f.1.toList ∧ ¬[':', ' '] <:+: f.1.toList
  value : ∀ f ∈ s.fields, OneLine f.2.toList

/-! ## Reading -/

/-- Cuts a line at the first colon before a blank. -/
def cutField : List Char → Option (List Char × List Char)
  | [] => none
  | c :: rest =>
    if [':', ' '] <+: c :: rest then some ([], rest.drop 1)
    else (cutField rest).map fun f => (c :: f.1, f.2)

/-- Reads lines, the first of which may belong to a sheet that has been begun. -/
def readFrom : Option Sheet → List (List Char) → Option (List Sheet)
  | none, [] => some []
  | none, head :: rule :: rest =>
    if head.getLast? = some ':' ∧ rule = Block.headerRule.toList then
      readFrom (some ⟨String.ofList head.dropLast, []⟩) rest
    else none
  | some s, line :: rest =>
    if line = Block.footerRule.toList then (readFrom none rest).map (s :: ·)
    else
      (cutField line).bind fun f =>
        readFrom (some ⟨s.line, s.fields ++ [(String.ofList f.1, String.ofList f.2)]⟩) rest
  | _, _ => none

def read (text : List Char) : Option (List Sheet) := (Text.lines? text).bind (readFrom none)

/-! ## Reading what was written -/

theorem cutField_append {key : List Char} (whole : ¬[':', ' '] <:+: key) (value : List Char) :
    cutField (key ++ [':', ' '] ++ value) = some (key, value) := by
  induction key with
  | nil => rfl
  | cons c key ih =>
    have later : ¬[':', ' '] <:+: key := fun h => whole (h.trans (List.suffix_cons c key).isInfix)
    have here : ¬[':', ' '] <+: c :: (key ++ [':', ' '] ++ value) := by
      intro begins
      cases key with
      | nil =>
        have blank : ' ' = ':' :=
          (List.cons_prefix_cons.mp (List.cons_prefix_cons.mp begins).2).1
        exact absurd blank (by decide)
      | cons d key =>
        obtain ⟨rfl, after⟩ := List.cons_prefix_cons.mp begins
        obtain ⟨rfl, -⟩ := List.cons_prefix_cons.mp after
        exact whole ⟨[], key, rfl⟩
    rw [List.cons_append, List.cons_append, cutField, if_neg here, ih later]
    rfl

theorem fieldLine_ne_footerRule (f : String × String) :
    fieldLine f ≠ Block.footerRule.toList := by
  intro same
  have colon : ':' ∈ fieldLine f := by simp [fieldLine]
  rw [same] at colon
  exact absurd colon (by decide)

theorem readFrom_fields (line : String) (done fields : List (String × String))
    (keys : ∀ f ∈ fields, ¬[':', ' '] <:+: f.1.toList) (rest : List (List Char)) :
    readFrom (some ⟨line, done⟩) (fields.map fieldLine ++ Block.footerRule.toList :: rest) =
      (readFrom none rest).map (⟨line, done ++ fields⟩ :: ·) := by
  induction fields generalizing done with
  | nil => simp [readFrom]
  | cons f fields ih =>
    obtain ⟨key, later⟩ := List.forall_mem_cons.mp keys
    rw [List.map_cons, List.cons_append, readFrom, if_neg (fieldLine_ne_footerRule f), fieldLine,
      cutField_append key, Option.bind_some, String.ofList_toList, String.ofList_toList,
      ih _ later, List.append_assoc]
    rfl

theorem readFrom_lines {s : Sheet} (legible : s.Legible) (rest : List (List Char)) :
    readFrom none (s.lines ++ rest) = (readFrom none rest).map (s :: ·) := by
  have head : (s.line.toList ++ [':']).getLast? = some ':' := List.getLast?_concat
  rw [lines, List.cons_append, List.cons_append, readFrom, if_pos ⟨head, rfl⟩,
    List.dropLast_concat, String.ofList_toList, List.append_assoc]
  exact readFrom_fields s.line [] s.fields (fun f mem => (legible.key f mem).2) rest

theorem readFrom_flatMap_lines {sheets : List Sheet} (legible : ∀ s ∈ sheets, s.Legible) :
    readFrom none (sheets.flatMap lines) = some sheets := by
  induction sheets with
  | nil => rfl
  | cons s sheets ih =>
    obtain ⟨first, later⟩ := List.forall_mem_cons.mp legible
    rw [List.flatMap_cons, readFrom_lines first, ih later]
    rfl

theorem Legible.oneLine {s : Sheet} (legible : s.Legible) : ∀ l ∈ s.lines, OneLine l := by
  rw [lines, List.forall_mem_cons, List.forall_mem_cons, List.forall_mem_append]
  refine ⟨legible.line.append (by decide), by decide, ?_, by decide⟩
  intro l mem
  obtain ⟨f, listed, rfl⟩ := List.mem_map.mp mem
  exact .append (.append (legible.key f listed).1 (by decide)) (legible.value f listed)

theorem read_text {sheets : List Sheet} (legible : ∀ s ∈ sheets, s.Legible) :
    read (text sheets) = some sheets := by
  have lines : ∀ l ∈ sheets.flatMap lines, OneLine l := by
    intro l mem
    obtain ⟨s, listed, mem⟩ := List.mem_flatMap.mp mem
    exact (legible s listed).oneLine l mem
  rw [read, text, Text.lines?_ofLines lines]
  exact readFrom_flatMap_lines legible

theorem text_injective {sheets others : List Sheet} (legible : ∀ s ∈ sheets, s.Legible)
    (legible' : ∀ s ∈ others, s.Legible) (same : text sheets = text others) : sheets = others :=
  Option.some.inj ((read_text legible).symm.trans ((congrArg read same).trans (read_text legible')))

end Sheet

end WebCrawl
