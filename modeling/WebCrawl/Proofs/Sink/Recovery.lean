import Mathlib.Data.List.Forall2
import WebCrawl.Proofs.Dict
import WebCrawl.Proofs.Json.Compact
import WebCrawl.Proofs.Sink.Sheets
import WebCrawl.Proofs.Sink.Truncation

/-!
# Reading blocks back

The blocks a writer puts into a sink that never fails are read back: one sheet for each carrier,
with its line and the value that was written last under each key. No other sheets have the same
text, so the order in which the fields were stored leaves no trace.
-/

namespace WebCrawl

open Text (OneLine)
open ByteSink (Reliable)

/-! ## The sheet of a carrier -/

def Carrier.sheet (c : Carrier) : Sheet :=
  ⟨c.request.line, c.fields.entries.map fun f => (f.1, Block.valueText f.2)⟩

theorem Block.join_valuePieces (v : Json) : String.join (valuePieces v) = valueText v := by
  cases v with
  | string s =>
    rw [valuePieces, String.join_cons]
    exact String.append_empty
  | _ => exact Json.join_pieces _

theorem Block.toList_field (f : String × Json) :
    ([f.1, ": "] ++ valuePieces f.2 ++ ["\n"]).flatMap String.toList =
      Sheet.fieldLine (f.1, valueText f.2) ++ ['\n'] := by
  rw [List.flatMap_append, List.flatMap_append, ← String.toList_join (l := valuePieces f.2),
    join_valuePieces]
  simp [Sheet.fieldLine]

theorem Block.toList_text (c : Carrier) : (text c).toList = Text.ofLines c.sheet.lines := by
  have fields : (c.fields.entries.flatMap fun f => [f.1, ": "] ++ valuePieces f.2 ++ ["\n"]).flatMap
      String.toList = Text.ofLines (c.sheet.fields.map Sheet.fieldLine) := by
    rw [List.flatMap_assoc, Text.ofLines, Carrier.sheet, List.map_map, List.flatMap_map]
    exact congrArg (List.flatMap · c.fields.entries) (funext toList_field)
  rw [text, String.toList_join, chunks, layout, List.flatMap_append, List.flatMap_append, fields]
  simp [Sheet.lines, Text.ofLines, Carrier.sheet, Request.line]

theorem Sheet.ext_get? {s t : Sheet} (line : s.line = t.line)
    (hs : s.fields.Pairwise fun a b => a.1 < b.1) (ht : t.fields.Pairwise fun a b => a.1 < b.1)
    (same : ∀ key, s.get? key = t.get? key) : s = t := by
  have fields : s.fields = t.fields := Dict.eq_of_mem_iff hs ht fun f => by
    rw [Dict.mem_iff_find? hs, Dict.mem_iff_find? ht]
    exact iff_of_eq (congrArg (· = some f.2) (same f.1))
  cases s; cases t; cases line; cases fields; rfl

namespace Writer

/-! ## Pages -/

/-- A carrier in the making: its request, and all that is stored in it, in order. -/
structure Page where
  request : Request
  puts : List (String × Json)

namespace Page

def carrier (p : Page) : Carrier := p.puts.foldl (fun c put => c.put put.1 put.2) (.new p.request)

/-- The written form of the value that was stored last under a key. -/
def shown (p : Page) (key : String) : Option String :=
  (Dict.lastWritten p.puts key).map Block.valueText

/-- Nothing in the page ends a line where it is written, and no key has a colon before a blank. -/
structure Legible (p : Page) : Prop where
  line : OneLine p.request.line.toList
  key : ∀ put ∈ p.puts, OneLine put.1.toList ∧ ¬[':', ' '] <:+: put.1.toList
  value : ∀ put ∈ p.puts, ∀ s, put.2 = .string s → OneLine s.toList

theorem carrier_eq (p : Page) : p.carrier = ⟨p.request, .ofPairs p.puts, []⟩ := by
  have general : ∀ (puts : List (String × Json)) (c : Carrier),
      puts.foldl (fun c put => c.put put.1 put.2) c =
        { c with fields := puts.foldl (fun d put => d.insert put.1 put.2) c.fields } := by
    intro puts
    induction puts with
    | nil => exact fun _ => rfl
    | cons put puts ih => exact fun c => ih (c.put put.1 put.2)
  exact general p.puts (.new p.request)

theorem line_sheet (p : Page) : p.carrier.sheet.line = p.request.line := by
  rw [carrier_eq, Carrier.sheet]

theorem get?_sheet (p : Page) (key : String) : p.carrier.sheet.get? key = p.shown key := by
  rw [shown, ← Dict.get?_ofPairs, carrier_eq, Carrier.sheet, Sheet.get?, Dict.get?, List.find?_map,
    Option.map_map, Option.map_map]
  rfl

theorem ascending_sheet (p : Page) : p.carrier.sheet.fields.Pairwise fun a b => a.1 < b.1 :=
  List.pairwise_map.mpr p.carrier.fields.ascending

theorem mem_puts {p : Page} {f : String × Json} (mem : f ∈ p.carrier.fields.entries) :
    f ∈ p.puts := by
  rw [carrier_eq, Dict.mem_entries_iff, Dict.get?_ofPairs] at mem
  obtain ⟨put, found, value⟩ := Option.map_eq_some_iff.mp mem
  have key : put.1 = f.1 := by simpa using List.find?_some found
  have same : put = f := Prod.ext key value
  exact same ▸ List.mem_reverse.mp (List.mem_of_find?_eq_some found)

theorem oneLine_valueText {v : Json} (whole : ∀ s, v = .string s → OneLine s.toList) :
    OneLine (Block.valueText v).toList := by
  cases v with
  | string s => exact whole s rfl
  | _ => exact Json.oneLine_render _

theorem Legible.sheet {p : Page} (legible : p.Legible) : p.carrier.sheet.Legible where
  line := by
    rw [line_sheet]
    exact legible.line
  key := by
    intro f mem
    obtain ⟨field, stored, rfl⟩ := List.mem_map.mp mem
    exact legible.key field (mem_puts stored)
  value := by
    intro f mem
    obtain ⟨field, stored, rfl⟩ := List.mem_map.mp mem
    exact oneLine_valueText (legible.value field (mem_puts stored))

end Page

/-! ## All blocks -/

variable {W : Type} [ByteSink W]

theorem write_reliable {s : Recording W} (c : Carrier) (reliable : Reliable s.sink) :
    let sink := (Block.write s c).2
    sink.taken = s.taken ++ Utf8.bytes (Block.text c) ∧ Reliable sink.sink := by
  obtain ⟨piece, taken, -, whole⟩ :=
    (writeChunks_delivery s ((Block.chunks c).map Utf8.bytes)).spec
  obtain ⟨done, reliable⟩ := writeChunks_reliable reliable ((Block.chunks c).map Utf8.bytes)
  rw [writeChunks_sink] at done reliable
  rw [Block.write, ← flatten_chunks, ← whole.mpr done]
  exact ⟨taken, reliable⟩

theorem process_reliable (name : String) (view : View) {s : Recording W} (c : Carrier)
    (reliable : Reliable s.sink) :
    let call := (Pipeline.writing name).process c view s
    call.world.taken = s.taken ++ Utf8.bytes (Block.text c) ∧ Reliable call.world.sink := by
  rw [process_eq]
  exact write_reliable c reliable

theorem sinkAfter_reliable (name : String) (view : View) {s : Recording W} (cs : List Carrier)
    (reliable : Reliable s.sink) :
    (sinkAfter name view s cs).taken =
      s.taken ++ cs.flatMap fun c => Utf8.bytes (Block.text c) := by
  induction cs generalizing s with
  | nil => simp [sinkAfter]
  | cons c cs ih =>
    obtain ⟨taken, reliable⟩ := process_reliable name view c reliable
    rw [sinkAfter, ih reliable, taken, List.flatMap_cons, List.append_assoc]

/-- All that the blocks of some pages come to. -/
def output (pages : List Page) : String := String.join (pages.map fun p => Block.text p.carrier)

def sheets (pages : List Page) : List Sheet := pages.map fun p => p.carrier.sheet

theorem toList_output (pages : List Page) : (output pages).toList = Sheet.text (sheets pages) := by
  rw [output, String.toList_join, List.flatMap_map, Sheet.text, Text.ofLines, sheets,
    List.flatMap_assoc, List.flatMap_map]
  exact congrArg (List.flatMap · pages) (funext fun p => Block.toList_text p.carrier)

theorem taken_reliable (name : String) (view : View) {w : W} (reliable : Reliable w)
    (pages : List Page) :
    (sinkAfter name view (.fresh w) (pages.map Page.carrier)).taken =
      Utf8.bytes (output pages) := by
  rw [sinkAfter_reliable name view _ reliable, output, Utf8.bytes_join, List.flatMap_map,
    List.flatMap_map]
  exact List.nil_append _

theorem legible_sheets {pages : List Page} (legible : ∀ p ∈ pages, p.Legible) :
    ∀ s ∈ sheets pages, s.Legible := by
  intro s mem
  obtain ⟨p, listed, rfl⟩ := List.mem_map.mp mem
  exact (legible p listed).sheet

/-! ## Recovery -/

/-- A sheet describes a page as it is written: its line, and under the keys, each of them once
and in the order of their bytes, what was stored last. -/
structure Describes (p : Page) (s : Sheet) : Prop where
  line : s.line = p.request.line
  shown : ∀ key, s.get? key = p.shown key
  ascending : s.fields.Pairwise fun a b => Utf8.bytes a.1 < Utf8.bytes b.1

theorem Page.describes_sheet (p : Page) : Describes p p.carrier.sheet where
  line := p.line_sheet
  shown := p.get?_sheet
  ascending := p.ascending_sheet.imp Utf8.bytes_lt_bytes

/-- Nothing that is written tells the pages apart. -/
def Page.Alike (p q : Page) : Prop :=
  p.request.line = q.request.line ∧ ∀ key, p.shown key = q.shown key

theorem Page.alike_iff {p q : Page} : p.Alike q ↔ p.carrier.sheet = q.carrier.sheet := by
  constructor
  · rintro ⟨line, shown⟩
    refine Sheet.ext_get? ?_ p.ascending_sheet q.ascending_sheet fun key => ?_
    · rw [line_sheet, line_sheet, line]
    · rw [get?_sheet, get?_sheet, shown]
  · intro same
    refine ⟨?_, fun key => ?_⟩
    · rw [← line_sheet, same, line_sheet]
    · rw [← get?_sheet, same, get?_sheet]

theorem sheets_eq_iff {pages others : List Page} :
    sheets pages = sheets others ↔ List.Forall₂ Page.Alike pages others := by
  have alike : Page.Alike = fun p q => p.carrier.sheet = q.carrier.sheet :=
    funext₂ fun _ _ => propext Page.alike_iff
  rw [alike, ← List.forall₂_eq_eq_eq, sheets, sheets, List.forall₂_map_left_iff,
    List.forall₂_map_right_iff]

/-- Pages whose texts end no line, and whose keys have no colon before a blank, are read back from
what a writer puts into a sink that never fails. Their sheets are the only ones with that text, one
for each page, and describe what was stored last; from any listing of the stored fields, once it is
sorted, the same block is made; and pages leave the same bytes if and only if nothing that is
written tells them apart. -/
theorem reads_back_blocks (name : String) (view : View) {w : W} (reliable : Reliable w)
    {pages : List Page} (legible : ∀ p ∈ pages, p.Legible) :
    let taken (pages : List Page) := (sinkAfter name view (.fresh w) (pages.map Page.carrier)).taken
    (∃ (text : String) (sheets : List Sheet), taken pages = Utf8.bytes text ∧
      Sheet.read text.toList = some sheets ∧
      (∀ others : List Sheet, (∀ s ∈ others, s.Legible) →
        (Sheet.text others = text.toList ↔ others = sheets)) ∧
      List.Forall₂ Describes pages sheets) ∧
    (∀ p ∈ pages, ∀ listing : List (String × Json), (listing.map Prod.fst).Nodup →
      (∀ key value, (key, value) ∈ listing ↔ Dict.lastWritten p.puts key = some value) →
      String.join (Block.layout p.request (listing.mergeSort Dict.byKey)) =
        Block.text p.carrier) ∧
    ∀ others : List Page, (∀ p ∈ others, p.Legible) →
      (taken pages = taken others ↔ List.Forall₂ Page.Alike pages others) := by
  have readable := legible_sheets legible
  refine ⟨⟨output pages, sheets pages, taken_reliable name view reliable pages, ?_, ?_, ?_⟩, ?_, ?_⟩
  · rw [toList_output]
    exact Sheet.read_text readable
  · intro others readable'
    rw [toList_output]
    exact ⟨Sheet.text_injective readable' readable, congrArg Sheet.text⟩
  · exact List.forall₂_map_right_iff.mpr (List.forall₂_same.mpr fun p _ => p.describes_sheet)
  · intro p _ listing once same
    have sorted : listing.mergeSort Dict.byKey = (Dict.ofPairs p.puts).entries :=
      Dict.mergeSort_eq_entries _ once fun key value => by rw [same, Dict.get?_ofPairs]
    rw [sorted, p.carrier_eq]
    rfl
  · intro others legible'
    dsimp only
    rw [taken_reliable name view reliable, taken_reliable name view reliable, ← sheets_eq_iff]
    constructor
    · intro same
      have text : output pages = output others := Utf8.bytes_injective same
      refine Sheet.text_injective readable (legible_sheets legible') ?_
      rw [← toList_output, ← toList_output, text]
    · intro same
      refine congrArg Utf8.bytes (String.toList_injective ?_)
      rw [toList_output, toList_output, same]

/-- A key that ends in a colon, a value that looks like a rule, and a line feed inside a list. -/
def twisted : Page where
  request := .ofUrl ⟨"https", some ⟨"", none, some (.name "a.example"), none⟩, "/", none, none⟩
  puts := [("b:", .string "c: d"), ("a", .string "first"), ("e", .string Block.footerRule),
    ("f", .array [.string "g\nh", .object [("i", .null)]]), ("a", .int 2)]

theorem reads_back_blocks_twisted :
    let sheet : Sheet := ⟨"GET https://a.example/", [("a", "2"), ("b:", "c: d"),
      ("e", Block.footerRule), ("f", "[\"g\\nh\",\x7b\"i\":null\x7d]")]⟩
    twisted.Legible ∧ ∃ text,
      (sinkAfter "writer" default (.fresh MemorySink.unlimited)
        [twisted.carrier, twisted.carrier]).taken = Utf8.bytes text ∧
      Sheet.read text.toList = some [sheet, sheet] := by
  intro sheet
  have legible : twisted.Legible := by
    refine ⟨by decide, by decide, ?_⟩
    have strings : OneLine "c: d".toList ∧ OneLine "first".toList ∧
        OneLine Block.footerRule.toList := by decide
    simpa [twisted] using strings
  have both : ∀ p ∈ [twisted, twisted], p.Legible := by simpa using legible
  obtain ⟨⟨text, sheets, taken, read, unique, -⟩, -, -⟩ :=
    reads_back_blocks "writer" default (MemorySink.reliable .unlimited rfl) both
  have shown : text = output [twisted, twisted] :=
    Utf8.bytes_injective (taken.symm.trans
      (taken_reliable "writer" default (MemorySink.reliable .unlimited rfl) [twisted, twisted]))
  have described : Writer.sheets [twisted, twisted] = [sheet, sheet] := by decide
  have only : [sheet, sheet] = sheets := by
    refine (unique _ ?_).mp (by rw [shown, toList_output, described])
    rw [← described]
    exact legible_sheets both
  exact ⟨legible, text, taken, only ▸ read⟩

end Writer

end WebCrawl
