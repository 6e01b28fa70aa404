import WebCrawl.Proofs.Config.Meaning
import WebCrawl.Proofs.Json.Printing

/-!
# Configurations are read back

A valid configuration is read from its own text, and every filter is, valid or not. Only the rate of
a Bloom filter may be read as another double than the one that was written.
-/

namespace WebCrawl

open Json

/-- The rate of a Bloom filter is read from its own text. -/
def FilterKind.Legible : FilterKind → Prop
  | .bloom _ rate => parse (floatText rate) = .ok (.float rate)
  | _ => True

namespace Config

theorem value_ofNat_toNat (n : UInt64) : (Numeral.ofNat n.toNat).value = some (.int n.toNat) :=
  Numeral.value_ofNat n.toNat_lt

theorem unsigned?_toNat (expected : String) (n : UInt64) :
    unsigned? expected (.int n.toNat) = .ok n := by
  simp [unsigned?]

theorem unsignedOf_toNat (n : UInt64) : unsignedOf (.number (.ofNat n.toNat)) = some n := by
  rw [unsignedOf, value_ofNat_toNat, Option.bind_eq_bind, Option.bind_some, unsigned?_toNat]
  rfl

theorem exists_prints_kind (name : String) : ∃ m : Member,
    PrintsMember ("kind", .string name) m ∧ tagOf m.2 = tagNamed name := by
  obtain ⟨l, prints, said⟩ := exists_prints_string name
  obtain ⟨key, member⟩ := exists_prints_member "kind" prints
  refine ⟨(key, .string l), member, ?_⟩
  rw [tagOf, said]
  rfl

theorem exists_prints_filter (k : FilterKind) (legible : k.Legible) : ∃ t : Spelling,
    Prints k.json t ∧ ∀ depth, filterOf depth t = some k := by
  obtain ⟨⟨kindName, tag⟩, kind, tagged⟩ := exists_prints_kind k.tag
  have named : kindName.string? = some "kind" := kind.named
  dsimp only at tagged
  cases k with
  | none =>
    refine ⟨_, prints_object (.cons kind .nil), fun depth => ?_⟩
    have parts : filterParts depth .none [(kindName, tag)] = some (some .none, []) := by
      simp [filterParts, named, tagged, FilterKind.tag, tagNamed]
    rw [filterOf, shapeOf, parts]
    rfl
  | distinct =>
    refine ⟨_, prints_object (.cons kind .nil), fun depth => ?_⟩
    have parts : filterParts depth .none [(kindName, tag)] = some (some .distinct, []) := by
      simp [filterParts, named, tagged, FilterKind.tag, tagNamed]
    rw [filterOf, shapeOf, parts]
    rfl
  | bloom expected rate =>
    obtain ⟨n, printed, value⟩ := exists_prints_float legible
    obtain ⟨expectedName, member⟩ :=
      exists_prints_member "expected_insertions" (prints_ofNat expected.toNat)
    obtain ⟨rateName, member'⟩ := exists_prints_member "false_positive_rate" printed
    refine ⟨_, prints_object (.cons kind (.cons member (.cons member' .nil))), fun depth => ?_⟩
    have name : expectedName.string? = some "expected_insertions" := member.named
    have name' : rateName.string? = some "false_positive_rate" := member'.named
    have parts : filterParts depth .none [(kindName, tag),
        (expectedName, .number (.ofNat expected.toNat)), (rateName, .number n)] =
          some (some .bloom,
            [("expected_insertions", .int expected.toNat),
              ("false_positive_rate", .float rate)]) := by
      simp [filterParts, named, tagged, name, name', FilterKind.tag, tagNamed, Spelling.build,
        value_ofNat_toNat, value]
    have sizes : bloomMembers .none .none
        [("expected_insertions", .int expected.toNat), ("false_positive_rate", .float rate)] =
          .ok (.bloom expected rate) := by
      simp [bloomMembers, unsigned?_toNat, rate?]
    rw [filterOf, shapeOf, parts]
    exact congrArg Except.toOption sizes

theorem exists_prints_field (f : Field) {v : Json} {t : Spelling} {s : Setting}
    (prints : Prints v t) (said : f.setting t = some s) :
    ∃ m : Member, PrintsMember (f.name, v) m ∧ settingOf m = some (some s) := by
  obtain ⟨name, member⟩ := exists_prints_member f.name prints
  refine ⟨(name, t), member, ?_⟩
  rw [settingOf_of_field member.named, said]
  rfl

theorem exists_prints_count {f : Field} {say : UInt64 → Setting}
    (counts : ∀ t, f.setting t = (unsignedOf t).map say) (n : UInt64) :
    ∃ m : Member, PrintsMember (f.name, .int n.toNat) m ∧ settingOf m = some (some (say n)) := by
  refine exists_prints_field f (prints_ofNat n.toNat) ?_
  rw [counts, unsignedOf_toNat, Option.map_some]

theorem exists_prints_config (c : Config) (legible : c.filter.Legible) : ∃ ms : List Member,
    Prints c.json (.object ms) ∧ ∃ d : Draft, ms.foldlM Draft.take .empty = some d ∧
      d.complete = c := by
  obtain ⟨filter, prints, stands⟩ := exists_prints_filter c.filter legible
  have filters : Field.filter.setting filter = some (.filter c.filter) := by
    rw [Field.setting, stands, Option.map_some]
  obtain ⟨m₁, first, h₁⟩ := exists_prints_count (f := .fetchWorkers) (fun _ => rfl) c.fetchWorkers
  obtain ⟨m₂, second, h₂⟩ :=
    exists_prints_count (f := .processWorkers) (fun _ => rfl) c.processWorkers
  obtain ⟨m₃, third, h₃⟩ := exists_prints_count (f := .waitMillis) (fun _ => rfl) c.waitMillis
  obtain ⟨m₄, fourth, h₄⟩ := exists_prints_field .filter prints filters
  refine ⟨[m₁, m₂, m₃, m₄],
    prints_object (.cons first (.cons second (.cons third (.cons fourth .nil)))),
    ⟨some c.fetchWorkers, some c.processWorkers, some c.waitMillis, some c.filter⟩, ?_, rfl⟩
  simp only [List.foldlM_cons, take_of_some h₁, take_of_some h₂, take_of_some h₃, take_of_some h₄]
  rfl

/-- What is written is read back as it was. -/
theorem reads_back :
    (∀ c : Config, c.validate = .ok () → c.filter.Legible → ofText c.jsonText = .ok c) ∧
      ∀ k : FilterKind, k.Legible → filterOfText k.json.render = .ok k := by
  constructor
  · intro c valid legible
    obtain ⟨ms, prints, d, drafted, rfl⟩ := exists_prints_config c legible
    exact of_toOption_eq_some ((toOption_ofText prints).trans (configOf_of_valid drafted valid))
  · intro k legible
    obtain ⟨t, prints, stands⟩ := exists_prints_filter k legible
    have laid : Laid (t.tokens ++ []) k.json.render.toList := by
      rw [List.append_nil]
      exact prints
    have reads := toOption_wholeText (reads_filter (depthBound - 1) t [] _ ends_nil laid)
    exact of_toOption_eq_some (reads.trans (stands _))

def largest : Config where
  fetchWorkers := 18446744073709551615
  processWorkers := 18446744073709551615
  waitMillis := 18446744073709551615
  filter := .bloom 18446744073709551615 0.01

theorem reads_back_of_largest : largest.validate = .ok () ∧ largest.filter.Legible ∧
    ofText largest.jsonText = .ok largest ∧
    filterOfText (FilterKind.bloom 0 0.01).json.render = .ok (.bloom 0 0.01) :=
  ⟨rfl, rfl, reads_back.1 largest rfl rfl, reads_back.2 (.bloom 0 0.01) rfl⟩

end Config

end WebCrawl
