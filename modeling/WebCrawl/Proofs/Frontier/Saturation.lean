import WebCrawl.Proofs.Frontier.Bloom
import WebCrawl.Proofs.Frontier.Disguise

/-!
# A Bloom filter fills up

What a Bloom filter takes for new has a position whose bit is clear, and the recording sets it. No
bit is ever cleared, so a filter whose positions lie below `m` lets through at most `m` pushes, in
any order of uses and in front of any frontier. Then all of its bits are set, and it takes
everything for seen.
-/

namespace WebCrawl

namespace BloomFilter

/-- All positions are places of a bitmap with `m` bits. -/
def Within (f : BloomFilter) (m : Nat) : Prop := ∀ i, ∀ p ∈ f.positions i, p < m

theorem Within.record {f : BloomFilter} {m : Nat} (h : f.Within m) (i : String) :
    (f.record i).Within m := h

def setBits (m : Nat) (f : BloomFilter) : Finset Nat :=
  (Finset.range m).filter fun p => f.bitmap.testBit p = true

variable {m : Nat} {f : BloomFilter}

theorem mem_setBits {p : Nat} : p ∈ f.setBits m ↔ p < m ∧ f.bitmap.testBit p = true := by
  rw [setBits, Finset.mem_filter, Finset.mem_range]

theorem card_setBits_le (m : Nat) (f : BloomFilter) : (f.setBits m).card ≤ m :=
  calc
    (f.setBits m).card ≤ (Finset.range m).card := Finset.card_filter_le _ _
    _ = m := Finset.card_range m

theorem setBits_subset_record (m : Nat) (f : BloomFilter) (i : String) :
    f.setBits m ⊆ (f.record i).setBits m := by
  intro p member
  rw [mem_setBits] at member ⊢
  obtain ⟨below, set⟩ := member
  refine ⟨below, ?_⟩
  rw [record, testBit_setAll, set, Bool.true_or]

theorem exists_clear_of_isNew {i : String} (new : f.isNew i = true) :
    ∃ p ∈ f.positions i, f.bitmap.testBit p = false := by
  by_contra none_clear
  have seen : f.isNew i = false := by
    apply (isNew_eq_false_iff f i).mpr
    intro p member
    by_contra clear
    exact none_clear ⟨p, member, Bool.eq_false_iff.mpr clear⟩
  rw [seen] at new
  cases new

theorem card_setBits_lt_record {i : String} (within : f.Within m) (new : f.isNew i = true) :
    (f.setBits m).card < ((f.record i).setBits m).card := by
  obtain ⟨p, member, clear⟩ := exists_clear_of_isNew new
  apply Finset.card_lt_card
  apply (Finset.ssubset_iff_of_subset (setBits_subset_record m f i)).mpr
  refine ⟨p, ?_, ?_⟩
  · apply mem_setBits.mpr
    refine ⟨within i p member, ?_⟩
    rw [record, testBit_setAll, List.contains_iff_mem.mpr member, Bool.or_true]
  · intro set
    rw [(mem_setBits.mp set).2] at clear
    cases clear

end BloomFilter

/-- A frontier that counts the pushes it is given. -/
structure Metered (S : Type) where
  base : S
  pushes : Nat

namespace Metered

variable {S : Type} [Frontier S]

instance : Frontier (Metered S) where
  push s r := ((Frontier.push s.base r).1, ⟨(Frontier.push s.base r).2, s.pushes + 1⟩)
  poll s := ((Frontier.poll s.base).1, { s with base := (Frontier.poll s.base).2 })
  requeue s r := ((Frontier.requeue s.base r).1, { s with base := (Frontier.requeue s.base r).2 })
  size s := Frontier.size s.base
  isEmpty s := Frontier.isEmpty s.base

theorem disguise_base : Frontier.Disguise (base : Metered S → S) where
  push _ _ := rfl
  poll _ := rfl
  requeue _ _ := rfl
  size _ := rfl
  isEmpty _ := rfl

end Metered

namespace Layered

variable {S T : Type}

def mapBase (φ : S → T) (s : Layered S) : Layered T := ⟨s.layers, φ s.base⟩

variable [Frontier S] [Frontier T] {φ : S → T}

theorem pushThrough_disguised (h : Frontier.Disguise φ) (r : Request) (layers : List FilterLayer)
    (base : S) : pushThrough r layers (φ base) = ((pushThrough r layers base).1,
      (pushThrough r layers base).2.1, φ (pushThrough r layers base).2.2) := by
  induction layers with
  | nil => simp only [pushThrough, h.push]
  | cons l layers ih =>
    simp only [pushThrough]
    split
    · rw [ih]
    · rfl

theorem operate_mapBase (h : Frontier.Disguise φ) (s : Layered S) (o : Operation) :
    (s.mapBase φ).operate o = ((s.operate o).1, (s.operate o).2.mapBase φ) := by
  obtain ⟨layers, base⟩ := s
  cases o with
  | push r => simp only [operate, Frontier.push, push, mapBase, pushThrough_disguised h]
  | force r =>
    cases layers with
    | nil => simp only [operate, force, push, mapBase, pushThrough_disguised h]
    | cons l layers => simp only [operate, force, push, mapBase, pushThrough_disguised h]
  | poll => simp only [operate, poll_eq, mapBase, h.poll]
  | requeue r => simp only [operate, requeue_eq, mapBase, h.requeue]
  | hasSeen r => rfl

theorem operateAll_mapBase (h : Frontier.Disguise φ) (s : Layered S) (ops : List Operation) :
    (s.mapBase φ).operateAll ops = ((s.operateAll ops).1, (s.operateAll ops).2.mapBase φ) := by
  induction ops generalizing s with
  | nil => rfl
  | cons o rest ih => rw [operateAll_cons, operateAll_cons, operate_mapBase h, ih]

section metered

variable {f : BloomFilter} {m : Nat}

theorem pushes_operate (within : f.Within m) (identity : Request → String) (inner : Metered S)
    (o : Operation) :
    ∃ (f' : BloomFilter) (inner' : Metered S),
      (((bare inner).estimating f identity).operate o).2 = (bare inner').estimating f' identity ∧
      f'.Within m ∧
      inner'.pushes + (f.setBits m).card ≤
        inner.pushes + (f'.setBits m).card + o.isForce.toNat := by
  cases o with
  | push r =>
    cases fresh : f.isNew (identity r) with
    | false =>
      have left : (((bare inner).estimating f identity).operate (.push r)).2 =
          (bare inner).estimating f identity :=
        congrArg Prod.snd (operate_wrap_push_of_seen (bare inner) ⟨.bloom f, identity⟩ r fresh)
      exact ⟨f, inner, left, within, Nat.le_refl _⟩
    | true =>
      have left : (((bare inner).estimating f identity).operate (.push r)).2 =
          (bare (Frontier.push inner r).2).estimating (f.record (identity r)) identity :=
        congrArg Prod.snd (operate_wrap_push_of_new (bare inner) ⟨.bloom f, identity⟩ r fresh)
      have more := BloomFilter.card_setBits_lt_record within fresh
      have counted : (Frontier.push inner r).2.pushes = inner.pushes + 1 := rfl
      refine ⟨_, _, left, within.record _, ?_⟩
      omega
  | force r =>
    have more := Finset.card_le_card (BloomFilter.setBits_subset_record m f (identity r))
    have counted : (Frontier.push inner r).2.pushes = inner.pushes + 1 := rfl
    have forced : (Operation.force r).isForce.toNat = 1 := rfl
    refine ⟨f.record (identity r), (Frontier.push inner r).2, rfl, within.record _, ?_⟩
    omega
  | poll => exact ⟨f, (Frontier.poll inner).2, rfl, within, Nat.le_refl _⟩
  | requeue r => exact ⟨f, (Frontier.requeue inner r).2, rfl, within, Nat.le_refl _⟩
  | hasSeen r => exact ⟨f, inner, rfl, within, Nat.le_refl _⟩

theorem pushes_operateAll (within : f.Within m) (identity : Request → String) (inner : Metered S)
    (ops : List Operation) :
    ∃ (f' : BloomFilter) (inner' : Metered S),
      (((bare inner).estimating f identity).operateAll ops).2 =
        (bare inner').estimating f' identity ∧
      inner'.pushes + (f.setBits m).card ≤
        inner.pushes + (f'.setBits m).card + ops.countP Operation.isForce := by
  induction ops generalizing f inner with
  | nil => exact ⟨f, inner, rfl, Nat.le_refl _⟩
  | cons o rest ih =>
    obtain ⟨f', inner', left, within', pushed⟩ := pushes_operate within identity inner o
    obtain ⟨f'', inner'', left', pushed'⟩ := ih within' inner'
    refine ⟨f'', inner'', ?_, ?_⟩
    · rw [operateAll_cons, left]
      exact left'
    · rw [countP_cons_toNat]
      omega

/-- How a frontier fares that counts the pushes which a Bloom filter lets through to it. -/
structure Saturates (identity : Request → String) (f : BloomFilter) (m : Nat) (inner : S)
    (ops : List Operation) (metered : List Reply × Layered (Metered S)) : Prop where
  /-- Nobody can tell that the pushes are counted. -/
  same : ((bare inner).estimating f identity).operateAll ops =
    (metered.1, metered.2.mapBase Metered.base)
  pushes_le : metered.2.base.pushes ≤ m + ops.countP Operation.isForce

theorem saturates (within : f.Within m) (identity : Request → String) (inner : S)
    (ops : List Operation) : Saturates identity f m inner ops
      (((bare (Metered.mk inner 0)).estimating f identity).operateAll ops) where
  same := operateAll_mapBase Metered.disguise_base
    ((bare (Metered.mk inner 0)).estimating f identity) ops
  pushes_le := by
    obtain ⟨f', inner', left, pushed⟩ := pushes_operateAll within identity ⟨inner, 0⟩ ops
    have full := BloomFilter.card_setBits_le m f'
    have none_yet : (Metered.mk inner 0).pushes = 0 := rfl
    rw [left]
    have counted : ((bare inner').estimating f' identity).base.pushes = inner'.pushes := rfl
    omega

end metered

end Layered

end WebCrawl
