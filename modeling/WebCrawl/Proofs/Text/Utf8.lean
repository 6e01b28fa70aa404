import Mathlib.Tactic.SplitIfs
import WebCrawl.Text.Utf8

/-!
# Characters and their bytes

The bytes of a text determine it, and texts come in the same order as their bytes.
-/

namespace WebCrawl.Utf8

@[simp] theorem bytes_append (s t : String) : bytes (s ++ t) = bytes s ++ bytes t := by
  simp [bytes, encode]

theorem bytes_join (parts : List String) : bytes (String.join parts) = parts.flatMap bytes := by
  induction parts with
  | nil => rfl
  | cons s parts ih => rw [String.join_cons, bytes_append, ih, List.flatMap_cons]

theorem bytes_injective {s t : String} (same : bytes s = bytes t) : s = t := by
  have encoded : s.toList.utf8Encode = t.toList.utf8Encode := congrArg List.toByteArray same
  rw [← s.ofList_toList, ← t.ofList_toList, ← String.toByteArray_inj, String.toByteArray_ofList,
    String.toByteArray_ofList, encoded]

/-! ## Order -/

/-- Some byte of the first sequence is less than the one in its place in the second, and all bytes
before it are the same. -/
def Before : List UInt8 → List UInt8 → Prop
  | a :: as, b :: bs => a < b ∨ a = b ∧ Before as bs
  | _, _ => False

theorem Before.lt {as bs : List UInt8} (h : Before as bs) : as < bs := by
  induction as generalizing bs with
  | nil => exact h.elim
  | cons a as ih =>
    cases bs with
    | nil => exact h.elim
    | cons b bs => exact List.cons_lt_cons_iff.mpr (h.imp id fun ⟨same, later⟩ => ⟨same, ih later⟩)

theorem Before.append {as bs : List UInt8} (h : Before as bs) (s t : List UInt8) :
    Before (as ++ s) (bs ++ t) := by
  induction as generalizing bs with
  | nil => exact h.elim
  | cons a as ih =>
    cases bs with
    | nil => exact h.elim
    | cons b bs => exact h.imp id fun ⟨same, later⟩ => ⟨same, ih later⟩

theorem before_append_left (s : List UInt8) {as bs : List UInt8} (h : Before as bs) :
    Before (s ++ as) (s ++ bs) := by
  induction s with
  | nil => exact h
  | cons b s ih => exact .inr ⟨rfl, ih⟩

/-- The byte that carries the last digit of a number to the base 64. -/
def tailByte (n : Nat) : UInt8 := .ofNat (n % 64 + 128)

theorem ofNat_lt_ofNat {m n : Nat} (bound : n < 256) (h : m < n) :
    UInt8.ofNat m < UInt8.ofNat n := by
  rw [UInt8.lt_iff_toNat_lt, UInt8.toNat_ofNat', UInt8.toNat_ofNat']
  omega

theorem before_head {m n : Nat} (bound : n < 256) (h : m < n) (as bs : List UInt8) :
    Before (.ofNat m :: as) (.ofNat n :: bs) := .inl (ofNat_lt_ofNat bound h)

/-- What is in order by the quotients is in order by the numbers when the last digits follow. -/
theorem before_tail (lead : Nat → List UInt8) {m n : Nat} (h : m < n)
    (less : m / 64 < n / 64 → Before (lead (m / 64)) (lead (n / 64))) :
    Before (lead (m / 64) ++ [tailByte m]) (lead (n / 64) ++ [tailByte n]) := by
  rcases Nat.lt_or_ge (m / 64) (n / 64) with quotients | quotients
  · exact (less quotients).append _ _
  · have equal : m / 64 = n / 64 := by omega
    rw [equal]
    exact before_append_left _ (before_head (by omega) (by omega) [] [])

theorem quotient₂ (n : Nat) : n / 4096 = n / 64 / 64 := by omega

theorem quotient₃ (n : Nat) : n / 262144 = n / 64 / 64 / 64 := by omega

theorem before_of_lt {c d : Char} (h : c < d) :
    Before (String.utf8EncodeChar c) (String.utf8EncodeChar d) := by
  have less : c.val.toNat < d.val.toNat := h
  have bound : d.val.toNat < 0x110000 := by
    have valid := d.valid
    simp only [UInt32.isValidChar, Nat.isValidChar] at valid
    omega
  simp only [String.utf8EncodeChar]
  generalize c.val.toNat = m at less
  generalize d.val.toNat = n at less bound
  rw [quotient₂ m, quotient₂ n, quotient₃ m, quotient₃ n]
  let two (q : Nat) : List UInt8 := [.ofNat (q % 32 + 192)]
  let three (q : Nat) : List UInt8 := [.ofNat (q / 64 % 16 + 224)] ++ [tailByte q]
  let four (q : Nat) : List UInt8 :=
    [.ofNat (q / 64 / 64 % 8 + 240)] ++ [tailByte (q / 64)] ++ [tailByte q]
  split_ifs
  any_goals omega
  -- Of two characters with as many bytes the digits decide, else the first byte does.
  · exact before_head (by omega) less _ _
  · exact before_head (by omega) (by omega) _ _
  · exact before_head (by omega) (by omega) _ _
  · exact before_head (by omega) (by omega) _ _
  · exact before_tail two less fun _ => before_head (by omega) (by omega) _ _
  · exact before_head (by omega) (by omega) _ _
  · exact before_head (by omega) (by omega) _ _
  · refine before_tail three less fun less => ?_
    exact before_tail (fun q => [.ofNat (q % 16 + 224)]) less fun _ =>
      before_head (by omega) (by omega) _ _
  · exact before_head (by omega) (by omega) _ _
  · refine before_tail four less fun less => ?_
    refine before_tail (fun q => [.ofNat (q / 64 % 8 + 240)] ++ [tailByte q]) less fun less => ?_
    exact before_tail (fun q => [.ofNat (q % 8 + 240)]) less fun _ =>
      before_head (by omega) (by omega) _ _

theorem append_lt_append (s : List UInt8) {t u : List UInt8} (h : t < u) : s ++ t < s ++ u := by
  induction s with
  | nil => exact h
  | cons b s ih => exact List.cons_lt_cons_iff.mpr (.inr ⟨rfl, ih⟩)

theorem encode_lt_encode {s t : List Char} (h : s < t) : encode s < encode t := by
  induction s generalizing t with
  | nil =>
    cases t with
    | nil => exact absurd h (List.lt_irrefl [])
    | cons d t =>
      rcases first : String.utf8EncodeChar d with _ | ⟨b, bs⟩
      · exact absurd first String.utf8EncodeChar_ne_nil
      · rw [encode, encode, List.flatMap_nil, List.flatMap_cons, first]
        exact List.nil_lt_cons b _
  | cons c s ih =>
    cases t with
    | nil => exact absurd h (List.not_lt_nil _)
    | cons d t =>
      rw [encode, encode, List.flatMap_cons, List.flatMap_cons]
      rcases List.cons_lt_cons_iff.mp h with less | ⟨rfl, later⟩
      · exact ((before_of_lt less).append _ _).lt
      · exact append_lt_append _ (ih later)

theorem bytes_lt_bytes {s t : String} (h : s < t) : bytes s < bytes t :=
  encode_lt_encode h

end WebCrawl.Utf8
