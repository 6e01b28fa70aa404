import WebCrawl.Dict

/-!
# Listings of dictionaries

What a dictionary says under its keys determines it, and with it the listing in key order, from
whatever listing that order is made. The dictionary of some bindings says the last one of each key.
-/

namespace WebCrawl.Dict

universe u

variable {α : Type u}

theorem eq_of_mem_iff {xs ys : List (String × α)} (hx : xs.Pairwise fun a b => a.1 < b.1)
    (hy : ys.Pairwise fun a b => a.1 < b.1) (same : ∀ b, b ∈ xs ↔ b ∈ ys) : xs = ys := by
  have nodup : ∀ {zs : List (String × α)}, zs.Pairwise (fun a b => a.1 < b.1) → zs.Nodup := by
    intro zs ascending
    refine List.Pairwise.imp (fun {a b} less equal => ?_) ascending
    exact String.lt_irrefl b.1 (by rwa [equal] at less)
  refine List.Perm.eq_of_pairwise (fun a b _ _ less greater => ?_) hx hy
    ((List.perm_ext_iff_of_nodup (nodup hx) (nodup hy)).mpr same)
  exact absurd (String.lt_trans less greater) (String.lt_irrefl _)

theorem mem_iff_find? {xs : List (String × α)} (ascending : xs.Pairwise fun a b => a.1 < b.1)
    {key : String} {value : α} :
    (key, value) ∈ xs ↔ (xs.find? fun b => b.1 == key).map Prod.snd = some value := by
  induction xs with
  | nil => simp
  | cons b rest ih =>
    obtain ⟨k, v⟩ := b
    obtain ⟨less, later⟩ := List.pairwise_cons.mp ascending
    rw [List.mem_cons, ih later, List.find?_cons]
    by_cases here : k = key
    · subst here
      have none : rest.find? (fun b => b.1 == k) = none :=
        List.find?_eq_none.mpr fun b mem equal =>
          String.lt_irrefl k (by simpa [eq_of_beq equal] using less b mem)
      simp [none, eq_comm]
    · have miss : (k == key) = false := beq_false_of_ne here
      simp [miss, Ne.symm here]

theorem mem_entries_iff {d : Dict α} {key : String} {value : α} :
    (key, value) ∈ d.entries ↔ d.get? key = some value :=
  mem_iff_find? d.ascending

/-- The order of bindings by their keys. -/
def byKey (a b : String × α) : Bool := decide (a.1 ≤ b.1)

theorem byKey_trans (a b c : String × α) (ab : byKey a b = true) (bc : byKey b c = true) :
    byKey a c = true :=
  decide_eq_true (String.le_trans (of_decide_eq_true ab) (of_decide_eq_true bc))

theorem byKey_total (a b : String × α) : (byKey a b || byKey b a) = true := by
  simpa [byKey] using String.le_total a.1 b.1

theorem mergeSort_eq_entries (d : Dict α) {listing : List (String × α)}
    (once : (listing.map Prod.fst).Nodup)
    (same : ∀ key value, (key, value) ∈ listing ↔ d.get? key = some value) :
    listing.mergeSort byKey = d.entries := by
  have perm := List.mergeSort_perm listing byKey
  have sorted := List.pairwise_mergeSort byKey_trans byKey_total listing
  have keys : (listing.mergeSort byKey).Pairwise fun a b => a.1 ≠ b.1 :=
    List.pairwise_map.mp ((perm.map Prod.fst).nodup_iff.mpr once)
  refine eq_of_mem_iff ((sorted.and keys).imp fun h => ?_) d.ascending fun b => ?_
  · exact Std.lt_of_le_of_ne (of_decide_eq_true h.1) h.2
  · rw [perm.mem_iff, same, mem_entries_iff]

/-- The value that was written last under a key. -/
def lastWritten (pairs : List (String × α)) (key : String) : Option α :=
  (pairs.reverse.find? fun p => p.1 == key).map Prod.snd

theorem get?_ofPairs (pairs : List (String × α)) (key : String) :
    (ofPairs pairs).get? key = lastWritten pairs key := by
  rw [ofPairs, ← List.foldr_reverse, lastWritten]
  induction pairs.reverse with
  | nil => rfl
  | cons p earlier ih =>
    rw [List.foldr_cons, get?_insert, ih, List.find?_cons]
    by_cases here : p.1 = key
    · simp [here]
    · have miss : (p.1 == key) = false := beq_false_of_ne here
      simp [miss, here]

end WebCrawl.Dict
