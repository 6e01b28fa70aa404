/-!
# Dictionaries

A dictionary is a list of bindings with strictly increasing keys, so two dictionaries with the same
bindings are equal and every listing of one is in key order. Strings are compared by code point.
The main statement is `get?_insert`: the last write to a key wins and no other key is touched.
-/

namespace WebCrawl

universe u

/-- Puts a binding into a list with increasing keys, over an older one of the same key. -/
def insertBinding {α : Type u} (key : String) (value : α) : List (String × α) → List (String × α)
  | [] => [(key, value)]
  | (k, v) :: rest =>
    if key < k then (key, value) :: (k, v) :: rest
    else if key = k then (key, value) :: rest
    else (k, v) :: insertBinding key value rest

theorem fst_mem_insertBinding {α : Type u} {key : String} {value : α} {xs : List (String × α)}
    {b : String × α} (h : b ∈ insertBinding key value xs) : b.1 = key ∨ b ∈ xs := by
  induction xs with
  | nil => simp [insertBinding] at h; simp [h]
  | cons x xs ih =>
    obtain ⟨k, v⟩ := x
    unfold insertBinding at h
    split at h
    · rcases List.mem_cons.mp h with rfl | h
      · exact Or.inl rfl
      · exact Or.inr h
    · split at h
      · rcases List.mem_cons.mp h with rfl | h
        · exact Or.inl rfl
        · exact Or.inr (List.mem_cons_of_mem _ h)
      · rcases List.mem_cons.mp h with rfl | h
        · exact Or.inr List.mem_cons_self
        · exact (ih h).imp id (List.mem_cons_of_mem _)

theorem insertBinding_pairwise {α : Type u} (key : String) (value : α) {xs : List (String × α)}
    (h : xs.Pairwise fun a b => a.1 < b.1) :
    (insertBinding key value xs).Pairwise fun a b => a.1 < b.1 := by
  induction xs with
  | nil => simp [insertBinding]
  | cons x xs ih =>
    obtain ⟨k, v⟩ := x
    obtain ⟨hk, hxs⟩ := List.pairwise_cons.mp h
    unfold insertBinding
    split
    · rename_i hlt
      refine List.pairwise_cons.mpr ⟨?_, h⟩
      intro b hb
      rcases List.mem_cons.mp hb with rfl | hb
      · exact hlt
      · exact String.lt_trans hlt (hk b hb)
    · split
      · rename_i heq
        subst heq
        exact List.pairwise_cons.mpr ⟨hk, hxs⟩
      · rename_i hnlt hne
        refine List.pairwise_cons.mpr ⟨?_, ih hxs⟩
        intro b hb
        rcases fst_mem_insertBinding hb with hb | hb
        · rw [hb]
          exact Std.lt_of_le_of_ne (String.not_lt.mp hnlt) (Ne.symm hne)
        · exact hk b hb

structure Dict (α : Type u) where
  entries : List (String × α)
  ascending : entries.Pairwise fun a b => a.1 < b.1

namespace Dict

variable {α : Type u}

def empty : Dict α := ⟨[], .nil⟩

instance : Inhabited (Dict α) := ⟨empty⟩

def insert (d : Dict α) (key : String) (value : α) : Dict α :=
  ⟨insertBinding key value d.entries, insertBinding_pairwise key value d.ascending⟩

/-- The bindings in order, later ones over earlier ones. -/
def ofPairs (pairs : List (String × α)) : Dict α :=
  pairs.foldl (fun d p => d.insert p.1 p.2) empty

def get? (d : Dict α) (key : String) : Option α :=
  (d.entries.find? fun b => b.1 == key).map Prod.snd

def contains (d : Dict α) (key : String) : Bool := d.entries.any fun b => b.1 == key

def size (d : Dict α) : Nat := d.entries.length

def isEmpty (d : Dict α) : Bool := d.entries.isEmpty

def keys (d : Dict α) : List String := d.entries.map Prod.fst

instance [BEq α] : BEq (Dict α) := ⟨fun a b => a.entries == b.entries⟩

theorem find?_insertBinding (key : String) (value : α) (other : String)
    (xs : List (String × α)) :
    (insertBinding key value xs).find? (fun b => b.1 == other) =
      if key = other then some (key, value) else xs.find? (fun b => b.1 == other) := by
  induction xs with
  | nil =>
    by_cases h : key = other <;> simp [insertBinding, h]
  | cons x xs ih =>
    obtain ⟨k, v⟩ := x
    unfold insertBinding
    split
    · by_cases h : key = other <;> simp [List.find?_cons, h]
    · split
      · rename_i heq
        by_cases h : key = other <;> simp_all
      · rename_i hne
        by_cases h : key = other
        · subst h
          simp [Ne.symm hne, ih]
        · by_cases hk : k = other <;> simp [hk, h, ih]

theorem get?_insert (d : Dict α) (key : String) (value : α) (other : String) :
    (d.insert key value).get? other = if key = other then some value else d.get? other := by
  unfold get? insert
  simp only [find?_insertBinding]
  split <;> simp

end Dict

end WebCrawl
