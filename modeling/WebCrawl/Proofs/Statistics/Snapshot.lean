import WebCrawl.Proofs.Crawl.Events
import WebCrawl.Statistics.Snapshot

/-!
# What a snapshot tells

A snapshot of statistics at rest is those statistics. While the crawl goes on, the histogram of a
snapshot is still no more than what was counted when its last shard was read, since every code is
counted in one shard only and no count is ever taken back.
-/

namespace WebCrawl

namespace Histogram

/-- How many statuses the entries count for the codes of a kind. -/
def weight (kind : UInt16 → Bool) : List (UInt16 × UInt64) → Nat
  | [] => 0
  | e :: entries => (if kind e.1 then e.2.toNat else 0) + weight kind entries

theorem weight_cons (kind : UInt16 → Bool) (e : UInt16 × UInt64)
    (entries : List (UInt16 × UInt64)) :
    weight kind (e :: entries) = (if kind e.1 then e.2.toNat else 0) + weight kind entries :=
  rfl

theorem weight_bump_le (kind : UInt16 → Bool) (code : UInt16)
    (entries : List (UInt16 × UInt64)) :
    weight kind (bump code 1 entries) ≤ weight kind entries + (kind code).toNat := by
  have one : (if kind code then (1 : UInt64).toNat else 0) = (kind code).toNat := by
    cases kind code <;> rfl
  induction entries with
  | nil =>
    rw [bump, weight_cons, one, Nat.add_comm]
  | cons e rest ih =>
    obtain ⟨c, n⟩ := e
    unfold bump
    split
    · rw [weight_cons, one]
      exact Nat.le_of_eq (Nat.add_comm _ _)
    · split
      · rename_i same
        subst same
        have next : (n + 1).toNat ≤ n.toNat + 1 := by
          rw [UInt64.toNat_add]
          exact Nat.mod_le _ _
        rw [weight_cons, weight_cons]
        cases kind code
        · simp
        · simp only [if_true, Bool.toNat_true]
          omega
      · rw [weight_cons, weight_cons]
        omega

theorem weight_append (kind : UInt16 → Bool) (xs ys : List (UInt16 × UInt64)) :
    weight kind (xs ++ ys) = weight kind xs + weight kind ys := by
  induction xs with
  | nil => exact (Nat.zero_add _).symm
  | cons e rest ih => rw [List.cons_append, weight_cons, weight_cons, ih, Nat.add_assoc]

theorem weight_of_perm (kind : UInt16 → Bool) {xs ys : List (UInt16 × UInt64)}
    (perm : xs.Perm ys) : weight kind xs = weight kind ys := by
  induction perm with
  | nil => rfl
  | cons e _ ih => rw [weight_cons, weight_cons, ih]
  | swap a b rest =>
    simp only [weight_cons]
    omega
  | trans _ _ first second => exact first.trans second

theorem toNat_total_le (h : Histogram) : h.total.toNat ≤ weight (fun _ => true) h.entries := by
  have sum (n : UInt64) : ∀ entries : List (UInt16 × UInt64),
      (entries.foldl (fun n e => n + e.2) n).toNat ≤ n.toNat + weight (fun _ => true) entries := by
    intro entries
    induction entries generalizing n with
    | nil => exact Nat.le_refl _
    | cons e rest ih =>
      have later := ih (n + e.2)
      have next : (n + e.2).toNat ≤ n.toNat + e.2.toNat := by
        rw [UInt64.toNat_add]
        exact Nat.mod_le _ _
      rw [List.foldl_cons, weight_cons, if_pos rfl]
      omega
  exact Nat.le_trans (sum 0 h.entries) (Nat.le_of_eq (Nat.zero_add _))

theorem weight_shard (h : Histogram) (place : UInt16 → Nat) (k : Nat) :
    weight (fun _ => true) (h.shard place k) =
      weight (fun code => decide (place code = k)) h.entries := by
  rw [shard]
  induction h.entries with
  | nil => rfl
  | cons e rest ih =>
    rw [List.filter_cons, weight_cons, ← ih]
    split
    · rw [weight_cons, if_pos rfl]
    · rw [Nat.zero_add]

theorem code_of_mem_bump {code : UInt16} {n : UInt64} {entries : List (UInt16 × UInt64)}
    {e : UInt16 × UInt64} (mem : e ∈ bump code n entries) :
    e.1 = code ∨ ∃ old ∈ entries, e.1 = old.1 := by
  induction entries with
  | nil => exact .inl (congrArg Prod.fst (List.mem_singleton.mp mem))
  | cons old rest ih => grind [bump]

theorem pairwise_bump (code : UInt16) (n : UInt64) {entries : List (UInt16 × UInt64)}
    (ascending : entries.Pairwise fun a b => a.1 < b.1) :
    (bump code n entries).Pairwise fun a b => a.1 < b.1 := by
  induction entries with
  | nil => exact List.pairwise_singleton _ _
  | cons old rest ih =>
    obtain ⟨c, k⟩ := old
    obtain ⟨first, later⟩ := List.pairwise_cons.mp ascending
    unfold bump
    split
    · rename_i less
      refine .cons (fun e mem => ?_) ascending
      rcases List.mem_cons.mp mem with rfl | mem
      · exact less
      · exact UInt16.lt_trans less (first e mem)
    · split
      · exact .cons first later
      · rename_i notLess differs
        refine .cons (fun e mem => ?_) (ih later)
        rcases code_of_mem_bump mem with same | ⟨_, mem, same⟩
        · rw [same]
          exact UInt16.lt_of_le_of_ne (UInt16.not_lt.mp notLess) (Ne.symm differs)
        · rw [same]
          exact first _ mem

theorem byCode_trans (a b c : UInt16 × UInt64) (ab : byCode a b = true) (bc : byCode b c = true) :
    byCode a c = true :=
  decide_eq_true (UInt16.le_trans (of_decide_eq_true ab) (of_decide_eq_true bc))

theorem byCode_total (a b : UInt16 × UInt64) : (byCode a b || byCode b a) = true := by
  simpa [byCode] using UInt16.le_total a.1 b.1

theorem mergeSort_eq {listing entries : List (UInt16 × UInt64)}
    (ascending : entries.Pairwise fun a b => a.1 < b.1) (perm : listing.Perm entries) :
    listing.mergeSort byCode = entries := by
  have whole := (List.mergeSort_perm listing byCode).trans perm
  have codes : (entries.map Prod.fst).Nodup :=
    List.pairwise_map.mpr (ascending.imp fun less => UInt16.ne_of_lt less)
  have apart : (listing.mergeSort byCode).Pairwise fun a b => a.1 ≠ b.1 :=
    List.pairwise_map.mp ((whole.map Prod.fst).nodup_iff.mpr codes)
  have sorted := (List.pairwise_mergeSort byCode_trans byCode_total listing).and apart
  refine whole.eq_of_pairwise (fun a b _ _ less greater => ?_)
    (sorted.imp fun h => UInt16.lt_of_le_of_ne (of_decide_eq_true h.1) h.2) ascending
  exact absurd (UInt16.lt_trans less greater) (UInt16.lt_irrefl _)

theorem perm_shards (h : Histogram) (place : UInt16 → Nat) (k : Nat) :
    ((List.range k).flatMap (h.shard place)).Perm
      (h.entries.filter fun e => place e.1 < k) := by
  induction k with
  | zero => simp
  | succ k ih =>
    have parts := List.filter_append_perm (fun e => decide (place e.1 < k))
      (h.entries.filter fun e => place e.1 < k + 1)
    have low : (h.entries.filter fun e => place e.1 < k + 1).filter (fun e => place e.1 < k) =
        h.entries.filter fun e => place e.1 < k := by
      rw [List.filter_filter]
      congr 1
      funext e
      by_cases less : place e.1 < k
      · simp [less, Nat.lt_succ_of_lt less]
      · simp [less]
    have last : (h.entries.filter fun e => place e.1 < k + 1).filter
        (fun e => !decide (place e.1 < k)) = h.shard place k := by
      rw [List.filter_filter, shard]
      congr 1
      funext e
      rw [Bool.eq_iff_iff, Bool.and_eq_true, Bool.not_eq_true', decide_eq_true_eq,
        decide_eq_true_eq, decide_eq_false_iff_not]
      omega
    rw [low, last] at parts
    rw [List.range_succ, List.flatMap_append, List.flatMap_singleton]
    exact (ih.append_right _).trans parts

end Histogram

namespace Count

def isStatus (kind : UInt16 → Bool) : Count → Bool
  | status code => kind code
  | _ => false

theorem countP_isStatus_lt_succ (place : UInt16 → Nat) (k : Nat) (counts : List Count) :
    counts.countP (isStatus fun code => place code < k + 1) =
      counts.countP (isStatus fun code => place code < k) +
        counts.countP (isStatus fun code => place code = k) := by
  induction counts with
  | nil => rfl
  | cons n rest ih =>
    have one : (n.isStatus fun code => place code < k + 1).toNat =
        (n.isStatus fun code => place code < k).toNat +
          (n.isStatus fun code => place code = k).toNat := by
      cases n with
      | status code =>
        rw [isStatus, isStatus, isStatus]
        rcases Nat.lt_trichotomy (place code) k with less | same | more
        · rw [decide_eq_true less, decide_eq_true (Nat.lt_succ_of_lt less),
            decide_eq_false (Nat.ne_of_lt less)]
          rfl
        · rw [same, decide_eq_true (Nat.lt_succ_self k), decide_eq_false (Nat.lt_irrefl k),
            decide_eq_true rfl]
          rfl
        · rw [decide_eq_false (Nat.not_lt_of_le (Nat.succ_le_of_lt more)),
            decide_eq_false (Nat.lt_asymm more), decide_eq_false (Nat.ne_of_gt more)]
          rfl
      | _ => rfl
    simp only [countP_cons_toNat]
    omega

end Count

namespace Statistics

theorem weight_counting_le (kind : UInt16 → Bool) (s : Statistics) (counts : List Count) :
    Histogram.weight kind (s.counting counts).statuses.entries ≤
      Histogram.weight kind s.statuses.entries + counts.countP (Count.isStatus kind) := by
  induction counts generalizing s with
  | nil => exact Nat.le_refl _
  | cons n rest ih =>
    have one : Histogram.weight kind (n.record s).statuses.entries ≤
        Histogram.weight kind s.statuses.entries + (n.isStatus kind).toNat := by
      cases n with
      | status code => exact Histogram.weight_bump_le kind code s.statuses.entries
      | _ => exact Nat.le_refl _
    have later := ih (n.record s)
    rw [countP_cons_toNat, counting, List.foldl_cons, ← counting]
    omega

theorem pairwise_counting {s : Statistics} (counts : List Count)
    (ascending : s.statuses.entries.Pairwise fun a b => a.1 < b.1) :
    (s.counting counts).statuses.entries.Pairwise fun a b => a.1 < b.1 := by
  induction counts generalizing s with
  | nil => exact ascending
  | cons n rest ih =>
    refine ih (s := n.record s) ?_
    cases n with
    | status code => exact Histogram.pairwise_bump code 1 ascending
    | _ => exact ascending

/-- While nothing is counted, a snapshot is exact. -/
theorem snapshot_at_rest {shards : Nat} {place : UInt16 → Nat}
    (placed : ∀ code, place code < shards) (counts : List Count) :
    snapshot shards place (fun _ => zero.counting counts) = zero.counting counts := by
  have ascending := pairwise_counting (s := zero) counts List.Pairwise.nil
  generalize zero.counting counts = s at ascending ⊢
  have all : s.statuses.entries.filter (fun e => decide (place e.1 < shards)) =
      s.statuses.entries := List.filter_eq_self.mpr fun e _ => decide_eq_true (placed e.1)
  have perm := s.statuses.perm_shards place shards
  rw [all] at perm
  have same : loadStatuses shards place (fun _ => s) = s.statuses :=
    congrArg Histogram.mk (Histogram.mergeSort_eq ascending perm)
  rw [snapshot, same]

variable {start : Statistics} {load : Nat → Statistics} {counts : Nat → List Count}

theorem weight_shards_le (empty : start.statuses = .empty)
    (counted : ∀ k, load k = start.counting (counts k))
    (grows : ∀ k, counts k <+: counts (k + 1)) (place : UInt16 → Nat) (k : Nat) :
    Histogram.weight (fun _ => true)
        ((List.range k).flatMap fun j => (load j).statuses.shard place j) ≤
      (counts k).countP (Count.isStatus fun code => place code < k) := by
  induction k with
  | zero => exact Nat.zero_le _
  | succ k ih =>
    have last : Histogram.weight (fun _ => true) ((load k).statuses.shard place k) ≤
        (counts k).countP (Count.isStatus fun code => place code = k) := by
      rw [Histogram.weight_shard, counted]
      refine Nat.le_trans (weight_counting_le _ _ _) (Nat.le_of_eq ?_)
      rw [empty]
      exact Nat.zero_add _
    have both := Count.countP_isStatus_lt_succ place k (counts k)
    have later : (counts k).countP (Count.isStatus fun code => place code < k + 1) ≤
        (counts (k + 1)).countP (Count.isStatus fun code => place code < k + 1) :=
      (grows k).sublist.countP_le
    rw [List.range_succ, List.flatMap_append, Histogram.weight_append, List.flatMap_singleton]
    omega

theorem total_loadStatuses_le (empty : start.statuses = .empty)
    (counted : ∀ k, load k = start.counting (counts k))
    (grows : ∀ k, counts k <+: counts (k + 1)) (shards : Nat) (place : UInt16 → Nat) :
    (loadStatuses shards place load).total.toNat ≤
      (counts shards).countP fun n => n.counter == .statuses := by
  have weight := weight_shards_le empty counted grows place shards
  have only : (counts shards).countP (Count.isStatus fun code => place code < shards) ≤
      (counts shards).countP fun n => n.counter == .statuses := by
    refine List.countP_mono_left fun n _ status => ?_
    cases n with
    | status code => rfl
    | _ => cases status
  refine Nat.le_trans (Histogram.toNat_total_le _) ?_
  rw [loadStatuses, Histogram.weight_of_perm _ (List.mergeSort_perm _ _)]
  exact Nat.le_trans weight only

end Statistics

end WebCrawl
