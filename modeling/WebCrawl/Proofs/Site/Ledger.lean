import Mathlib.Algebra.BigOperators.Group.List.Basic
import Mathlib.Algebra.Order.BigOperators.Group.List
import Mathlib.Algebra.Order.Group.Multiset
import Mathlib.Tactic.Abel
import WebCrawl.Crawl.Journal
import WebCrawl.Proofs.Site.Conduct
import WebCrawl.Proofs.Statistics.Counting

/-!
# The ledger of a crawl

What a crawl does and counts is written down as a multiset of marks. A request that is under way
owes the marks that are still to come, the discovered requests included, and a fingerprint owes the
failures that are still to come. What is done and what is owed always add up to what the
fingerprints seen so far come to altogether. At the end nothing is owed, so that the fingerprints
settle what was done, whatever the order.
-/

namespace WebCrawl

/-- Something that was done about a fingerprint, or was counted. -/
inductive Mark where
  | offered (u : String)
  | polled (u : String)
  | failed (u : String)
  | fetched (u : String)
  | dropped
  | page (subject : String) (fields : Dict Json)
  | shown (stage : Nat) (subject : String) (verdict : Bool)
  | completed
  | counted (c : Count)

namespace Mark

def offered? : Mark → Option String
  | offered u => some u
  | _ => none

def fetched? : Mark → Option String
  | fetched u => some u
  | _ => none

def counted? : Mark → Option Count
  | counted c => some c
  | _ => none

end Mark

def Deed.mark? : Deed → Option Mark
  | pushed r _ => some (.offered r.fingerprint)
  | polled r => some (.polled r.fingerprint)
  | downloaded _ r (.ok _) => some (.fetched r.fingerprint)
  | downloaded _ r (.error _) => some (.failed r.fingerprint)
  | processed _ _ c => some (.page c.request.fingerprint c.fields)
  | piped k c verdict => some (.shown k c.request.fingerprint verdict)
  | completed _ => some .completed
  | dropped _ => some .dropped
  | _ => none

namespace Conduct

variable (b : Conduct)

/-- What a download that fails leaves. -/
def attempt (u : String) : Multiset Mark :=
  {.polled u, .failed u, .counted .started, .counted .failed}

/-- What an offer of a fingerprint seen before leaves. -/
def offer (v : String) : Multiset Mark := {.offered v, .counted .rejected}

def offers (us : List String) : Multiset Mark := (us.map offer).sum

/-- What the pipelines leave, from the one with the index `k` and with `n` of them to come. -/
def shows (u : String) : Nat → Nat → Multiset Mark
  | _, 0 => 0
  | k, n + 1 =>
    .shown k (b.subject u) (b.passes k u) ::ₘ
      if b.passes k u then shows u (k + 1) n else {.counted .shortCircuit}

def finishing : Multiset Mark := {.completed, .counted .processed}

/-- What a response to a request leaves once it has been counted. -/
def handling (u : String) : Multiset Mark :=
  match b.processor u with
  | none => {.dropped, .counted .unprocessed}
  | some _ =>
    .page (b.subject u) (b.fields u) ::ₘ
      (offers (b.links u) + (b.shows u 0 b.stages + finishing))

def reply (u : String) : Multiset Mark :=
  .counted .succeeded ::ₘ .counted (.status (b.status u)) ::ₘ b.handling u

/-- What a request leaves after it was polled for the last time. -/
def serving (u : String) : Multiset Mark :=
  match b.downloader u with
  | none => {.counted .unsupported}
  | some _ => .counted .started ::ₘ .fetched u ::ₘ b.reply u

/-- What a pending request leaves, apart from the failures. -/
def full (u : String) : Multiset Mark := .polled u ::ₘ b.serving u

def due (left : String → Nat) (u : String) : Multiset Mark :=
  if (b.downloader u).isSome then left u • attempt u else 0

/-- What a fingerprint leaves altogether; its first offer is accepted, so one rejection less. -/
def whole (u : String) : Multiset Mark := b.full u + b.due b.failures u + {.counted .admitted}

/-- What is left over for a fingerprint seen, besides what the requests under way owe. -/
def arrears (left : String → Nat) (u : String) : Multiset Mark :=
  b.due left u + {.counted .rejected}

variable {b} {u v : String}

theorem serving_of_unsupported (h : b.downloader u = none) :
    b.serving u = {.counted .unsupported} := by
  simp only [serving, h]

theorem serving_of_supported (h : (b.downloader u).isSome = true) :
    b.serving u = .counted .started ::ₘ .fetched u ::ₘ b.reply u := by
  obtain ⟨k, hk⟩ := Option.isSome_iff_exists.mp h
  simp only [serving, hk]

theorem handling_of_dropped (h : b.processor u = none) :
    b.handling u = {.dropped, .counted .unprocessed} := by
  simp only [handling, h]

theorem handling_of_processed (h : (b.processor u).isSome = true) :
    b.handling u = .page (b.subject u) (b.fields u) ::ₘ
      (offers (b.links u) + (b.shows u 0 b.stages + finishing)) := by
  obtain ⟨k, hk⟩ := Option.isSome_iff_exists.mp h
  simp only [handling, hk]

theorem shows_of_lt (u : String) {k : Nat} (h : k < b.stages) :
    b.shows u k (b.stages - k) = .shown k (b.subject u) (b.passes k u) ::ₘ
      if b.passes k u then b.shows u (k + 1) (b.stages - (k + 1))
        else {.counted .shortCircuit} := by
  obtain ⟨n, hn⟩ : ∃ n, b.stages - k = n + 1 := ⟨b.stages - k - 1, by omega⟩
  have rest : b.stages - (k + 1) = n := by omega
  rw [hn, rest, shows]

theorem offers_cons (v : String) (us : List String) : offers (v :: us) = offer v + offers us :=
  List.sum_cons

/-- What is discovered on a page, if it is fetched and processed. -/
def discoveries (b : Conduct) (u : String) : List String :=
  if (b.downloader u).isSome && (b.processor u).isSome then b.links u else []

theorem Reachable.of_discoveries {seeds : List String} (page : b.Reachable seeds u)
    (h : v ∈ b.discoveries u) : b.Reachable seeds v := by
  unfold discoveries at h
  split at h
  · rename_i both
    obtain ⟨supported, processed⟩ := Bool.and_eq_true_iff.mp both
    exact .link page supported processed h
  · cases h

theorem filterMap_singleton {α β : Type} (f : α → Option β) (a : α) :
    ({a} : Multiset α).filterMap f = ((f a).map singleton).getD 0 := by
  rw [← Multiset.cons_zero, Multiset.filterMap_cons, Multiset.filterMap_zero, add_zero]

theorem offered_offers (us : List String) : (offers us).filterMap Mark.offered? = us := by
  induction us with
  | nil => rfl
  | cons v us ih =>
    rw [offers_cons, Multiset.filterMap_add, ih]
    rfl

theorem filterMap_offers {α : Type} {f : Mark → Option α} (offered : ∀ v, f (.offered v) = none)
    (counts : ∀ c, f (.counted c) = none) (us : List String) : (offers us).filterMap f = 0 := by
  induction us with
  | nil => rfl
  | cons v us ih =>
    rw [offers_cons, Multiset.filterMap_add, ih, offer, Multiset.insert_eq_cons,
      Multiset.filterMap_cons_none _ _ (offered v), ← Multiset.cons_zero,
      Multiset.filterMap_cons_none _ _ (counts _), Multiset.filterMap_zero, add_zero]

theorem filterMap_shows {α : Type} {f : Mark → Option α}
    (shown : ∀ k subject verdict, f (.shown k subject verdict) = none)
    (counts : ∀ c, f (.counted c) = none) (u : String) (k n : Nat) :
    (b.shows u k n).filterMap f = 0 := by
  induction n generalizing k with
  | zero => rfl
  | succ n ih =>
    rw [shows, Multiset.filterMap_cons_none _ _ (shown _ _ _)]
    split
    · exact ih (k + 1)
    · rw [← Multiset.cons_zero, Multiset.filterMap_cons_none _ _ (counts _),
        Multiset.filterMap_zero]

theorem offered_full (u : String) :
    (b.full u).filterMap Mark.offered? = (b.discoveries u : Multiset String) := by
  unfold full serving discoveries reply handling
  cases b.downloader u with
  | none => rfl
  | some k =>
    cases b.processor u with
    | none => rfl
    | some j =>
      have shown := b.filterMap_shows (f := Mark.offered?) (fun _ _ _ => rfl) (fun _ => rfl) u 0
      simp [Multiset.filterMap_cons, Multiset.filterMap_add, offered_offers, shown, Mark.offered?,
        finishing, filterMap_singleton, Multiset.insert_eq_cons]

theorem fetched_full (u : String) : (b.full u).filterMap Mark.fetched? =
    if (b.downloader u).isSome then {u} else 0 := by
  unfold full serving reply handling
  cases b.downloader u with
  | none => rfl
  | some k =>
    cases b.processor u with
    | none => rfl
    | some j =>
      have shown := b.filterMap_shows (f := Mark.fetched?) (fun _ _ _ => rfl) (fun _ => rfl) u 0
      have offered := filterMap_offers (f := Mark.fetched?) (fun _ => rfl) (fun _ => rfl)
      simp [Multiset.filterMap_cons, Multiset.filterMap_add, offered, shown, Mark.fetched?,
        finishing, filterMap_singleton, Multiset.insert_eq_cons]

theorem mem_filterMap_cons {α β : Type} {f : α → Option β} {a : α} {s : Multiset α} {y : β} :
    y ∈ (a ::ₘ s).filterMap f ↔ f a = some y ∨ y ∈ s.filterMap f := by
  simp [Multiset.mem_filterMap]

theorem offered_offer (v : String) : (offer v).filterMap Mark.offered? = {v} := rfl

theorem fetched_offer (v : String) : (offer v).filterMap Mark.fetched? = 0 := rfl

theorem filterMap_nsmul {α β : Type} (f : α → Option β) (n : Nat) (s : Multiset α) :
    (n • s).filterMap f = n • s.filterMap f := by
  induction n with
  | zero => rw [zero_nsmul, zero_nsmul, Multiset.filterMap_zero]
  | succ n ih => rw [succ_nsmul, succ_nsmul, Multiset.filterMap_add, ih]

theorem filterMap_due {f : Mark → Option String} (hf : ∀ u, (attempt u).filterMap f = 0)
    (left : String → Nat) (u : String) : (b.due left u).filterMap f = 0 := by
  unfold due
  split
  · rw [filterMap_nsmul, hf, nsmul_zero]
  · exact Multiset.filterMap_zero f

theorem filterMap_sum {α β : Type} (f : α → Option β) (l : List (Multiset α)) :
    l.sum.filterMap f = (l.map (Multiset.filterMap f)).sum := by
  induction l with
  | nil => exact Multiset.filterMap_zero f
  | cons s l ih => rw [List.sum_cons, Multiset.filterMap_add, ih, List.map_cons, List.sum_cons]

end Conduct

/-- The marks `M` that were left and the marks `D` that requests under way still owe, at a moment
when these fingerprints have been seen and so many failures are left. -/
structure Books (b : Conduct) (seeds seen : List String) (left : String → Nat)
    (M D : Multiset Mark) : Prop where
  nodup : seen.Nodup
  balance : M + D + (seen.map (b.arrears left)).sum =
    Conduct.offers seeds + (seen.map b.whole).sum
  offered : ∀ u, u ∈ seen ↔ u ∈ M.filterMap Mark.offered?
  /-- As long as failures are left, the request is still under way. -/
  wanted : ∀ u ∈ seen, (b.downloader u).isSome = true → left u ≠ 0 →
    u ∈ D.filterMap Mark.fetched?
  fresh : ∀ u, u ∉ seen → left u = b.failures u
  reachable : ∀ u ∈ seen, b.Reachable seeds u

namespace Books

variable {b : Conduct} {seeds seen : List String} {left : String → Nat} {M D : Multiset Mark}

theorem opening (b : Conduct) (seeds : List String) :
    Books b seeds [] b.failures 0 (Conduct.offers seeds) where
  nodup := List.nodup_nil
  balance := by simp
  offered := by simp
  wanted := by simp
  fresh := by simp
  reachable := by simp

theorem balance_of (h : Books b seeds seen left M D) {f : Mark → Option String}
    (failures : ∀ u, (Conduct.attempt u).filterMap f = 0) (counts : ∀ c, f (.counted c) = none) :
    M.filterMap f + D.filterMap f =
      (Conduct.offers seeds).filterMap f + (seen.map fun u => (b.full u).filterMap f).sum := by
  have arrears : ∀ u, (b.arrears left u).filterMap f = 0 := by
    intro u
    rw [Conduct.arrears, Multiset.filterMap_add, Conduct.filterMap_due failures,
      Conduct.filterMap_singleton, counts]
    rfl
  have whole : ∀ u, (b.whole u).filterMap f = (b.full u).filterMap f := by
    intro u
    rw [Conduct.whole, Multiset.filterMap_add, Multiset.filterMap_add,
      Conduct.filterMap_due failures, Conduct.filterMap_singleton, counts]
    exact (add_zero _).trans (add_zero _)
  have nothing : (seen.map fun _ => (0 : Multiset String)).sum = 0 := by
    rw [List.map_const', List.sum_replicate, nsmul_zero]
  have balance := congrArg (Multiset.filterMap f) h.balance
  simp only [Multiset.filterMap_add, Conduct.filterMap_sum, List.map_map, Function.comp_def,
    arrears, whole, nothing, add_zero] at balance
  exact balance

theorem mem_sum_map {α β : Type} {g : α → Multiset β} {l : List α} {y : β} :
    y ∈ (l.map g).sum ↔ ∃ x ∈ l, y ∈ g x := by
  induction l with
  | nil => simp
  | cons x l ih => simp [ih]

theorem offered_iff (h : Books b seeds seen left M D) (v : String) :
    (v ∈ M.filterMap Mark.offered? ∨ v ∈ D.filterMap Mark.offered?) ↔
      v ∈ seeds ∨ ∃ u ∈ seen, v ∈ b.discoveries u := by
  have balance := h.balance_of (f := Mark.offered?) (fun u => rfl) (fun c => rfl)
  rw [← Multiset.mem_add, balance, Multiset.mem_add, mem_sum_map, Conduct.offered_offers]
  simp only [Conduct.offered_full, Multiset.mem_coe]

theorem sum_fetched (b : Conduct) (us : List String) :
    (us.map fun u => (b.full u).filterMap Mark.fetched?).sum =
      (us.filter fun u => (b.downloader u).isSome : List String) := by
  induction us with
  | nil => rfl
  | cons u us ih =>
    rw [List.map_cons, List.sum_cons, ih, Conduct.fetched_full, List.filter_cons]
    split
    · rfl
    · exact zero_add _

theorem fetched_balance (h : Books b seeds seen left M D) :
    M.filterMap Mark.fetched? + D.filterMap Mark.fetched? =
      (seen.filter fun u => (b.downloader u).isSome : List String) := by
  have balance := h.balance_of (f := Mark.fetched?) (fun u => rfl) (fun c => rfl)
  rw [balance, Conduct.filterMap_offers (fun _ => rfl) (fun _ => rfl), zero_add, sum_fetched]

theorem seen_of_fetched (h : Books b seeds seen left M D) {u : String}
    (hu : u ∈ D.filterMap Mark.fetched?) : u ∈ seen := by
  have mem : u ∈ M.filterMap Mark.fetched? + D.filterMap Mark.fetched? :=
    Multiset.mem_add.mpr (.inr hu)
  rw [h.fetched_balance] at mem
  exact List.mem_of_mem_filter mem

/-- A mark that is owed is left; it is no offer, and a fetch only where no failure is left. -/
theorem pay {m : Mark} (h : Books b seeds seen left M (m ::ₘ D)) (no_offer : m.offered? = none)
    (no_failure : ∀ u, m.fetched? = some u → left u = 0) :
    Books b seeds seen left (m ::ₘ M) D where
  nodup := h.nodup
  balance := by
    rw [← h.balance, Multiset.cons_add, Multiset.add_cons]
  offered u := by
    rw [Multiset.filterMap_cons_none _ _ no_offer]
    exact h.offered u
  wanted u hu supported remains := by
    rcases Conduct.mem_filterMap_cons.mp (h.wanted u hu supported remains) with this | mem
    · exact absurd (no_failure u this) remains
    · exact mem
  fresh := h.fresh
  reachable := h.reachable

theorem repeat_offer {v : String} (h : Books b seeds seen left M (Conduct.offer v + D))
    (old : v ∈ seen) :
    Books b seeds seen left (.offered v ::ₘ .counted .rejected ::ₘ M) D where
  nodup := h.nodup
  balance := by
    rw [← h.balance, Conduct.offer, Multiset.insert_eq_cons]
    simp only [← Multiset.singleton_add]
    abel
  offered u := by
    rw [Conduct.mem_filterMap_cons, Multiset.filterMap_cons_none _ _ rfl, ← h.offered u]
    constructor
    · exact .inr
    · rintro (same | mem)
      · exact Option.some.inj same ▸ old
      · exact mem
  wanted u hu supported remains := by
    have mem := h.wanted u hu supported remains
    rwa [Multiset.filterMap_add, Conduct.fetched_offer, zero_add] at mem
  fresh := h.fresh
  reachable := h.reachable

theorem first_offer {v : String} (h : Books b seeds seen left M (Conduct.offer v + D))
    (new : v ∉ seen) : Books b seeds (v :: seen) left
      (.offered v ::ₘ .counted .admitted ::ₘ M) (b.full v + D) where
  nodup := List.nodup_cons.mpr ⟨new, h.nodup⟩
  balance := by
    have balance := h.balance
    have fresh : b.due left v = b.due b.failures v := by
      simp only [Conduct.due, h.fresh v new]
    rw [List.map_cons, List.map_cons, List.sum_cons, List.sum_cons,
      add_left_comm (Conduct.offers seeds), ← balance,
      Conduct.arrears, Conduct.whole, fresh, Conduct.offer, ← Multiset.singleton_add,
      ← Multiset.singleton_add, Multiset.insert_eq_cons, ← Multiset.singleton_add]
    abel
  offered u := by
    rw [Conduct.mem_filterMap_cons, Multiset.filterMap_cons_none _ _ rfl, ← h.offered u,
      List.mem_cons]
    exact or_congr_left ⟨fun h => h ▸ rfl, fun h => (Option.some.inj h).symm⟩
  wanted u hu supported remains := by
    rw [Multiset.filterMap_add, Multiset.mem_add]
    rcases List.mem_cons.mp hu with rfl | hu
    · left
      rw [Conduct.fetched_full, if_pos supported]
      exact Multiset.mem_singleton_self u
    · right
      have mem := h.wanted u hu supported remains
      rwa [Multiset.filterMap_add, Conduct.fetched_offer, zero_add] at mem
  fresh u hu := h.fresh u fun old => hu (List.mem_cons_of_mem v old)
  reachable u hu := by
    rcases List.mem_cons.mp hu with rfl | hu
    · have owed : u ∈ (Conduct.offer u + D).filterMap Mark.offered? := by
        rw [Multiset.filterMap_add, Conduct.offered_offer]
        exact Multiset.mem_add.mpr (.inl (Multiset.mem_singleton_self u))
      rcases (h.offered_iff u).mp (.inr owed) with seed | ⟨page, hpage, link⟩
      · exact .seed seed
      · exact (h.reachable page hpage).of_discoveries link
    · exact h.reachable u hu

theorem sum_arrears_update {u : String} (nodup : seen.Nodup) (hu : u ∈ seen)
    (supported : (b.downloader u).isSome = true) (remains : left u ≠ 0) :
    (seen.map (b.arrears left)).sum = Conduct.attempt u +
      (seen.map (b.arrears (Function.update left u (left u - 1)))).sum := by
  -- Only the summand of `u` changes, so it is brought to the front.
  have front : seen.Perm (u :: seen.erase u) := List.perm_cons_erase hu
  have others : (seen.erase u).map (b.arrears (Function.update left u (left u - 1))) =
      (seen.erase u).map (b.arrears left) := by
    apply List.map_congr_left
    intro v hv
    have ne : v ≠ u := fun same => nodup.not_mem_erase (same ▸ hv)
    simp only [Conduct.arrears, Conduct.due, Function.update_of_ne ne]
  obtain ⟨n, hn⟩ := Nat.exists_eq_succ_of_ne_zero remains
  rw [(front.map _).sum_eq, (front.map (b.arrears (Function.update _ _ _))).sum_eq, List.map_cons,
    List.map_cons, List.sum_cons, List.sum_cons, others]
  simp only [Conduct.arrears, Conduct.due, if_pos supported, Function.update_self, hn,
    Nat.succ_sub_one, succ_nsmul]
  abel

theorem fail {u : String} (h : Books b seeds seen left M D)
    (under_way : u ∈ D.filterMap Mark.fetched?) (remains : left u ≠ 0) :
    Books b seeds seen (Function.update left u (left u - 1)) M (Conduct.attempt u + D) := by
  have hu : u ∈ seen := h.seen_of_fetched under_way
  have supported : (b.downloader u).isSome = true := by
    have mem : u ∈ M.filterMap Mark.fetched? + D.filterMap Mark.fetched? :=
      Multiset.mem_add.mpr (.inr under_way)
    rw [h.fetched_balance] at mem
    exact (List.mem_filter.mp mem).2
  refine ⟨h.nodup, ?_, h.offered, ?_, ?_, h.reachable⟩
  · rw [← h.balance, sum_arrears_update h.nodup hu supported remains]
    abel
  · intro v hv supported' remains'
    rw [Multiset.filterMap_add, Multiset.mem_add]
    right
    by_cases same : v = u
    · exact same ▸ under_way
    · rw [Function.update_of_ne same] at remains'
      exact h.wanted v hv supported' remains'
  · intro v hv
    have ne : v ≠ u := fun same => hv (same ▸ hu)
    rw [Function.update_of_ne ne]
    exact h.fresh v hv

theorem due_eq_zero (h : Books b seeds seen left M 0) {u : String} (hu : u ∈ seen) :
    b.due left u = 0 := by
  unfold Conduct.due
  split
  · rename_i supported
    by_cases none_left : left u = 0
    · rw [none_left, zero_nsmul]
    · exact absurd (h.wanted u hu supported none_left) (Multiset.notMem_zero u)
  · rfl

theorem closing_balance (h : Books b seeds seen left M 0) :
    M + (seen.map fun _ => ({.counted .rejected} : Multiset Mark)).sum =
      Conduct.offers seeds + (seen.map b.whole).sum := by
  have arrears : seen.map (b.arrears left) = seen.map fun _ => {.counted .rejected} := by
    apply List.map_congr_left
    intro u hu
    rw [Conduct.arrears, h.due_eq_zero hu, zero_add]
  rw [← h.balance, arrears, add_zero]

theorem mem_seen_iff (h : Books b seeds seen left M 0) (u : String) :
    u ∈ seen ↔ b.Reachable seeds u := by
  refine ⟨h.reachable u, ?_⟩
  have closed : ∀ v, (v ∈ seeds ∨ ∃ u ∈ seen, v ∈ b.discoveries u) → v ∈ seen := by
    intro v hv
    rcases (h.offered_iff v).mpr hv with done | owed
    · exact (h.offered v).mpr done
    · cases Multiset.notMem_zero v owed
  intro reachable
  induction reachable with
  | seed hu => exact closed _ (.inl hu)
  | @link u v _ supported processed hv ih =>
    refine closed v (.inr ⟨u, ih, ?_⟩)
    simp only [Conduct.discoveries, supported, processed, Bool.and_self, if_true]
    exact hv

theorem marks_unique {seen' : List String} {left' : String → Nat} {M' : Multiset Mark}
    (h : Books b seeds seen left M 0) (h' : Books b seeds seen' left' M' 0) : M = M' := by
  have same : seen.Perm seen' := (List.perm_ext_iff_of_nodup h.nodup h'.nodup).mpr fun u =>
    (h.mem_seen_iff u).trans (h'.mem_seen_iff u).symm
  have balance := h.closing_balance
  rw [(same.map _).sum_eq, (same.map b.whole).sum_eq, ← h'.closing_balance] at balance
  exact add_right_cancel balance

theorem fetched_eq (h : Books b seeds seen left M 0) :
    M.filterMap Mark.fetched? =
      (seen.filter fun u => (b.downloader u).isSome : List String) := by
  rw [← h.fetched_balance, Multiset.filterMap_zero, add_zero]

theorem marks_le (h : Books b seeds seen left M D) {all : List String}
    (hall : ∀ u, b.Reachable seeds u → u ∈ all) :
    M ≤ Conduct.offers seeds + (all.map b.whole).sum := by
  have seen_le : (seen.map b.whole).sum ≤ (all.map b.whole).sum := by
    obtain ⟨part, same, sublist⟩ :=
      List.subperm_of_subset h.nodup fun u hu => hall u (h.reachable u hu)
    rw [(same.symm.map b.whole).sum_eq]
    exact (sublist.map b.whole).sum_le_sum fun _ _ => Multiset.zero_le _
  calc
    M ≤ M + D + (seen.map (b.arrears left)).sum :=
      (Multiset.le_add_right M D).trans (Multiset.le_add_right _ _)
    _ = Conduct.offers seeds + (seen.map b.whole).sum := h.balance
    _ ≤ Conduct.offers seeds + (all.map b.whole).sum := add_le_add_right seen_le _

end Books

end WebCrawl
