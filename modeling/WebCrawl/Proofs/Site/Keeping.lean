import WebCrawl.Frontier.Layered
import WebCrawl.Crawl.State
import WebCrawl.Proofs.Frontier.Listed
import WebCrawl.Proofs.Site.Ledger

/-!
# Keeping the ledger

Both engines work on one core: a frontier under an exact filter, the journal and the statistics.
Each thing they do with it pays what is owed or moves it between the frontier and their hands. Here
are these moves, one lemma for each, so that an engine only has to say what it has in hand.
-/

namespace WebCrawl

/-- A queue under one exact filter that has seen these fingerprints. -/
def exactly (seen : List String) (q : Queue) : Layered Queue :=
  ⟨[⟨.exact ⟨seen⟩, Request.fingerprint⟩], q⟩

section exactly

variable {seen : List String} {q : Queue} {r : Request}

theorem push_of_seen (h : r.fingerprint ∈ seen) :
    Frontier.push (exactly seen q) r = (.duplicate r.fingerprint, exactly seen q) := by
  have old : FilterLayer.isNew ⟨.exact ⟨seen⟩, Request.fingerprint⟩ r = false := by
    simp [FilterLayer.isNew, Filter.isNew, ExactFilter.isNew, h]
  exact Layered.push_wrap_of_seen (s := Layered.bare q) old

theorem push_of_unseen (h : r.fingerprint ∉ seen) :
    Frontier.push (exactly seen q) r =
      (.queued, exactly (r.fingerprint :: seen) (q.push r)) := by
  have new : FilterLayer.isNew ⟨.exact ⟨seen⟩, Request.fingerprint⟩ r = true := by
    simp [FilterLayer.isNew, Filter.isNew, ExactFilter.isNew, h]
  have recorded : FilterLayer.record ⟨.exact ⟨seen⟩, Request.fingerprint⟩ r =
      ⟨.exact ⟨r.fingerprint :: seen⟩, Request.fingerprint⟩ := by
    simp [FilterLayer.record, Filter.record, ExactFilter.record, ExactFilter.isNew, h]
  have pushed := Layered.push_wrap_of_new (s := Layered.bare q) new
  rw [recorded] at pushed
  exact pushed

theorem poll_exactly :
    Frontier.poll (exactly seen q) = (q.poll.1, exactly seen q.poll.2) := rfl

end exactly

/-- The marks `M` are those of the journal and of the statistics. -/
def Recorded {S : Type} (core : Core S) (M : Multiset Mark) : Prop :=
  ∃ counts, M = core.journal.deeds.filterMap Deed.mark? + counts.map Mark.counted ∧
    core.stats = Statistics.ofCounts counts

namespace Recorded

variable {S : Type} {core core' : Core S} {M : Multiset Mark}

theorem of_same (h : Recorded core M) (deeds : core'.journal.deeds = core.journal.deeds)
    (stats : core'.stats = core.stats) : Recorded core' M := by
  obtain ⟨counts, rfl, counted⟩ := h
  exact ⟨counts, by rw [deeds], stats.trans counted⟩

theorem enter {d : Deed} {m : Mark} (h : Recorded core M) (hm : d.mark? = some m) :
    Recorded (core.enter d) (m ::ₘ M) := by
  obtain ⟨counts, rfl, counted⟩ := h
  refine ⟨counts, ?_, counted⟩
  rw [Core.deeds_enter, List.filterMap_append, List.filterMap_cons_some hm, List.filterMap_nil,
    ← Multiset.coe_add, Multiset.coe_singleton, ← Multiset.singleton_add]
  abel

theorem enter_silent {d : Deed} (h : Recorded core M) (hd : d.mark? = none) :
    Recorded (core.enter d) M := by
  obtain ⟨counts, rfl, counted⟩ := h
  refine ⟨counts, ?_, counted⟩
  rw [Core.deeds_enter, List.filterMap_append, List.filterMap_cons_none hd, List.filterMap_nil,
    List.append_nil]

theorem tally (h : Recorded core M) (c : Count) :
    Recorded (core.tally c.record) (.counted c ::ₘ M) := by
  obtain ⟨counts, rfl, counted⟩ := h
  refine ⟨c ::ₘ counts, ?_, ?_⟩
  · rw [Multiset.map_cons, Multiset.add_cons]
    rfl
  · rw [Statistics.ofCounts_cons, ← counted]
    rfl

theorem push [Frontier S] (h : Recorded core M) (r : Request) :
    Recorded (core.push r).2 (.offered r.fingerprint ::ₘ
      .counted (if (core.push r).1.accepted then .admitted else .rejected) ::ₘ M) := by
  have entered := h.enter (show (Deed.pushed r (core.push r).1).mark? = _ from rfl)
  have tallied := entered.tally (if (core.push r).1.accepted then .admitted else .rejected)
  rw [Multiset.cons_swap]
  refine tallied.of_same ?_ ?_
  · rw [Core.deeds_tally, Core.deeds_enter, Core.deeds_push]
  · rw [Core.stats_push, Core.stats_tally, Core.stats_enter]
    split <;> rename_i accepted
    · rw [accepted]
      rfl
    · rw [Bool.eq_false_iff.mpr accepted]
      rfl

theorem requeue [Frontier S] (h : Recorded core M) (r : Request) :
    Recorded (core.requeue r) M := by
  have entered := h.enter_silent
    (show (Deed.requeued r (Frontier.requeue core.frontier r).1).mark? = none from rfl)
  refine entered.of_same ?_ (Core.stats_requeue core r)
  rw [Core.deeds_requeue, Core.deeds_enter]

theorem marks (h : Recorded core M) {α : Type} {f : Mark → Option α}
    (counts : ∀ c, f (.counted c) = none) :
    M.filterMap f = core.journal.deeds.filterMap fun d => d.mark?.bind f := by
  obtain ⟨counts', rfl, -⟩ := h
  have nothing : (counts'.map Mark.counted).filterMap f = 0 := by
    induction counts' using Multiset.induction_on with
    | empty => rfl
    | cons c counts' ih => rw [Multiset.map_cons, Multiset.filterMap_cons_none _ _ (counts c), ih]
  rw [Multiset.filterMap_add, nothing, add_zero, Multiset.filterMap_coe, List.filterMap_filterMap]

theorem stats (h : Recorded core M) :
    core.stats = Statistics.ofCounts (M.filterMap Mark.counted?) := by
  obtain ⟨counts, rfl, counted⟩ := h
  have nothing : core.journal.deeds.filterMap (fun d => d.mark?.bind Mark.counted?) = [] := by
    apply List.filterMap_eq_nil_iff.mpr
    intro d _
    cases d with
    | downloaded k r result => cases result <;> rfl
    | _ => rfl
  have all : (counts.map Mark.counted).filterMap Mark.counted? = counts := by
    rw [Multiset.filterMap_map]
    exact Multiset.filterMap_some counts
  rw [counted, Multiset.filterMap_add, Multiset.filterMap_coe, List.filterMap_filterMap, nothing,
    all, Multiset.coe_nil, zero_add]

end Recorded

def Conduct.pendingDebt (b : Conduct) (pending : List Request) : Multiset Mark :=
  (pending.map fun r => b.full r.fingerprint).sum

variable {σ : Type}

/-- A crawl at a moment when those who work on it have the debt `D` in hand. -/
structure Standing (b : Conduct) (rd : Reading σ) (seeds : List String)
    (run : Run (Layered Queue) σ) (D : Multiset Mark) (seen : List String) (q : Queue)
    (left : String → Nat) (M : Multiset Mark) : Prop where
  frontier : run.core.frontier = exactly seen q
  world : rd.left left run.world
  record : Recorded run.core M
  books : Books b seeds seen left M (b.pendingDebt q.pending + D)

def InOrder (b : Conduct) (rd : Reading σ) (seeds : List String) (run : Run (Layered Queue) σ)
    (D : Multiset Mark) : Prop :=
  ∃ seen q left M, Standing b rd seeds run D seen q left M

namespace Conduct

variable {b : Conduct}

theorem pendingDebt_cons (r : Request) (pending : List Request) :
    b.pendingDebt (r :: pending) = b.full r.fingerprint + b.pendingDebt pending :=
  List.sum_cons

theorem pendingDebt_push (q : Queue) (r : Request) :
    b.pendingDebt (q.push r).pending = b.full r.fingerprint + b.pendingDebt q.pending := by
  rw [Queue.pending_push, ← pendingDebt_cons]
  exact ((List.perm_append_singleton r q.pending).map _).sum_eq

theorem pendingDebt_poll {q q' : Queue} {r : Request} (h : q.poll = (some r, q')) :
    b.pendingDebt q.pending = b.full r.fingerprint + b.pendingDebt q'.pending := by
  rw [← pendingDebt_cons]
  exact ((pending_of_poll h).map _).sum_eq

end Conduct

namespace InOrder

variable {b : Conduct} {rd : Reading σ} {seeds : List String} {run run' : Run (Layered Queue) σ}
  {D : Multiset Mark}

theorem of_same (h : InOrder b rd seeds run D)
    (frontier : run'.core.frontier = run.core.frontier)
    (deeds : run'.core.journal.deeds = run.core.journal.deeds)
    (stats : run'.core.stats = run.core.stats) (world : run'.world = run.world) :
    InOrder b rd seeds run' D := by
  obtain ⟨seen, q, left, M, h⟩ := h
  exact ⟨seen, q, left, M, frontier.trans h.frontier, world ▸ h.world,
    h.record.of_same deeds stats, h.books⟩

theorem say (h : InOrder b rd seeds run D) (n : Note) :
    InOrder b rd seeds (run.update (·.say n)) D :=
  h.of_same rfl (Core.deeds_say _ n) rfl rfl

theorem perform {α : Type} {act : Act σ α} {good : α → Prop} (h : InOrder b rd seeds run D)
    (steady : rd.Steady act good) :
    ∃ a, (run.perform act).1 = .returned a ∧ good a ∧
      InOrder b rd seeds (run.perform act).2 D := by
  obtain ⟨seen, q, left, M, h⟩ := h
  obtain ⟨a, outcome, good, world⟩ := steady run.core.view run.world left h.world
  exact ⟨a, outcome, good, seen, q, left, M, h.frontier, world,
    h.record.of_same (Run.deeds_perform run act) rfl, h.books⟩

theorem enter_silent {d : Deed} (h : InOrder b rd seeds run D) (hd : d.mark? = none) :
    InOrder b rd seeds (run.update (·.enter d)) D := by
  obtain ⟨seen, q, left, M, h⟩ := h
  exact ⟨seen, q, left, M, h.frontier, h.world, h.record.enter_silent hd, h.books⟩

theorem enter {d : Deed} {m : Mark} (h : InOrder b rd seeds run (m ::ₘ D))
    (hd : d.mark? = some m) (no_offer : m.offered? = none) (no_fetch : m.fetched? = none) :
    InOrder b rd seeds (run.update (·.enter d)) D := by
  obtain ⟨seen, q, left, M, h⟩ := h
  have books := h.books
  rw [Multiset.add_cons] at books
  refine ⟨seen, q, left, m ::ₘ M, h.frontier, h.world, h.record.enter hd, ?_⟩
  exact books.pay no_offer fun u hu => absurd (no_fetch.symm.trans hu) nofun

theorem tally {c : Count} (h : InOrder b rd seeds run (.counted c ::ₘ D)) :
    InOrder b rd seeds (run.update (·.tally c.record)) D := by
  obtain ⟨seen, q, left, M, h⟩ := h
  have books := h.books
  rw [Multiset.add_cons] at books
  exact ⟨seen, q, left, .counted c ::ₘ M, h.frontier, h.world, h.record.tally c,
    books.pay rfl nofun⟩

theorem push {r : Request} (h : InOrder b rd seeds run (Conduct.offer r.fingerprint + D)) :
    InOrder b rd seeds (run.update fun c => (c.push r).2) D := by
  obtain ⟨seen, q, left, M, h⟩ := h
  have books := h.books
  rw [add_left_comm] at books
  have record := h.record.push r
  by_cases old : r.fingerprint ∈ seen
  · have refused : Frontier.push run.core.frontier r =
        (.duplicate r.fingerprint, exactly seen q) := by
      rw [h.frontier, push_of_seen old]
    rw [Core.fst_push, refused] at record
    refine ⟨seen, q, left, _, ?_, h.world, record, books.repeat_offer old⟩
    rw [Run.core_update, Core.frontier_push, refused]
  · have accepted : Frontier.push run.core.frontier r =
        (.queued, exactly (r.fingerprint :: seen) (q.push r)) := by
      rw [h.frontier, push_of_unseen old]
    rw [Core.fst_push, accepted] at record
    refine ⟨r.fingerprint :: seen, q.push r, left, _, ?_, h.world, record, ?_⟩
    · rw [Run.core_update, Core.frontier_push, accepted]
    · rw [Conduct.pendingDebt_push, add_assoc]
      exact books.first_offer old

theorem pushAll {rs : List Request}
    (h : InOrder b rd seeds run (Conduct.offers (rs.map Request.fingerprint) + D)) :
    InOrder b rd seeds (run.update fun c => (c.pushAll rs).2) D := by
  induction rs generalizing run with
  | nil => exact zero_add D ▸ h
  | cons r rs ih =>
    rw [List.map_cons, Conduct.offers_cons, add_assoc] at h
    exact ih h.push

theorem pushDiscovered {rs : List Request}
    (h : InOrder b rd seeds run (Conduct.offers (rs.map Request.fingerprint) + D)) :
    InOrder b rd seeds (run.update fun c => (c.pushDiscovered rs).2) D := by
  have pushed := h.pushAll
  by_cases nothing : (run.core.pushAll rs).1 = 0
  · exact pushed.of_same (by simp [Core.pushDiscovered, nothing])
      (by simp [Core.pushDiscovered, nothing]) (by simp [Core.pushDiscovered, nothing]) rfl
  · exact pushed.of_same (by simp [Core.pushDiscovered, nothing])
      (by simp [Core.pushDiscovered, nothing]) (by simp [Core.pushDiscovered, nothing]) rfl

theorem poll {r : Request} {s : Layered Queue} (h : InOrder b rd seeds run D)
    (found : Frontier.poll run.core.frontier = (some r, s)) :
    InOrder b rd seeds (run.update fun c => { c with frontier := s }.enter (.polled r))
      (b.serving r.fingerprint + D) := by
  obtain ⟨seen, q, left, M, h⟩ := h
  rw [h.frontier, poll_exactly] at found
  obtain ⟨taken, rfl⟩ := Prod.mk.inj found
  have books := h.books
  rw [Conduct.pendingDebt_poll (Prod.ext taken rfl), add_assoc, add_left_comm, Conduct.full,
    Multiset.cons_add, Multiset.add_cons] at books
  refine ⟨seen, q.poll.2, left, _, rfl, h.world, ?_, books.pay rfl nofun⟩
  exact Recorded.enter (h.record.of_same rfl rfl) rfl

theorem poll_dry {s : Layered Queue} (h : InOrder b rd seeds run D)
    (dry : Frontier.poll run.core.frontier = (none, s)) :
    InOrder b rd seeds (run.update fun c => { c with frontier := s }) D ∧ s.base.pending = [] := by
  obtain ⟨seen, q, left, M, h⟩ := h
  rw [h.frontier, poll_exactly] at dry
  obtain ⟨nothing, rfl⟩ := Prod.mk.inj dry
  have pending : q.pending = [] := q.poll_eq_none_iff.mp nothing
  have pending' : q.poll.2.pending = [] := by
    have same := pending_of_poll (q := q) (Prod.ext nothing rfl)
    rw [pending] at same
    exact same.nil_eq.symm
  refine ⟨⟨seen, q.poll.2, left, M, rfl, h.world, h.record.of_same rfl rfl, ?_⟩, pending'⟩
  rw [pending', ← pending]
  exact h.books

theorem requeue {r : Request} (h : InOrder b rd seeds run (b.full r.fingerprint + D)) :
    InOrder b rd seeds (run.update (·.requeue r)) D := by
  obtain ⟨seen, q, left, M, h⟩ := h
  have books := h.books
  rw [add_left_comm, ← add_assoc, ← Conduct.pendingDebt_push] at books
  refine ⟨seen, q.push r, left, M, ?_, h.world, h.record.requeue r, books⟩
  rw [Run.core_update, Core.frontier_requeue, h.frontier]
  rfl

/-- A download that has been counted as started either fails, and leaves the request as it was, or
succeeds, and leaves what the response owes. -/
theorem download {d : Downloader σ} {r : Request} (index : Nat) (fetches : d.Fetches b rd r)
    (supported : (b.downloader r.fingerprint).isSome = true)
    (h : InOrder b rd seeds run (.fetched r.fingerprint ::ₘ (b.reply r.fingerprint + D))) :
    (∃ cause, (run.perform (d.download r)).1 = .returned (.error cause) ∧
      InOrder b rd seeds
        ((run.perform (d.download r)).2.update (·.enter (.downloaded index r (.error cause))))
        (.counted .failed ::ₘ (b.full r.fingerprint + D))) ∨
    ∃ response, (run.perform (d.download r)).1 = .returned (.ok response) ∧
      rd.answers r.fingerprint response ∧ response.status = b.status r.fingerprint ∧
      InOrder b rd seeds
        ((run.perform (d.download r)).2.update (·.enter (.downloaded index r (.ok response))))
        (b.reply r.fingerprint + D) := by
  obtain ⟨seen, q, left, M, h⟩ := h
  have record : Recorded (run.perform (d.download r)).2.core M :=
    h.record.of_same (Run.deeds_perform _ _) rfl
  have books := h.books
  by_cases none_left : left r.fingerprint = 0
  · right
    obtain ⟨response, outcome, answers, status, world⟩ :=
      fetches.succeeds run.core.view run.world left h.world none_left
    rw [Multiset.add_cons] at books
    refine ⟨response, outcome, answers, status, seen, q, left, _, h.frontier, world,
      record.enter rfl, books.pay rfl ?_⟩
    intro u same
    exact Option.some.inj same ▸ none_left
  · left
    obtain ⟨cause, outcome, world⟩ :=
      fetches.fails run.core.view run.world left h.world none_left
    have under_way : r.fingerprint ∈ (b.pendingDebt q.pending +
        (.fetched r.fingerprint ::ₘ (b.reply r.fingerprint + D))).filterMap Mark.fetched? := by
      rw [Multiset.add_cons, Conduct.mem_filterMap_cons]
      exact .inl rfl
    have owed : Conduct.attempt r.fingerprint + (b.pendingDebt q.pending +
        (.fetched r.fingerprint ::ₘ (b.reply r.fingerprint + D))) =
          .failed r.fingerprint ::ₘ (b.pendingDebt q.pending +
            (.counted .failed ::ₘ (b.full r.fingerprint + D))) := by
      rw [Conduct.full, Conduct.serving_of_supported supported, Conduct.attempt,
        Multiset.insert_eq_cons, Multiset.insert_eq_cons, Multiset.insert_eq_cons]
      simp only [← Multiset.singleton_add]
      abel
    have failed := books.fail under_way none_left
    rw [owed] at failed
    exact ⟨cause, outcome, seen, q, _, _, h.frontier, world, record.enter rfl,
      failed.pay rfl nofun⟩

theorem closing (h : InOrder b rd seeds run 0)
    (done : run.core.frontier.base.pending = []) :
    ∃ seen left M, Recorded run.core M ∧ Books b seeds seen left M 0 := by
  obtain ⟨seen, q, left, M, h⟩ := h
  rw [h.frontier] at done
  have books := h.books
  rw [show q.pending = [] from done, add_zero] at books
  exact ⟨seen, left, M, h.record, books⟩

end InOrder

end WebCrawl
