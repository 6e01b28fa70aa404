import WebCrawl.Proofs.Pool.Journal
import WebCrawl.Proofs.Pool.Wakeup

/-!
# The locks of a pool

A worker that has seen that nothing is cancelled holds its lock until it has polled, taken or
parked, and each lock has at most one holder. Whoever polls or takes gives the lock up, and a raised
cancellation lets nobody take one, so that there is at most one poll and one take left.
-/

namespace WebCrawl

namespace Pool

variable {S σ : Type}

/-- A holder gives its lock up with what it takes out of the queue behind it. A lock is only taken
where nobody has it and nothing is cancelled. -/
def Relays (p : Pool S σ) (takes before after : Nat) : Prop :=
  takes + after = before ∨ before = 0 ∧ p.cancelled = false ∧ takes + after = 1

theorem Relays.same {p : Pool S σ} {before after : Nat} (same : after = before) :
    p.Relays 0 before after :=
  .inl ((Nat.zero_add after).trans same)

theorem nobody_of_frontierFree {p : Pool S σ} (free : p.frontierFree = true) :
    p.fetchers.countP Fetcher.isLooking = 0 := by
  rw [frontierFree, Bool.not_eq_true', List.any_eq_false] at free
  exact List.countP_eq_zero.mpr free

theorem nobody_of_handoffFree {p : Pool S σ} (free : p.handoffFree = true) :
    p.workers.countP Worker.isLooking = 0 := by
  rw [handoffFree, Bool.not_eq_true', List.any_eq_false] at free
  exact List.countP_eq_zero.mpr free

variable [Frontier S] {crew : Crew σ} {d : Downloader σ} {p p' : Pool S σ}

theorem raised_of_step {m : Move} (raised : p.cancelled = true) (step : Step crew d p m p') :
    p'.cancelled = true := by
  rw [← Bool.not_eq_false]
  intro on
  rw [on_of_step step on] at raised
  cases raised

end Pool

end WebCrawl
