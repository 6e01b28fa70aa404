import WebCrawl.Crawl.State
import WebCrawl.Frontier.Layered

/-!
# Frontiers that count right

A lawful frontier grows by one with every offer it accepts, shrinks by one with every request it
hands out, hands out nothing only when its size is zero, and says just then that it is empty.
Queues, bounded or not, are lawful, and filter layers keep a frontier lawful.
-/

namespace WebCrawl

class LawfulFrontier (S : Type) [Frontier S] : Prop where
  size_push : ∀ (s : S) (r : Request), Frontier.size (Frontier.push s r).2 =
    Frontier.size s + (Frontier.push s r).1.accepted.toNat
  size_requeue : ∀ (s : S) (r : Request), Frontier.size (Frontier.requeue s r).2 =
    Frontier.size s + (Frontier.requeue s r).1.accepted.toNat
  size_poll : ∀ s : S, Frontier.size (Frontier.poll s).2 + (Frontier.poll s).1.isSome.toNat =
    Frontier.size s
  size_of_poll_none : ∀ s : S, (Frontier.poll s).1 = none → Frontier.size s = 0
  isEmpty_eq : ∀ s : S, Frontier.isEmpty s = (Frontier.size s == 0)

namespace LawfulFrontier

variable {S : Type} [Frontier S] [LawfulFrontier S]

theorem size_of_poll_some {s s' : S} {r : Request} (h : Frontier.poll s = (some r, s')) :
    Frontier.size s = Frontier.size s' + 1 := by
  simpa [h] using (size_poll s).symm

theorem size_of_dry_poll {s s' : S} (h : Frontier.poll s = (none, s')) :
    Frontier.size s = 0 ∧ Frontier.size s' = 0 := by
  have hs : Frontier.size s = 0 := size_of_poll_none s (by rw [h])
  have hs' := size_poll s
  rw [h, hs] at hs'
  exact ⟨hs, by simpa using hs'⟩

theorem isEmpty_iff (s : S) : Frontier.isEmpty s = true ↔ Frontier.size s = 0 := by
  rw [isEmpty_eq, beq_iff_eq]

theorem poll_of_size_zero {s s' : S} {found : Option Request} (hs : Frontier.size s = 0)
    (h : Frontier.poll s = (found, s')) : found = none ∧ Frontier.size s' = 0 := by
  have hp := size_poll s
  rw [h, hs] at hp
  cases found with
  | none => exact ⟨rfl, by simpa using hp⟩
  | some r => simp at hp

theorem size_pushAll (c : Core S) (rs : List Request) :
    Frontier.size (c.pushAll rs).2.frontier = Frontier.size c.frontier + (c.pushAll rs).1 := by
  induction rs generalizing c with
  | nil => rfl
  | cons r rest ih =>
    have hfirst : Frontier.size (c.push r).2.frontier =
        Frontier.size c.frontier + (c.push r).1.accepted.toNat := by
      rw [Core.frontier_push, Core.fst_push]
      exact size_push c.frontier r
    have hrest := ih (c.push r).2
    simp only [Core.pushAll]
    omega

theorem size_pushDiscovered (c : Core S) (rs : List Request) :
    Frontier.size (c.pushDiscovered rs).2.frontier =
      Frontier.size c.frontier + (c.pushDiscovered rs).1 := by
  have h := size_pushAll c rs
  simp only [Core.pushDiscovered]
  split
  · exact h
  · exact h

theorem size_requeue_le (c : Core S) (r : Request) :
    Frontier.size (c.requeue r).frontier ≤ Frontier.size c.frontier + 1 := by
  have h := size_requeue c.frontier r
  have hle : (Frontier.requeue c.frontier r).1.accepted.toNat ≤ 1 := Bool.toNat_le _
  rw [Core.frontier_requeue]
  omega

end LawfulFrontier

instance : LawfulFrontier Queue where
  size_push q r := by simp [Frontier.size, Frontier.push]
  size_requeue q r := by simp [Frontier.size, Frontier.requeue]
  size_poll q := by
    obtain ⟨pending, order⟩ := q
    cases order with
    | fifo => cases pending <;> simp [Frontier.size, Frontier.poll, Queue.poll]
    | lifo =>
      cases pending with
      | nil => simp [Frontier.size, Frontier.poll, Queue.poll]
      | cons r rest =>
        simp [Frontier.size, Frontier.poll, Queue.poll, List.getLast?_isSome]
  size_of_poll_none q h := by
    have hq : q.pending = [] := q.poll_eq_none_iff.mp h
    simp [Frontier.size, hq]
  isEmpty_eq _ := rfl

theorem Store.size_offer (s : Store) (r : Request) :
    Frontier.size (s.offer r).2 = Frontier.size s + (s.offer r).1.accepted.toNat := by
  unfold Store.offer
  split <;> simp [Frontier.size]

instance : LawfulFrontier Store where
  size_push := Store.size_offer
  size_requeue s r := by
    simp only [Frontier.requeue]
    split
    · simp
    · exact s.size_offer r
  size_poll s := LawfulFrontier.size_poll s.queue
  size_of_poll_none s h := LawfulFrontier.size_of_poll_none s.queue h
  isEmpty_eq _ := rfl

namespace Layered

variable {S : Type} [Frontier S] [LawfulFrontier S]

theorem size_pushThrough (r : Request) (layers : List FilterLayer) (base : S) :
    Frontier.size (pushThrough r layers base).2.2 =
      Frontier.size base + (pushThrough r layers base).1.accepted.toNat := by
  induction layers with
  | nil => exact LawfulFrontier.size_push base r
  | cons l layers ih =>
    simp only [pushThrough]
    split
    · exact ih
    · simp

instance : LawfulFrontier (Layered S) where
  size_push s r := size_pushThrough r s.layers s.base
  size_requeue s r := LawfulFrontier.size_requeue s.base r
  size_poll s := LawfulFrontier.size_poll s.base
  size_of_poll_none s h := LawfulFrontier.size_of_poll_none s.base h
  isEmpty_eq s := LawfulFrontier.isEmpty_eq s.base

end Layered

end WebCrawl
