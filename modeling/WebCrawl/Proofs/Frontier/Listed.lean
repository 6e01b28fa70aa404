import WebCrawl.Proofs.Frontier.Lawful

/-!
# Frontiers whose pending requests can be listed

Behind its size, a listed frontier has the requests themselves: a push or a requeue appends the
request that it accepts, a poll takes one out. Queues, bounded or not, and filter layers around
them are listed; nothing is said about the order in which requests are polled.
-/

namespace WebCrawl

theorem countP_cons_toNat {α : Type} (q : α → Bool) (a : α) (l : List α) :
    (a :: l).countP q = l.countP q + (q a).toNat := by
  rw [List.countP_cons]
  cases q a <;> rfl

namespace Admission

def added (a : Admission) (r : Request) : List Request := if a.accepted then [r] else []

@[simp] theorem added_queued (r : Request) : Admission.queued.added r = [r] := rfl

@[simp] theorem added_duplicate (i : String) (r : Request) :
    (Admission.duplicate i).added r = [] := rfl

@[simp] theorem added_refused (r : Request) : Admission.refused.added r = [] := rfl

theorem countP_added (a : Admission) (r : Request) (q : Request → Bool) :
    (a.added r).countP q = (a.accepted && q r).toNat := by
  cases a with
  | queued => cases h : q r <;> simp [h]
  | _ => rfl

end Admission

theorem Frontier.snd_pushAll_append {S : Type} [Frontier S] (s : S) (rs rs' : List Request) :
    (Frontier.pushAll s (rs ++ rs')).2 = (Frontier.pushAll (Frontier.pushAll s rs).2 rs').2 := by
  induction rs generalizing s with
  | nil => rfl
  | cons r rs ih => exact ih (Frontier.push s r).2

class ListedFrontier (S : Type) [Frontier S] extends LawfulFrontier S where
  pending : S → List Request
  size_eq : ∀ s : S, Frontier.size s = (pending s).length
  pending_push : ∀ (s : S) (r : Request), pending (Frontier.push s r).2 =
    pending s ++ (Frontier.push s r).1.added r
  pending_requeue : ∀ (s : S) (r : Request), pending (Frontier.requeue s r).2 =
    pending s ++ (Frontier.requeue s r).1.added r
  pending_poll : ∀ s : S, (pending s).Perm
    ((Frontier.poll s).1.toList ++ pending (Frontier.poll s).2)

namespace ListedFrontier

variable {S : Type} [Frontier S] [ListedFrontier S]

theorem pending_of_poll_some {s s' : S} {r : Request} (h : Frontier.poll s = (some r, s')) :
    (pending s).Perm (r :: pending s') := by
  have perm := pending_poll s
  rwa [h] at perm

theorem pending_of_dry_poll {s s' : S} (h : Frontier.poll s = (none, s')) :
    pending s = [] ∧ pending s' = [] := by
  obtain ⟨before, after⟩ := LawfulFrontier.size_of_dry_poll h
  rw [size_eq] at before after
  exact ⟨List.length_eq_zero_iff.mp before, List.length_eq_zero_iff.mp after⟩

end ListedFrontier

theorem pending_of_poll {q q' : Queue} {found : Option Request} (h : q.poll = (found, q')) :
    q.pending.Perm (found.toList ++ q'.pending) := by
  obtain ⟨pending, order⟩ := q
  cases order with
  | fifo =>
    cases pending with
    | nil =>
      cases h
      exact .refl []
    | cons r rest =>
      cases h
      exact .refl _
  | lifo =>
    cases h
    rcases List.eq_nil_or_concat pending with rfl | ⟨rest, last, rfl⟩
    · exact .refl []
    · rw [List.concat_eq_append]
      simp

instance : ListedFrontier Queue where
  pending := Queue.pending
  size_eq _ := rfl
  pending_push _ _ := rfl
  pending_requeue _ _ := rfl
  pending_poll _ := pending_of_poll rfl

theorem Store.pending_offer (s : Store) (r : Request) :
    (s.offer r).2.queue.pending = s.queue.pending ++ (s.offer r).1.added r := by
  cases room : s.hasRoom with
  | true => rw [offer_of_room room]; rfl
  | false => rw [offer_of_full room]; exact (List.append_nil _).symm

instance : ListedFrontier Store where
  pending s := s.queue.pending
  size_eq _ := rfl
  pending_push := Store.pending_offer
  pending_requeue s r := by
    simp only [Frontier.requeue]
    split
    · exact (List.append_nil _).symm
    · exact s.pending_offer r
  pending_poll s := pending_of_poll (q := s.queue) rfl

namespace Layered

variable {S : Type} [Frontier S] [ListedFrontier S]

theorem pending_pushThrough (r : Request) (layers : List FilterLayer) (base : S) :
    ListedFrontier.pending (pushThrough r layers base).2.2 =
      ListedFrontier.pending base ++ (pushThrough r layers base).1.added r := by
  induction layers with
  | nil => exact ListedFrontier.pending_push base r
  | cons l layers ih =>
    simp only [pushThrough]
    split
    · exact ih
    · exact (List.append_nil _).symm

instance : ListedFrontier (Layered S) where
  pending s := ListedFrontier.pending s.base
  size_eq s := ListedFrontier.size_eq s.base
  pending_push s r := pending_pushThrough r s.layers s.base
  pending_requeue s r := ListedFrontier.pending_requeue s.base r
  pending_poll s := ListedFrontier.pending_poll s.base

end Layered

end WebCrawl
