import Mathlib.Data.Finset.Card
import WebCrawl.Proofs.Crawl.Events
import WebCrawl.Proofs.Site.Keeping

/-!
# What an exact filter lets in

Under an exact filter the accepted offers are the memory of the filter: each fingerprint is accepted
once. So there are no more accepted offers than fingerprints to offer.
-/

namespace WebCrawl

namespace Deed

/-- An accepted offer of a request with the given fingerprint. -/
def admits (u : String) : Deed → Bool
  | pushed r a => a.accepted && r.fingerprint == u
  | _ => false

def offered? : Deed → Option Request
  | pushed r _ => some r
  | _ => none

end Deed

namespace Event

def admitted? : Event → Option String
  | did (.pushed r a) => if a.accepted then some r.fingerprint else none
  | _ => none

def admitted (events : List Event) : List String := events.filterMap admitted?

theorem length_admitted (events : List Event) :
    (admitted events).length = events.countP (isDeed Deed.isAdmission) := by
  rw [admitted, List.length_filterMap_eq_countP]
  congr 1
  funext e
  cases e with
  | did d =>
    cases d with
    | pushed r a => cases a <;> rfl
    | _ => rfl
  | counted n => rfl

theorem count_admitted (u : String) (events : List Event) :
    (admitted events).count u = events.countP (isDeed (Deed.admits u)) := by
  rw [admitted, List.count, List.countP_filterMap]
  congr 1
  funext e
  cases e with
  | did d =>
    cases d with
    | pushed r a => cases a <;> rfl
    | _ => rfl
  | counted n => rfl

theorem exists_offered {u : String} {events : List Event} (h : u ∈ admitted events) :
    ∃ r ∈ (events.filterMap deed?).filterMap Deed.offered?, r.fingerprint = u := by
  obtain ⟨e, he, admits⟩ := List.mem_filterMap.mp h
  cases e with
  | counted n => cases admits
  | did d =>
    cases d with
    | pushed r a =>
      have entered : Deed.pushed r a ∈ events.filterMap deed? :=
        List.mem_filterMap.mpr ⟨_, he, rfl⟩
      refine ⟨r, List.mem_filterMap.mpr ⟨.pushed r a, entered, rfl⟩, ?_⟩
      cases a with
      | queued => exact Option.some.inj admits
      | _ => cases admits
    | _ => cases admits

end Event

namespace Replays

theorem remembered {seen : List String} {q : Queue} {s : Layered Queue} {events : List Event}
    (h : Replays (exactly seen q) events s) (nodup : seen.Nodup) :
    ∃ q', s = exactly ((Event.admitted events).reverse ++ seen) q' ∧
      ((Event.admitted events).reverse ++ seen).Nodup := by
  generalize start : exactly seen q = s₀ at h
  induction h generalizing seen q with
  | done => exact ⟨q, start.symm, nodup⟩
  | @push s s' s'' r a events answer rest ih =>
    subst start
    by_cases old : r.fingerprint ∈ seen
    · rw [push_of_seen old] at answer
      cases answer
      exact ih nodup rfl
    · rw [push_of_unseen old] at answer
      cases answer
      have later := ih (List.nodup_cons.mpr ⟨old, nodup⟩) rfl
      rwa [← List.singleton_append, ← List.append_assoc, ← List.reverse_cons] at later
  | poll answer rest ih =>
    subst start
    obtain ⟨-, rfl⟩ := Prod.mk.inj answer
    exact ih nodup rfl
  | dryPoll answer rest ih =>
    subst start
    obtain ⟨-, rfl⟩ := Prod.mk.inj answer
    exact ih nodup rfl
  | requeue answer rest ih =>
    subst start
    obtain ⟨-, rfl⟩ := Prod.mk.inj answer
    exact ih nodup rfl
  | @skip s s'' e events apart rest ih =>
    have silent : e.admitted? = none := by
      cases e with
      | did d =>
        cases d with
        | pushed => cases apart
        | _ => rfl
      | counted n => rfl
    rw [Event.admitted, List.filterMap_cons_none silent]
    exact ih nodup start

theorem seen {seen : List String} {q : Queue} {s : Layered Queue} {events : List Event}
    (h : Replays (exactly seen q) events s) (nodup : seen.Nodup) :
    ∃ seen' q', s = exactly seen' q' ∧ seen'.Nodup ∧
      ∀ u, events.countP (Event.isDeed (Deed.admits u)) + seen.count u = seen'.count u := by
  obtain ⟨q', same, nodup'⟩ := h.remembered nodup
  refine ⟨_, q', same, nodup', ?_⟩
  intro u
  rw [List.count_append, List.count_reverse, Event.count_admitted]

/-- No more offers are accepted than there are fingerprints among the offers. -/
theorem countP_isAdmission_le {q : Queue} {s : Layered Queue} {events : List Event}
    (h : Replays (exactly [] q) events s) {U : Finset String}
    (known : ∀ r ∈ (events.filterMap Event.deed?).filterMap Deed.offered?, r.fingerprint ∈ U) :
    events.countP (Event.isDeed Deed.isAdmission) ≤ U.card := by
  obtain ⟨-, -, nodup⟩ := h.remembered List.nodup_nil
  rw [List.append_nil, List.nodup_reverse] at nodup
  have within : (Event.admitted events).toFinset ⊆ U := by
    intro u hu
    obtain ⟨r, offered, rfl⟩ := Event.exists_offered (List.mem_toFinset.mp hu)
    exact known r offered
  calc
    events.countP (Event.isDeed Deed.isAdmission) = (Event.admitted events).toFinset.card := by
      rw [List.toFinset_card_of_nodup nodup, Event.length_admitted]
    _ ≤ U.card := Finset.card_le_card within

theorem countP_isRefusal {S : Type} [Frontier S] {s s' : S} {events : List Event}
    (h : Replays s events s') (takes : ∀ (s : S) (r : Request),
      (Frontier.requeue s r).1.accepted = true) :
    events.countP (Event.isDeed Deed.isRefusal) = 0 := by
  induction h with
  | done s => rfl
  | push answer rest ih => exact ih
  | poll answer rest ih => exact ih
  | dryPoll answer rest ih => exact ih
  | @requeue s s' s'' r a events answer rest ih =>
    have taken := takes s r
    rw [answer] at taken
    have returned : Event.isDeed Deed.isRefusal (.did (.requeued r a)) = false := by
      simp [Event.isDeed, Deed.isRefusal, taken]
    rw [countP_cons_toNat, ih, returned, Bool.toNat_false]
  | @skip s s'' e events apart rest ih =>
    have silent : Event.isDeed Deed.isRefusal e = false := by
      refine Event.isDeed_eq_false ?_ apart
      intro d apart
      cases d <;> first | rfl | cases apart
    rw [countP_cons_toNat, ih, silent, Bool.toNat_false]

end Replays

end WebCrawl
