import WebCrawl.Proofs.Crawl.Admissions
import WebCrawl.Proofs.Frontier.Bloom

/-!
# What goes through a frontier

Whatever a listed frontier has handed out was pending at first or has come in since, as an accepted
offer or as a failed request that was taken back; the rest is pending. A queue that is polled from
its front keeps all of it in line.
-/

namespace WebCrawl

def Deed.returns (u : String) : Deed → Bool
  | requeued r _ => r.fingerprint == u
  | _ => false

namespace Event

def polled? : Event → Option Request
  | did (.polled r) => some r
  | _ => none

def polled (events : List Event) : List Request := events.filterMap polled?

/-- What an event adds to the pending requests. -/
def entering : Event → List Request
  | did (.pushed r a) => a.added r
  | did (.requeued r a) => a.added r
  | _ => []

def entered (events : List Event) : List Request := events.flatMap entering

theorem polled_append (events events' : List Event) :
    polled (events ++ events') = polled events ++ polled events' :=
  List.filterMap_append

theorem length_polled (events : List Event) :
    (polled events).length = events.countP (isDeed Deed.isPoll) := by
  rw [polled, List.length_filterMap_eq_countP]
  congr 1
  funext e
  cases e with
  | did d => cases d <;> rfl
  | counted n => rfl

theorem polled?_eq_none {e : Event} (apart : e.isDeed Deed.isFrontiers = false) :
    e.polled? = none := by
  cases e with
  | did d => cases d <;> first | rfl | cases apart
  | counted n => rfl

theorem entering_eq_nil {e : Event} (apart : e.isDeed Deed.isFrontiers = false) :
    e.entering = [] := by
  cases e with
  | did d => cases d <;> first | rfl | cases apart
  | counted n => rfl

theorem polled_eq_nil {events : List Event}
    (none_polled : ∀ e ∈ events, e.isDeed Deed.isPoll = false) : polled events = [] := by
  apply List.filterMap_eq_nil_iff.mpr
  intro e he
  have apart := none_polled e he
  cases e with
  | did d => cases d <;> first | rfl | cases apart
  | counted n => rfl

theorem map_entered {events : List Event} (none_back : events.countP (isDeed Deed.isReturn) = 0) :
    (entered events).map Request.fingerprint = admitted events := by
  induction events with
  | nil => rfl
  | cons e events ih =>
    rw [countP_cons_toNat] at none_back
    have later := ih (by omega)
    have first : e.entering.map Request.fingerprint = e.admitted?.toList := by
      cases e with
      | counted n => rfl
      | did d =>
        cases d with
        | pushed r a => cases a <;> rfl
        | requeued r a =>
          cases a with
          | queued =>
            have back : (isDeed Deed.isReturn (.did (.requeued r .queued))).toNat = 1 := rfl
            omega
          | _ => rfl
        | _ => rfl
    rw [entered, List.flatMap_cons, List.map_append, first, ← entered, later]
    cases offered : e.admitted? with
    | none => exact (List.filterMap_cons_none offered).symm
    | some u => exact (List.filterMap_cons_some offered).symm

theorem exists_requeued {e : Event} (returned : e.isDeed Deed.isReturn = true) :
    ∃ r a, e = did (.requeued r a) ∧ e.entering = [r] := by
  cases e with
  | counted n => cases returned
  | did d =>
    cases d with
    | requeued r a =>
      cases a with
      | queued => exact ⟨r, .queued, rfl, rfl⟩
      | _ => cases returned
    | _ => cases returned

theorem countP_entered_le (u : String) (events : List Event) :
    (entered events).countP (·.fingerprint == u) ≤
      events.countP (isDeed (Deed.admits u)) + events.countP (isDeed (Deed.returns u)) := by
  induction events with
  | nil => exact Nat.le_refl 0
  | cons e events ih =>
    have first : e.entering.countP (·.fingerprint == u) ≤
        (e.isDeed (Deed.admits u)).toNat + (e.isDeed (Deed.returns u)).toNat := by
      cases e with
      | counted n => exact Nat.le_refl 0
      | did d =>
        cases d with
        | pushed r a =>
          rw [entering, Admission.countP_added]
          exact Nat.le_add_right _ _
        | requeued r a =>
          rw [entering, Admission.countP_added]
          cases a.accepted with
          | false => exact Nat.zero_le _
          | true => exact Nat.le_add_left _ _
        | _ => exact Nat.le_refl 0
    have split : entered (e :: events) = e.entering ++ entered events := rfl
    rw [split, List.countP_append, countP_cons_toNat, countP_cons_toNat]
    omega

end Event

namespace Replays

open Event

/-- What was handed out and what is pending are what was pending before and what came in. -/
theorem turnover {S : Type} [Frontier S] [ListedFrontier S] {s s' : S} {events : List Event}
    (h : Replays s events s') :
    (polled events ++ ListedFrontier.pending s').Perm
      (ListedFrontier.pending s ++ entered events) := by
  induction h with
  | done s => rw [entered, List.flatMap_nil, List.append_nil]; exact .refl _
  | @push s s' s'' r a events answer rest ih =>
    have grown := ListedFrontier.pending_push s r
    rw [answer] at grown
    rw [grown, List.append_assoc] at ih
    exact ih
  | @poll s s' s'' r events answer rest ih =>
    have shrunk := ListedFrontier.pending_of_poll_some answer
    exact (ih.cons r).trans (shrunk.symm.append_right (entered events))
  | dryPoll answer rest ih =>
    obtain ⟨before, after⟩ := ListedFrontier.pending_of_dry_poll answer
    rwa [after, ← before] at ih
  | @requeue s s' s'' r a events answer rest ih =>
    have grown := ListedFrontier.pending_requeue s r
    rw [answer] at grown
    rw [grown, List.append_assoc] at ih
    exact ih
  | @skip s s'' e events apart rest ih =>
    rw [polled, List.filterMap_cons_none (polled?_eq_none apart), entered, List.flatMap_cons,
      entering_eq_nil apart]
    exact ih

theorem order {s s' : Layered Queue} {events : List Event} (h : Replays s events s') :
    s'.base.order = s.base.order := by
  induction h with
  | done s => rfl
  | @push s s' s'' r a events answer rest ih =>
    have kept := Layered.order_operate s (.push r)
    simp only [Layered.operate, answer] at kept
    exact ih.trans kept
  | @poll s s' s'' r events answer rest ih =>
    have kept := Layered.order_operate s .poll
    simp only [Layered.operate, answer] at kept
    exact ih.trans kept
  | @dryPoll s s' s'' events answer rest ih =>
    have kept := Layered.order_operate s .poll
    simp only [Layered.operate, answer] at kept
    exact ih.trans kept
  | @requeue s s' s'' r a events answer rest ih =>
    have kept := Layered.order_operate s (.requeue r)
    simp only [Layered.operate, answer] at kept
    exact ih.trans kept
  | skip apart rest ih => exact ih

theorem split {S : Type} [Frontier S] {s s'' : S} {events events' : List Event}
    (h : Replays s (events ++ events') s'') :
    ∃ s', Replays s events s' ∧ Replays s' events' s'' := by
  generalize all : events ++ events' = whole at h
  induction h generalizing events with
  | done s =>
    obtain ⟨rfl, rfl⟩ := List.append_eq_nil_iff.mp all
    exact ⟨s, .done s, .done s⟩
  | dryPoll answer rest ih =>
    obtain ⟨s', before, after⟩ := ih all
    exact ⟨s', .dryPoll answer before, after⟩
  | @push s _ _ _ _ _ answer rest ih =>
    rcases List.append_eq_cons_iff.mp all with ⟨rfl, rfl⟩ | ⟨events, rfl, rfl⟩
    · exact ⟨s, .done s, .push answer rest⟩
    · obtain ⟨s', before, after⟩ := ih rfl
      exact ⟨s', .push answer before, after⟩
  | @poll s _ _ _ _ answer rest ih =>
    rcases List.append_eq_cons_iff.mp all with ⟨rfl, rfl⟩ | ⟨events, rfl, rfl⟩
    · exact ⟨s, .done s, .poll answer rest⟩
    · obtain ⟨s', before, after⟩ := ih rfl
      exact ⟨s', .poll answer before, after⟩
  | @requeue s _ _ _ _ _ answer rest ih =>
    rcases List.append_eq_cons_iff.mp all with ⟨rfl, rfl⟩ | ⟨events, rfl, rfl⟩
    · exact ⟨s, .done s, .requeue answer rest⟩
    · obtain ⟨s', before, after⟩ := ih rfl
      exact ⟨s', .requeue answer before, after⟩
  | @skip s _ _ _ apart rest ih =>
    rcases List.append_eq_cons_iff.mp all with ⟨rfl, rfl⟩ | ⟨events, rfl, rfl⟩
    · exact ⟨s, .done s, .skip apart rest⟩
    · obtain ⟨s', before, after⟩ := ih rfl
      exact ⟨s', .skip apart before, after⟩

theorem line {s s' : Layered Queue} {events : List Event} (h : Replays s events s')
    (fifo : s.base.order = .fifo) :
    polled events ++ s'.base.pending = s.base.pending ++ entered events := by
  induction h with
  | done s => exact (List.append_nil _).symm
  | @push s s' s'' r a events answer rest ih =>
    have order := Layered.order_operate s (.push r)
    have grown := ListedFrontier.pending_push s r
    simp only [Layered.operate, answer] at order grown
    have later := ih (order.trans fifo)
    have came : s'.base.pending = s.base.pending ++ a.added r := grown
    rw [came, List.append_assoc] at later
    exact later
  | @poll s s' s'' r events answer rest ih =>
    have order := Layered.order_operate s .poll
    have shrunk := Layered.pending_of_poll_fifo fifo
    simp only [Layered.operate, answer] at order shrunk
    have later := ih (order.trans fifo)
    rw [← shrunk]
    exact congrArg (r :: ·) later
  | @dryPoll s s' s'' events answer rest ih =>
    have order := Layered.order_operate s .poll
    have shrunk := Layered.pending_of_poll_fifo fifo
    simp only [Layered.operate, answer] at order shrunk
    rw [← shrunk]
    exact ih (order.trans fifo)
  | @requeue s s' s'' r a events answer rest ih =>
    have order := Layered.order_operate s (.requeue r)
    have grown := ListedFrontier.pending_requeue s r
    simp only [Layered.operate, answer] at order grown
    have later := ih (order.trans fifo)
    have came : s'.base.pending = s.base.pending ++ a.added r := grown
    rw [came, List.append_assoc] at later
    exact later
  | @skip s s'' e events apart rest ih =>
    rw [polled, List.filterMap_cons_none (polled?_eq_none apart), entered, List.flatMap_cons,
      entering_eq_nil apart]
    exact ih fifo

theorem joins {s s' : Layered Queue} {e : Event} {r : Request} (h : Replays s [e] s')
    (fifo : s.base.order = .fifo) (enters : e.entering = [r]) :
    s'.base.pending = s.base.pending ++ [r] := by
  have unpolled : polled [e] = [] := by
    refine polled_eq_nil fun _ only => ?_
    rw [List.mem_singleton.mp only]
    cases e with
    | did d => cases d <;> first | rfl | cases enters
    | counted n => rfl
  have grown := h.line fifo
  rwa [unpolled, List.nil_append, entered, List.flatMap_singleton, enters] at grown

/-- Where a request comes in behind `n` others, the next `n` polls hand out these, and the poll
after them hands out the request. -/
theorem turn {s s' s'' : Layered Queue} {e : Event} {r : Request} {after : List Event}
    (entrance : Replays s [e] s') (fifo : s.base.order = .fifo) (enters : e.entering = [r])
    (later : Replays s' after s'') (polls : s.base.pending.length < (polled after).length) :
    (polled after).take (s.base.pending.length + 1) = s.base.pending ++ [r] := by
  have through : (s.base.pending ++ [r]).length = s.base.pending.length + 1 := by
    rw [List.length_append, List.length_singleton]
  have line := later.line (entrance.order.trans fifo)
  rw [entrance.joins fifo enters] at line
  calc (polled after).take (s.base.pending.length + 1)
      = (polled after ++ s''.base.pending).take (s.base.pending.length + 1) :=
        (List.take_append_of_le_length polls).symm
    _ = (s.base.pending ++ [r] ++ entered after).take (s.base.pending.length + 1) := by rw [line]
    _ = s.base.pending ++ [r] := List.take_left' through

theorem turn_comes {s s' s'' : Layered Queue} {e : Event} {r : Request} {after : List Event}
    (entrance : Replays s [e] s') (fifo : s.base.order = .fifo) (enters : e.entering = [r])
    (later : Replays s' after s'') (dry : s''.base.pending = []) :
    s.base.pending.length < (polled after).length := by
  have line := congrArg List.length (later.line (entrance.order.trans fifo))
  rw [entrance.joins fifo enters, dry] at line
  simp only [List.length_append, List.length_nil, List.length_singleton] at line
  omega

end Replays

end WebCrawl
