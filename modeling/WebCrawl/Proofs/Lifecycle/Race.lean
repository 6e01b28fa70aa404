import WebCrawl.Lifecycle.Race

/-!
# A race for the lifecycle goes forward once

However many callers race for the cell, and in whatever order their accesses come, the record of
the accesses is a walk along the phases. It is enough to know what one access does at each phase;
the walk is then cut wherever a statement asks for what came before.
-/

namespace WebCrawl

namespace Phase

def hasEnded (p : Phase) : Bool := p == .ended

@[simp] theorem ofCode_code (p : Phase) : ofCode p.code = p := by cases p <;> rfl

theorem code_eq_iff {p q : Phase} : p.code = q.code ↔ p = q :=
  ⟨fun h => by rw [← p.ofCode_code, h, q.ofCode_code], congrArg code⟩

end Phase

namespace LifecycleCell

@[simp] theorem current_of (p : Phase) : (of p).current = p := p.ofCode_code

theorem ensure_of (p expected : Phase) (action : String) :
    (of p).ensure expected action = p.ensure expected action := by
  rw [ensure, current_of, Phase.ensure]

/-- The exchange of bytes is the transition between the phases that they stand for. -/
theorem transition_of (p source target : Phase) (action : String) :
    (of p).transition source target action =
      ((p.transition source target action).1, of (p.transition source target action).2) := by
  by_cases same : p = source
  · subst same
    simp [transition, compareExchange, of]
  · have differs : p.code ≠ source.code := fun h => same (Phase.code_eq_iff.mp h)
    simp [transition, compareExchange, of, differs, Phase.transition_of_ne same]

end LifecycleCell

namespace LifecycleCall

def answer (p : Phase) : LifecycleCall → LifecycleReply
  | .access a => .result (a.perform p).1
  | .current => .phase p
  | .hasStarted => .started p.hasStarted

def next (p : Phase) : LifecycleCall → Phase
  | .access a => (a.perform p).2
  | _ => p

theorem perform_of (call : LifecycleCall) (p : Phase) :
    call.perform (.of p) = (call.answer p, .of (call.next p)) := by
  cases call with
  | access a =>
    cases a with
    | begin => simp only [perform, LifecycleCell.transition_of]; rfl
    | finish => simp only [perform, LifecycleCell.transition_of]; rfl
    | ensureInitializing action => simp only [perform, LifecycleCell.ensure_of]; rfl
    | ensureRunning action => simp only [perform, LifecycleCell.ensure_of]; rfl
  | current => simp only [perform, LifecycleCell.current_of]; rfl
  | hasStarted => simp only [perform, LifecycleCell.hasStarted, LifecycleCell.current_of]; rfl

theorem rank_next_le (call : LifecycleCall) (p : Phase) : p.rank ≤ (call.next p).rank := by
  cases call with
  | access a => exact a.rank_perform_le p
  | _ => exact Nat.le_refl _

theorem next_of_refused {call : LifecycleCall} {p : Phase} {e : PhaseError}
    (refused : call.answer p = .result (.error e)) : call.next p = p ∧ e.actual = p := by
  cases call with
  | access a => cases a <;> cases p <;> cases refused <;> exact ⟨rfl, rfl⟩
  | _ => cases refused

end LifecycleCall

namespace Visit

/-- The caller was told that the access was granted. -/
def wins (v : Visit) (a : LifecycleAccess) : Bool :=
  v.call == .access a && match v.reply with
    | .result (.ok ()) => true
    | _ => false

/-- The latest phase in which the cell can have been found, as far as the reply tells. -/
def latest (v : Visit) : Phase :=
  match v.call, v.reply with
  | .access .begin, .result (.ok ()) => .initializing
  | .access .finish, .result (.ok ()) => .running
  | .access (.ensureInitializing _), .result (.ok ()) => .initializing
  | .access (.ensureRunning _), .result (.ok ()) => .running
  | _, .result (.error e) => e.actual
  | _, .phase p => p
  | _, .started true => .ended
  | _, .started false => .initializing
  | _, .result (.ok ()) => .ended

/-- The earliest phase in which the cell can have been left, as far as the reply tells. -/
def earliest (v : Visit) : Phase :=
  match v.call, v.reply with
  | .access .begin, .result (.ok ()) => .running
  | .access .finish, .result (.ok ()) => .ended
  | .access (.ensureInitializing _), .result (.ok ()) => .initializing
  | .access (.ensureRunning _), .result (.ok ()) => .running
  | _, .result (.error e) => e.actual
  | _, .phase p => p
  | _, .started true => .running
  | _, .started false => .initializing
  | _, .result (.ok ()) => .initializing

end Visit

namespace LifecycleCall

def visit (call : LifecycleCall) (caller : Nat) (p : Phase) : Visit :=
  ⟨caller, call, .of p, call.answer p, .of (call.next p)⟩

variable (call : LifecycleCall) (caller : Nat) (p : Phase)

theorem wins_begin_visit : ((call.visit caller p).wins .begin).toNat + p.hasStarted.toNat =
    (call.next p).hasStarted.toNat := by
  cases call with
  | access a => cases a <;> cases p <;> rfl
  | _ => cases p <;> rfl

theorem wins_finish_visit : ((call.visit caller p).wins .finish).toNat + p.hasEnded.toNat =
    (call.next p).hasEnded.toNat := by
  cases call with
  | access a => cases a <;> cases p <;> rfl
  | _ => cases p <;> rfl

theorem hasStarted_next_begin : (next p (.access .begin)).hasStarted = true := by cases p <;> rfl

theorem hasStarted_of_wins_finish {call : LifecycleCall} {caller : Nat} {p : Phase}
    (wins : (call.visit caller p).wins .finish = true) : p.hasStarted = true := by
  cases call with
  | access a => cases a <;> cases p <;> first | rfl | cases wins
  | _ => cases wins

theorem rank_le_latest : p.rank ≤ (call.visit caller p).latest.rank := by
  cases call with
  | access a => cases a <;> cases p <;> exact Nat.le_of_ble_eq_true rfl
  | _ => cases p <;> exact Nat.le_of_ble_eq_true rfl

theorem rank_earliest_le : (call.visit caller p).earliest.rank ≤ (call.next p).rank := by
  cases call with
  | access a => cases a <;> cases p <;> exact Nat.le_of_ble_eq_true rfl
  | _ => cases p <;> exact Nat.le_of_ble_eq_true rfl

end LifecycleCall

/-- A record that leads from one phase to another: each access finds the cell as the one before has
left it, and does what its call does there. -/
inductive Walk : Phase → List Visit → Phase → Prop
  | stay (p : Phase) : Walk p [] p
  | step {p q : Phase} {rest : List Visit} (caller : Nat) (call : LifecycleCall) :
      Walk (call.next p) rest q → Walk p (call.visit caller p :: rest) q

namespace Walk

variable {p q : Phase} {record : List Visit}

theorem snoc (walk : Walk p record q) (caller : Nat) (call : LifecycleCall) :
    Walk p (record ++ [call.visit caller q]) (call.next q) := by
  induction walk with
  | stay p => exact .step caller call (.stay _)
  | step first asked _ ih => exact .step first asked ih

theorem split {before after : List Visit} (walk : Walk p (before ++ after) q) :
    ∃ m, Walk p before m ∧ Walk m after q := by
  induction before generalizing p with
  | nil => exact ⟨p, .stay p, walk⟩
  | cons v before ih =>
    cases walk with
    | step caller call rest =>
      obtain ⟨m, first, second⟩ := ih rest
      exact ⟨m, .step caller call first, second⟩

theorem of_mem (walk : Walk p record q) {v : Visit} (mem : v ∈ record) :
    ∃ m, v = v.call.visit v.caller m := by
  obtain ⟨before, after, rfl⟩ := List.append_of_mem mem
  obtain ⟨m, -, here⟩ := walk.split
  cases here with
  | step => exact ⟨m, rfl⟩

theorem chained (walk : Walk p record q) :
    record.map Visit.held ++ [.of q] = .of p :: record.map Visit.left := by
  induction walk with
  | stay p => rfl
  | step caller call _ ih => exact congrArg (List.cons _) ih

theorem rank_le (walk : Walk p record q) : p.rank ≤ q.rank := by
  induction walk with
  | stay p => exact Nat.le_refl _
  | step caller call _ ih => exact Nat.le_trans (call.rank_next_le _) ih

/-- If every access keeps the balance between winning and what the phase has reached, then so does
the whole walk. -/
theorem balance (walk : Walk p record q) {wins : Visit → Bool} {reached : Phase → Bool}
    (kept : ∀ (call : LifecycleCall) (caller : Nat) (p : Phase),
      (wins (call.visit caller p)).toNat + (reached p).toNat = (reached (call.next p)).toNat) :
    record.countP wins + (reached p).toNat = (reached q).toNat := by
  induction walk with
  | stay p => exact Nat.zero_add _
  | @step p q rest caller call _ ih =>
    have one := kept call caller p
    cases won : wins (call.visit caller p) with
    | true =>
      rw [won, Bool.toNat_true] at one
      rw [List.countP_cons_of_pos won]
      omega
    | false =>
      rw [won, Bool.toNat_false] at one
      rw [List.countP_cons_of_neg (by simp [won])]
      omega

theorem begun (walk : Walk p record q) :
    record.countP (·.wins .begin) + p.hasStarted.toNat = q.hasStarted.toNat :=
  walk.balance LifecycleCall.wins_begin_visit

theorem finished (walk : Walk p record q) :
    record.countP (·.wins .finish) + p.hasEnded.toNat = q.hasEnded.toNat :=
  walk.balance LifecycleCall.wins_finish_visit

theorem pairwise (walk : Walk p record q) :
    record.Pairwise fun u v => u.earliest.rank ≤ v.latest.rank := by
  induction walk with
  | stay p => exact .nil
  | @step p q rest caller call walk ih =>
    refine .cons (fun v mem => ?_) ih
    obtain ⟨before, after, rfl⟩ := List.append_of_mem mem
    obtain ⟨m, between, here⟩ := walk.split
    cases here with
    | step later asked =>
      exact Nat.le_trans (call.rank_earliest_le caller p)
        (Nat.le_trans between.rank_le (asked.rank_le_latest later m))

theorem exists_begun (walk : Walk .initializing record q) (started : q.hasStarted = true) :
    ∃ v ∈ record, v.wins .begin = true := by
  have begun := walk.begun
  rw [started] at begun
  exact List.countP_pos_iff.mp (Nat.lt_of_lt_of_eq Nat.zero_lt_one begun.symm)

theorem hasStarted (walk : Walk p record q) (started : p.hasStarted = true) :
    q.hasStarted = true := by
  have begun := walk.begun
  rw [started] at begun
  cases later : q.hasStarted with
  | true => rfl
  | false =>
    rw [later] at begun
    cases begun

end Walk

namespace Race

/-- What is kept in a race: the record is a walk to the phase that the cell holds, and the calls of
a caller are those on record and those that it has yet to make. -/
structure Kept (todos : List (List LifecycleCall)) (r : Race) : Prop where
  walk : ∃ p, r.cell = .of p ∧ Walk .initializing r.record p
  calls : ∀ caller : Nat, (r.record.filter (·.caller = caller)).map Visit.call ++
    (r.todos[caller]?).getD [] = (todos[caller]?).getD []

namespace Kept

variable {todos : List (List LifecycleCall)} {r : Race}

theorem start (todos : List (List LifecycleCall)) : (Race.start todos).Kept todos :=
  ⟨⟨.initializing, rfl, .stay _⟩, fun _ => rfl⟩

theorem advance (kept : r.Kept todos) (caller : Nat) : (r.advance caller).Kept todos := by
  obtain ⟨⟨p, cell, walk⟩, calls⟩ := kept
  rw [Race.advance]
  split
  · rename_i call rest here
    rw [cell, LifecycleCall.perform_of]
    refine ⟨⟨_, rfl, walk.snoc caller call⟩, fun other => ?_⟩
    have before := calls other
    by_cases own : caller = other
    · subst own
      rw [here] at before
      simpa [List.getElem?_set, (List.getElem?_eq_some_iff.mp here).1] using before
    · simpa [List.getElem?_set, own] using before
  · exact ⟨⟨p, cell, walk⟩, calls⟩

theorem advanceAll (kept : r.Kept todos) (turns : List Nat) : (r.advanceAll turns).Kept todos := by
  induction turns generalizing r with
  | nil => exact kept
  | cons caller rest ih => exact ih (kept.advance caller)

end Kept

/-- Callers may race for the lifecycle in any number, with any calls and in any turns. The record
holds the calls of each caller in their order, and each did what it does with the cell that the one
before had left. At most one call begins the crawl and at most one ends it, and the end comes after
the beginning; if any caller has tried to begin, then one has. A refused call leaves the cell as it
was, and the phase it reports is the one that the cell held. What the replies tell of the phases
never goes back, from any access to any later one. -/
theorem goes_forward_once (todos : List (List LifecycleCall)) (turns : List Nat) :
    let r := (start todos).advanceAll turns
    (∀ caller : Nat, (r.record.filter (·.caller = caller)).map Visit.call ++
      (r.todos[caller]?).getD [] = (todos[caller]?).getD []) ∧
    r.record.map Visit.held ++ [r.cell] = LifecycleCell.new :: r.record.map Visit.left ∧
    (∀ v ∈ r.record, v.call.perform v.held = (v.reply, v.left)) ∧
    r.record.countP (·.wins .begin) ≤ 1 ∧ r.record.countP (·.wins .finish) ≤ 1 ∧
    (∀ before v after, r.record = before ++ v :: after → v.wins .finish = true →
      ∃ u ∈ before, u.wins .begin = true) ∧
    ((∃ v ∈ r.record, v.call = .access .begin) → ∃ v ∈ r.record, v.wins .begin = true) ∧
    (∀ v ∈ r.record, ∀ e, v.reply = .result (.error e) →
      v.left = v.held ∧ e.actual = v.held.current) ∧
    r.record.Pairwise fun u v => u.earliest.rank ≤ v.latest.rank := by
  obtain ⟨⟨p, cell, walk⟩, calls⟩ := (Kept.start todos).advanceAll turns
  intro r
  refine ⟨calls, cell ▸ walk.chained, ?performs, ?begins, ?finishes, ?after, ?some, ?refused,
    walk.pairwise⟩
  case performs =>
    intro v mem
    obtain ⟨m, made⟩ := walk.of_mem mem
    rw [made]
    exact v.call.perform_of m
  case begins => exact Nat.le_trans (Nat.le.intro walk.begun) (Bool.toNat_le _)
  case finishes => exact Nat.le_trans (Nat.le.intro walk.finished) (Bool.toNat_le _)
  case after =>
    intro before v after record wins
    rw [record] at walk
    obtain ⟨m, first, here⟩ := walk.split
    cases here with
    | step => exact first.exists_begun (LifecycleCall.hasStarted_of_wins_finish wins)
  case some =>
    rintro ⟨v, mem, asked⟩
    obtain ⟨before, after, record⟩ := List.append_of_mem mem
    have here := walk
    rw [record] at here
    obtain ⟨m, -, here⟩ := here.split
    cases here with
    | step caller call rest =>
      cases asked
      exact walk.exists_begun (rest.hasStarted (LifecycleCall.hasStarted_next_begin m))
  case refused =>
    intro v mem e refused
    obtain ⟨m, made⟩ := walk.of_mem mem
    rw [made] at refused ⊢
    obtain ⟨stays, reported⟩ := LifecycleCall.next_of_refused refused
    exact ⟨congrArg LifecycleCell.of stays, reported.trans (LifecycleCell.current_of m).symm⟩

end Race

end WebCrawl
