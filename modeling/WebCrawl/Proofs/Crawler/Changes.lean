import WebCrawl.Crawler.Basic

/-!
# Changes that are granted

A change to a crawler is granted or refused, and what a granted one does is settled by the change.
-/

namespace WebCrawl

namespace Change

variable {S σ : Type} [Frontier S] {c c' : Crawler S σ} {ch : Change S σ} {g : Granted σ}

/-- What a change that is granted does to a crawler. -/
inductive Grants (c : Crawler S σ) : Change S σ → Granted σ → Crawler S σ → Prop where
  | downloader (d : Downloader σ) :
      Grants c (.downloader d) .done { c with crew := c.crew.withDownloader d }
  | processor (p : Processor σ) :
      Grants c (.processor p) .done { c with crew := c.crew.withProcessor p }
  | pipeline (p : Pipeline σ) :
      Grants c (.pipeline p) .done { c with crew := c.crew.withPipeline p }
  | seed (r : Request) :
      Grants c (.seed r) (.admitted (c.core.push r).1.accepted)
        { c with core := (c.core.push r).2 }
  | frontier (f : S) :
      Grants c (.frontier f) .done { c with core := { c.core with frontier := f } }
  | start : Grants c .start (.begun c.crew) ⟨{ c.core with phase := .running }, .empty⟩

theorem grants_of_apply (h : ch.apply c = .ok (g, c')) : Grants c ch g c' := by
  cases ch with
  | downloader d =>
    simp only [apply] at h
    rcases room : c.checkRoom with e | _
    · rw [room] at h
      cases h
    · rw [room] at h
      cases h
      exact .downloader d
  | processor p =>
    cases h
    exact .processor p
  | pipeline p =>
    cases h
    exact .pipeline p
  | seed r =>
    cases h
    exact .seed r
  | frontier f =>
    cases h
    exact .frontier f
  | start =>
    simp only [apply, Crawler.begin] at h
    rcases complete : c.checkCrew with e | _
    · rw [complete] at h
      cases h
    · by_cases initializing : c.phase = .initializing
      · rw [complete, initializing, Phase.begin_initializing] at h
        cases h
        exact .start
      · rw [complete, Phase.begin, Phase.transition_of_ne initializing] at h
        cases h

end Change

namespace Crawler

variable {S σ : Type} [Frontier S] {c c' : Crawler S σ} {ch : Change S σ} {g : Granted σ}

theorem change_of_error {e : CrawlError} (initializing : c.phase = .initializing)
    (applied : ch.apply c = .error e) : c.change ch = (.error e, c) := by
  simp only [change, Phase.ensureInitializing, Phase.ensure, if_pos initializing, applied]

theorem change_of_ok (initializing : c.phase = .initializing)
    (applied : ch.apply c = .ok (g, c')) : c.change ch = (.ok g, c') := by
  simp only [change, Phase.ensureInitializing, Phase.ensure, if_pos initializing, applied]

theorem grants_of_change (h : c.change ch = (.ok g, c')) :
    c.phase = .initializing ∧ ch.Grants c g c' := by
  by_cases initializing : c.phase = .initializing
  · rcases applied : ch.apply c with e | ⟨g', now⟩
    · rw [change_of_error initializing applied] at h
      cases h
    · rw [change_of_ok initializing applied] at h
      cases h
      exact ⟨initializing, Change.grants_of_apply applied⟩
  · rw [change_of_ne initializing] at h
    cases h

theorem grants_of_changed (h : c.changed ch = .ok c') : ∃ g, ch.Grants c g c' := by
  unfold changed at h
  rcases made : c.change ch with ⟨e | g, next⟩
  · rw [made] at h
    cases h
  · rw [made] at h
    cases h
    exact ⟨g, (grants_of_change made).2⟩

theorem changed_of_changeAll {rest : List (Change S σ)} (h : c.changeAll (ch :: rest) = .ok c') :
    ∃ next, c.changed ch = .ok next ∧ next.changeAll rest = .ok c' := by
  rw [changeAll] at h
  rcases first : c.changed ch with e | next
  · rw [first] at h
    cases h
  · rw [first] at h
    exact ⟨next, rfl, h⟩

end Crawler

end WebCrawl
