import Mathlib.Order.Lattice.Nat
import WebCrawl.Proofs.Site.Ledger

/-!
# The levels of a site

The distance of a fingerprint is the least number of links to follow from a seed to it. What follows
is about two lists only: the fingerprints that were served, in order, and those that wait in line.
If everything discovered on a page that is served goes to the end of the line, each fingerprint
once, then the distances never fall along both lists, and those in line differ by at most one.
-/

namespace WebCrawl

namespace Conduct

variable {b : Conduct} {seeds : List String} {n : Nat} {u v : String}

/-- There is a chain of so many links from a seed; links count where the page is fetched and
processed. -/
inductive ReachableIn (b : Conduct) (seeds : List String) : Nat → String → Prop where
  | seed {u : String} (h : u ∈ seeds) : ReachableIn b seeds 0 u
  | link {n : Nat} {u v : String} (page : ReachableIn b seeds n u) (h : v ∈ b.discoveries u) :
      ReachableIn b seeds (n + 1) v

theorem mem_discoveries : v ∈ b.discoveries u ↔
    (b.downloader u).isSome = true ∧ (b.processor u).isSome = true ∧ v ∈ b.links u := by
  unfold discoveries
  cases b.downloader u <;> cases b.processor u <;> simp

theorem ReachableIn.reachable (h : b.ReachableIn seeds n u) : b.Reachable seeds u := by
  induction h with
  | seed h => exact .seed h
  | link _ h ih => exact ih.of_discoveries h

theorem Reachable.exists_length (h : b.Reachable seeds u) : ∃ n, b.ReachableIn seeds n u := by
  induction h with
  | seed h => exact ⟨0, .seed h⟩
  | link _ supported processed h ih =>
    obtain ⟨n, page⟩ := ih
    exact ⟨n + 1, .link page (mem_discoveries.mpr ⟨supported, processed, h⟩)⟩

/-- The length of a shortest chain of links from a seed. -/
noncomputable def distance (b : Conduct) (seeds : List String) (u : String) : Nat :=
  sInf {n | b.ReachableIn seeds n u}

theorem distance_le (h : b.ReachableIn seeds n u) : b.distance seeds u ≤ n := Nat.sInf_le h

theorem reachableIn_distance (h : b.Reachable seeds u) :
    b.ReachableIn seeds (b.distance seeds u) u :=
  Nat.sInf_mem (s := {n | b.ReachableIn seeds n u}) h.exists_length

theorem distance_of_seed (h : u ∈ seeds) : b.distance seeds u = 0 :=
  Nat.le_zero.mp (distance_le (.seed h))

theorem distance_le_succ (h : b.Reachable seeds u) (link : v ∈ b.discoveries u) :
    b.distance seeds v ≤ b.distance seeds u + 1 :=
  distance_le (.link (reachableIn_distance h) link)

theorem exists_nearer (h : b.Reachable seeds v) (discovered : v ∉ seeds) :
    ∃ u, b.Reachable seeds u ∧ v ∈ b.discoveries u ∧
      b.distance seeds u + 1 ≤ b.distance seeds v := by
  have shortest := reachableIn_distance h
  generalize b.distance seeds v = n at shortest ⊢
  cases shortest with
  | seed seed => exact absurd seed discovered
  | link page link =>
    have nearer := distance_le page
    exact ⟨_, page.reachable, link, by omega⟩

/-- These fingerprints were served, and all that is known besides waits in line. -/
structure Explored (b : Conduct) (seeds served line : List String) : Prop where
  nodup : (served ++ line).Nodup
  known : ∀ v, v ∈ served ++ line ↔ v ∈ seeds ∨ ∃ u ∈ served, v ∈ b.discoveries u
  reachable : ∀ v ∈ served ++ line, b.Reachable seeds v

theorem Explored.mem_line {served line : List String} (h : b.Explored seeds served line)
    (unserved : v ∉ served) (known : v ∈ seeds ∨ ∃ u ∈ served, v ∈ b.discoveries u) :
    v ∈ line :=
  (List.mem_append.mp ((h.known v).mpr known)).resolve_left unserved

theorem Explored.exists_pending {served line : List String} (h : b.Explored seeds served line)
    (chain : b.ReachableIn seeds n v) (unserved : v ∉ served) :
    ∃ w ∈ line, b.distance seeds w ≤ n := by
  -- Along the chain, the first page that was not served is in line.
  induction chain with
  | seed seed => exact ⟨_, h.mem_line unserved (.inl seed), distance_le (.seed seed)⟩
  | @link n page v chain link ih =>
    by_cases visited : page ∈ served
    · exact ⟨v, h.mem_line unserved (.inr ⟨page, visited, link⟩), distance_le (.link chain link)⟩
    · obtain ⟨w, waiting, near⟩ := ih visited
      exact ⟨w, waiting, by omega⟩

structure Levels (b : Conduct) (seeds served line : List String) : Prop where
  explored : b.Explored seeds served line
  sorted : (served ++ line).Pairwise fun u v => b.distance seeds u ≤ b.distance seeds v
  span : ∀ u ∈ line, ∀ v ∈ line, b.distance seeds v ≤ b.distance seeds u + 1

namespace Levels

variable {served line rest new : List String}

theorem opening (h : b.Explored seeds [] line) : b.Levels seeds [] line := by
  have near : ∀ v ∈ line, b.distance seeds v = 0 := by
    intro v waiting
    rcases (h.known v).mp waiting with seed | ⟨u, served, -⟩
    · exact distance_of_seed seed
    · cases served
  refine ⟨h, ?_, ?_⟩
  · apply List.pairwise_of_forall_mem_list
    intro u hu v hv
    rw [near u hu, near v hv]
  · intro u hu v hv
    rw [near u hu, near v hv]
    exact Nat.zero_le _

theorem distance_head_le (h : b.Levels seeds served (u :: rest)) (reachable : b.Reachable seeds v)
    (unserved : v ∉ served) : b.distance seeds u ≤ b.distance seeds v := by
  obtain ⟨w, waiting, near⟩ :=
    h.explored.exists_pending (reachableIn_distance reachable) unserved
  have head : b.distance seeds u ≤ b.distance seeds w := by
    rcases List.mem_cons.mp waiting with rfl | later
    · exact Nat.le_refl _
    · exact List.rel_of_pairwise_cons (List.pairwise_append.mp h.sorted).2.1 later
  exact head.trans near

theorem distance_discovered (h : b.Levels seeds served (u :: rest))
    (next : b.Explored seeds (served ++ [u]) (rest ++ new)) (hv : v ∈ new) :
    b.distance seeds v = b.distance seeds u + 1 := by
  have same : served ++ [u] ++ (rest ++ new) = served ++ (u :: rest) ++ new := by simp
  have nodup := next.nodup
  have known := next.known v
  have reachable := next.reachable
  rw [same] at nodup known reachable
  have late : v ∉ served ++ u :: rest := fun early =>
    (List.disjoint_of_nodup_append nodup) early hv
  have unknown : ∀ page ∈ served, v ∉ b.discoveries page := by
    intro page visited link
    exact late ((h.explored.known v).mpr (.inr ⟨page, visited, link⟩))
  have no_seed : v ∉ seeds := fun seed => late ((h.explored.known v).mpr (.inl seed))
  apply Nat.le_antisymm
  · obtain ⟨page, visited, link⟩ :=
      (known.mp (List.mem_append_right _ hv)).resolve_left no_seed
    rcases List.mem_append.mp visited with visited | last
    · exact absurd link (unknown page visited)
    · rw [List.mem_singleton.mp last] at link
      exact distance_le_succ (h.explored.reachable u (by simp)) link
  · obtain ⟨page, found, link, nearer⟩ :=
      exists_nearer (reachable v (List.mem_append_right _ hv)) no_seed
    have unserved : page ∉ served := fun visited => unknown page visited link
    have first := h.distance_head_le found unserved
    omega

theorem serve (h : b.Levels seeds served (u :: rest))
    (next : b.Explored seeds (served ++ [u]) (rest ++ new)) :
    b.Levels seeds (served ++ [u]) (rest ++ new) := by
  have beyond : ∀ v ∈ new, b.distance seeds v = b.distance seeds u + 1 :=
    fun v hv => h.distance_discovered next hv
  have within : ∀ v ∈ rest,
      b.distance seeds u ≤ b.distance seeds v ∧ b.distance seeds v ≤ b.distance seeds u + 1 := by
    intro v hv
    refine ⟨?_, h.span u List.mem_cons_self v (List.mem_cons_of_mem u hv)⟩
    exact List.rel_of_pairwise_cons (List.pairwise_append.mp h.sorted).2.1 hv
  refine ⟨next, ?_, ?_⟩
  · have same : served ++ [u] ++ (rest ++ new) = served ++ (u :: rest) ++ new := by simp
    -- The old lists are sorted; the new pages are all at one distance, the greatest in sight.
    rw [same, List.pairwise_append]
    refine ⟨h.sorted, ?_, ?_⟩
    · apply List.pairwise_of_forall_mem_list
      intro v hv w hw
      rw [beyond v hv, beyond w hw]
    · intro v hv w hw
      rw [beyond w hw]
      rcases List.mem_append.mp hv with visited | waiting
      · have before := (List.pairwise_append.mp h.sorted).2.2 v visited u List.mem_cons_self
        omega
      · exact h.span u List.mem_cons_self v waiting
  · have near : ∀ v ∈ rest ++ new, b.distance seeds u ≤ b.distance seeds v ∧
        b.distance seeds v ≤ b.distance seeds u + 1 := by
      intro v hv
      rcases List.mem_append.mp hv with old | late
      · exact within v old
      · have far := beyond v late
        omega
    intro v hv w hw
    have low := (near v hv).1
    have high := (near w hw).2
    omega

theorem mem_served (h : b.Levels seeds served line) (visited : u ∈ served)
    (reachable : b.Reachable seeds v) (nearer : b.distance seeds v < b.distance seeds u) :
    v ∈ served := by
  by_contra unserved
  obtain ⟨w, waiting, near⟩ :=
    h.explored.exists_pending (reachableIn_distance reachable) unserved
  have sorted := (List.pairwise_append.mp h.sorted).2.2 u visited w waiting
  omega

theorem mem_served_of_dry (h : b.Levels seeds served []) (reachable : b.Reachable seeds v) :
    v ∈ served := by
  by_contra unserved
  obtain ⟨w, waiting, -⟩ :=
    h.explored.exists_pending (reachableIn_distance reachable) unserved
  cases waiting

end Levels

end Conduct

end WebCrawl
