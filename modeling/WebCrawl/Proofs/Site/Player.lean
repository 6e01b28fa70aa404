import Mathlib.Data.Set.Finite.Basic
import WebCrawl.Proofs.Site.Conduct

/-!
# Crews that play a conduct

For a conduct that needs one component of each kind there is a crew that follows it. Its world is
the number of failures that are left, and its responses and carriers name the request they come
from.
-/

namespace WebCrawl

/-- A request whose fingerprint is made of the given scheme. -/
def Request.named (scheme : String) : Request :=
  .ofUrl ⟨scheme, some ⟨"", none, none, none⟩, "", none, none⟩

theorem Request.fingerprint_named (scheme : String) :
    (named scheme).fingerprint = scheme ++ "://" := by
  simp [named, ofUrl, fingerprint, target, Url.render, Url.withoutFragment, Url.isOpaque,
    Url.authorityText, Authority.render, Authority.userinfo, Authority.hostText,
    Authority.portText, String.append_assoc]

namespace Conduct

/-- One component of each kind is enough, and these requests are the discovered ones. -/
structure Playable (b : Conduct) (discovered : String → List Request) : Prop where
  downloader : ∀ u k, b.downloader u = some k → k = 0
  processor : ∀ u k, b.processor u = some k → k = 0
  subject : ∀ u, b.subject u = u
  links : ∀ u, (discovered u).map Request.fingerprint = b.links u
  stages : b.stages = 1

variable (b : Conduct) (discovered : String → List Request)

def playedDownloader : Downloader (String → Nat) where
  name := "downloader"
  supports r := .pure (b.downloader r.fingerprint = some 0)
  download r := fun _ left =>
    if left r.fingerprint = 0 then
      ⟨.returned (.ok (.new r (b.status r.fingerprint) [])), left, [], 0⟩
    else
      ⟨.returned (.error (.described "not yet")),
        Function.update left r.fingerprint (left r.fingerprint - 1), [], 0⟩
  close := .pure (.ok ())

def playedProcessor : Processor (String → Nat) where
  supports response := .pure (b.processor response.request.fingerprint = some 0)
  process response :=
    let u := response.request.fingerprint
    .pure ⟨response.request, b.fields u, discovered u⟩

def playedPipeline : Pipeline (String → Nat) where
  name := "pipeline"
  process c := .pure (b.passes 0 c.request.fingerprint)
  close := .pure (.ok ())

def players : Crew (String → Nat) :=
  ⟨[b.playedDownloader], [b.playedProcessor discovered], [b.playedPipeline]⟩

/-- Responses and carriers are read off the request they name. -/
def playedReading : Reading (String → Nat) where
  left n world := n = world
  answers u response := response.request.fingerprint = u
  yields u c := c.request.fingerprint = u

theorem steady_pure {α : Type} {a : α} {good : α → Prop} (h : good a) :
    playedReading.Steady (.pure a) good :=
  fun _ _ _ same => ⟨a, rfl, h, same⟩

variable {b discovered}

theorem download_played_of_ne (r : Request) (view : View) {left : String → Nat}
    (remains : left r.fingerprint ≠ 0) : b.playedDownloader.download r view left =
      ⟨.returned (.error (.described "not yet")),
        Function.update left r.fingerprint (left r.fingerprint - 1), [], 0⟩ :=
  if_neg remains

theorem download_played_of_eq (r : Request) (view : View) {left : String → Nat}
    (none_left : left r.fingerprint = 0) : b.playedDownloader.download r view left =
      ⟨.returned (.ok (.new r (b.status r.fingerprint) [])), left, [], 0⟩ :=
  if_pos none_left

theorem fetches_played (r : Request) : b.playedDownloader.Fetches b playedReading r where
  fails := by
    rintro view _ left rfl remains
    rw [download_played_of_ne r view remains]
    exact ⟨_, rfl, rfl⟩
  succeeds := by
    rintro view _ left rfl none_left
    rw [download_played_of_eq r view none_left]
    exact ⟨_, rfl, rfl, rfl, rfl⟩

theorem eq_of_getElem?_singleton {α : Type} {a x : α} {i : Nat} (h : [a][i]? = some x) :
    i = 0 ∧ x = a := by
  cases i with
  | zero => exact ⟨rfl, (Option.some.inj h).symm⟩
  | succ i => cases h

theorem follows_players (h : b.Playable discovered) :
    (b.players discovered).Follows b playedReading where
  downloader_lt u k chosen := by
    rw [h.downloader u k chosen]
    exact Nat.one_pos
  downloader_supports := by
    intro r i d known _
    obtain ⟨rfl, rfl⟩ := eq_of_getElem?_singleton known
    exact steady_pure rfl
  fetches := by
    intro r k d known _
    obtain ⟨-, rfl⟩ := eq_of_getElem?_singleton known
    exact fetches_played r
  processor_lt u k chosen := by
    rw [h.processor u k chosen]
    exact Nat.one_pos
  processor_supports := by
    rintro u response i p rfl known _
    obtain ⟨rfl, rfl⟩ := eq_of_getElem?_singleton known
    exact steady_pure rfl
  processes := by
    rintro u response k p rfl known _
    obtain ⟨-, rfl⟩ := eq_of_getElem?_singleton known
    exact steady_pure ⟨⟨rfl, (h.subject _).symm, rfl⟩, h.links _⟩
  stages := h.stages.symm
  pipes := by
    rintro u c k p rfl known
    obtain ⟨rfl, rfl⟩ := eq_of_getElem?_singleton known
    exact steady_pure rfl
  downloaders_close := by
    intro d hd
    rw [List.mem_singleton.mp hd]
    exact steady_pure trivial
  pipelines_close := by
    intro p hp
    rw [List.mem_singleton.mp hp]
    exact steady_pure trivial

/-- Two pages in a circle. The first also links to itself, and to the second twice; the second can
be fetched at the third attempt only, and its carrier is held back. -/
def circle : Conduct where
  downloader _ := some 0
  failures u := if u = "b://" then 2 else 0
  status _ := 200
  processor _ := some 0
  subject u := u
  fields _ := .empty
  links u := if u = "a://" then ["a://", "b://", "b://"] else ["a://"]
  stages := 1
  passes _ u := u == "a://"

def circleLinks (u : String) : List Request :=
  if u = "a://" then [.named "a", .named "b", .named "b"] else [.named "a"]

theorem playable_circle : circle.Playable circleLinks where
  downloader u k h := (Option.some.inj h).symm
  processor u k h := (Option.some.inj h).symm
  subject _ := rfl
  links u := by
    unfold circleLinks circle
    by_cases first : u = "a://" <;> simp [first, Request.fingerprint_named]
  stages := rfl

theorem eq_of_reachable_circle {u : String} (h : circle.Reachable ["a://"] u) :
    u = "a://" ∨ u = "b://" := by
  cases h with
  | seed h => exact .inl (List.mem_singleton.mp h)
  | @link page u _ _ _ h =>
    unfold circle at h
    by_cases first : page = "a://"
    · simpa [first] using h
    · simp only [if_neg first, List.mem_singleton] at h
      exact .inl h

theorem finite_circle :
    {u | circle.Reachable ([Request.named "a"].map Request.fingerprint) u}.Finite := by
  rw [List.map_singleton, Request.fingerprint_named]
  exact (Set.toFinite {"a://", "b://"}).subset fun u h => eq_of_reachable_circle h

end Conduct

end WebCrawl
