import Catalog.Proofs.Sessions

set_option autoImplicit false

namespace Catalog

def listedItems (answer : Answer) : List ContentItem :=
  match orBlank .blank (readBody (readJson ContentEntries.schema.read) (answer.bind Response.outcome)) with
  | .ok entries => entries.items
  | .error _ => []

-- The items that a session was given: those that its third answer lists.
def receivedItems (answers : List Answer) : List ContentItem :=
  match answers[2]? with
  | some answer => listedItems answer
  | none => []

theorem listedItems_of_gives {config : Config} {locator : Locator} {answer : Answer} {entries : ContentEntries}
    (given : (config.entriesCall locator).Gives answer entries) : listedItems answer = entries.items := by
  have outcome : orBlank .blank (readBody (readJson ContentEntries.schema.read) (answer.bind Response.outcome)) =
      .ok entries := (Call.outcome_eq_ok_iff _ _ _).2 given
  simp [listedItems, outcome]

structure Confined (directory : String) (items : List ContentItem) (before after : Tree) : Prop where
  home : after.home = before.home
  files : ∀ place, after.fileAt? place ≠ before.fileAt? place →
    ∃ item ∈ items, place = item.place before directory
  directories : ∀ place, after.at? place = some .directory → before.at? place ≠ some .directory →
    ∃ item ∈ items, item.OnWay before directory place
  kept : before.Keeps after

theorem Confined.refl (directory : String) (items : List ContentItem) (tree : Tree) :
    Confined directory items tree tree where
  home := rfl
  files := fun _ changed => absurd rfl changed
  directories := fun _ present absent => absurd present absent
  kept := .refl tree

theorem confined_of_grown {directory : String} {items : List ContentItem} {before after : Tree}
    (grown : Tree.Grown (before.Places directory items) (before.Ways directory items) before after) :
    Confined directory items before after where
  home := grown.home
  files := by
    intro place changed
    by_contra apart
    exact changed (grown.fileAt? apart)
  directories := by
    intro place present absent
    rcases grown.change place with same | ⟨-, -, bytes, written⟩ | ⟨onWay, -⟩
    · exact absurd (same ▸ present) absent
    · rw [present] at written
      cases written
    · exact onWay
  kept := grown.keeps

theorem Channel.Sent.drop_answers {before after : Channel} {calls : List (Request × Answer)}
    (sent : before.Sent calls after) : after.answers.drop before.answers.length = calls.map Prod.snd := by
  simp [sent.answers]

/-- However a session ends, the files are changed only where the items that it was given belong. -/
theorem World.runSession_confined (config : Config) (span : Span) (options : SearchOptions) (start : World) :
    Confined options.directory
      (receivedItems ((runSession config span options start).2.channel.answers.drop start.channel.answers.length))
      start.tree (runSession config span options start).2.tree := by
  have ended := runSession_ends config span options start
  generalize (runSession config span options start).2 = final at ended ⊢
  cases ended with
  | greeting answer _ sent tree =>
    rw [tree]
    exact .refl _ _ _
  | searching first second name terminal _ greeted sent tree =>
    rw [tree]
    exact .refl _ _ _
  | choosing first second name terminal results index chosen ended _ greeted given picked sent tree download
      sameChannel sameTree =>
    rw [sameChannel, sameTree, ← tree]
    cases download with
    | unlocated absent => exact .refl _ _ _
    | unlisted locator answer channel error located asked failed => exact .refl _ _ _
    | listed locator answer channel entries _ located asked listed downloads =>
      -- Two calls came before the one for the entries, so its answer is the third.
      obtain ⟨calls, later, -⟩ := Course.of_downloads chosen.tree downloads
      have answers := ((sent.trans asked).trans later).drop_answers
      have items : receivedItems (ended.2.channel.answers.drop start.channel.answers.length) = entries.items := by
        rw [answers]
        exact listedItems_of_gives listed
      rw [items]
      exact confined_of_grown downloads.grown

end Catalog
