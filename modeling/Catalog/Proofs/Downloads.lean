import Mathlib.Data.List.Forall2
import Catalog.Proofs.Stages

set_option autoImplicit false

namespace Catalog

namespace Tree

def saveAll (directory : String) : Tree → List (ContentItem × List UInt8) → Option Tree
  | tree, [] => some tree
  | tree, (item, bytes) :: rest =>
    match tree.save item directory bytes with
    | (.ok _, saved) => saveAll directory saved rest
    | (.error _, _) => none

theorem saveAll_append (directory : String) (tree : Tree) (front back : List (ContentItem × List UInt8)) :
    tree.saveAll directory (front ++ back) = (tree.saveAll directory front).bind (saveAll directory · back) := by
  induction front generalizing tree with
  | nil => rfl
  | cons entry rest ih =>
    obtain ⟨item, bytes⟩ := entry
    rcases result : tree.save item directory bytes with ⟨_ | path, saved⟩
    · simp [saveAll, result]
    · simp [saveAll, result, ih]

def Places (tree : Tree) (directory : String) (items : List ContentItem) (place : Place) : Prop :=
  ∃ item ∈ items, place = item.place tree directory

def Ways (tree : Tree) (directory : String) (items : List ContentItem) (place : Place) : Prop :=
  ∃ item ∈ items, item.OnWay tree directory place

section

variable (tree : Tree) (directory : String) (item : ContentItem) (rest : List ContentItem) (place : Place)

@[simp] theorem not_places_nil : ¬ tree.Places directory [] place := by
  simp [Places]

@[simp] theorem not_ways_nil : ¬ tree.Ways directory [] place := by
  simp [Ways]

@[simp] theorem places_cons :
    tree.Places directory (item :: rest) place ↔
      place = item.place tree directory ∨ tree.Places directory rest place := by
  simp [Places]

@[simp] theorem ways_cons :
    tree.Ways directory (item :: rest) place ↔
      item.OnWay tree directory place ∨ tree.Ways directory rest place := by
  simp [Ways]

end

theorem places_eq {tree other : Tree} (home : other.home = tree.home) (directory : String) (items : List ContentItem) :
    other.Places directory items = tree.Places directory items := by
  funext place
  simp [Places, place_eq home]

theorem ways_eq {tree other : Tree} (home : other.home = tree.home) (directory : String) (items : List ContentItem) :
    other.Ways directory items = tree.Ways directory items := by
  funext place
  simp [Ways, onWay_eq home]

theorem saveAll_grown {tree saved : Tree} {directory : String} {done : List (ContentItem × List UInt8)}
    (stored : tree.saveAll directory done = some saved) :
    Grown (tree.Places directory (done.map Prod.fst)) (tree.Ways directory (done.map Prod.fst)) tree saved := by
  induction done generalizing tree with
  | nil =>
    obtain rfl := Option.some.inj stored
    exact .refl _ _ tree
  | cons entry rest ih =>
    obtain ⟨item, bytes⟩ := entry
    have first := save_grown tree item directory bytes
    rcases result : tree.save item directory bytes with ⟨_ | path, next⟩
    · simp [saveAll, result] at stored
    simp only [saveAll, result] at stored
    rw [result] at first
    have later := ih stored
    rw [places_eq first.home, ways_eq first.home] at later
    refine (first.mono ?_ ?_).trans (later.mono ?_ ?_)
    · intro place here
      exact (places_cons ..).2 (.inl here.1)
    · intro place onWay
      exact (ways_cons ..).2 (.inl onWay)
    · intro place there
      exact (places_cons ..).2 (.inr there)
    · intro place onWay
      exact (ways_cons ..).2 (.inr onWay)

end Tree

def Config.Delivers (config : Config) (locator : Locator) (entry : ContentItem × List UInt8)
    (call : Request × Answer) : Prop :=
  call.1 = (config.downloadCall locator entry.1).request config ∧
    (config.downloadCall locator entry.1).Gives call.2 entry.2

structure Downloaded (config : Config) (locator : Locator) (directory : String)
    (done : List (ContentItem × List UInt8)) (before after : World) : Prop where
  calls : ∃ calls, List.Forall₂ (config.Delivers locator) done calls ∧ before.channel.Sent calls after.channel
  tree : before.tree.saveAll directory done = some after.tree
  terminal : after.terminal = before.terminal.shows (done.map fun entry => savedLine entry.1 entry.2)

inductive Missed (config : Config) (locator : Locator) (directory : String) (item : ContentItem) (before : World) :
    Failure → World → Prop where
  | download (answer : Answer) (error : Error) (channel : Channel)
    (sent : before.channel.Sent [((config.downloadCall locator item).request config, answer)] channel)
    (failed : (config.downloadCall locator item).outcome answer = .error error) :
    Missed config locator directory item before (.exchange (.download item.path) error) { before with channel }
  | save (answer : Answer) (bytes : List UInt8) (channel : Channel) (fault : SaveFault) (tree : Tree)
    (sent : before.channel.Sent [((config.downloadCall locator item).request config, answer)] channel)
    (given : (config.downloadCall locator item).Gives answer bytes)
    (failed : before.tree.save item directory bytes = (.error fault, tree)) :
    Missed config locator directory item before (.save fault) { before with channel, tree }

section

variable {config : Config} {locator : Locator} {directory : String}

theorem Downloaded.nil (world : World) : Downloaded config locator directory [] world world :=
  ⟨⟨[], .nil, .refl _⟩, rfl, by simp [Terminal.shows]⟩

theorem Downloaded.append {front back : List (ContentItem × List UInt8)} {before between after : World}
    (first : Downloaded config locator directory front before between)
    (later : Downloaded config locator directory back between after) :
    Downloaded config locator directory (front ++ back) before after := by
  obtain ⟨⟨calls, delivered, sent⟩, tree, terminal⟩ := first
  obtain ⟨⟨more, others, continued⟩, laterTree, laterTerminal⟩ := later
  refine ⟨⟨calls ++ more, List.rel_append delivered others, sent.trans continued⟩, ?_, ?_⟩
  · rw [Tree.saveAll_append, tree]
    exact laterTree
  · simp [laterTerminal, terminal, Terminal.shows]

end

inductive Downloads (config : Config) (locator : Locator) (directory : String) (items : List ContentItem)
    (before : World) : Except Failure (List (String × Nat)) × World → Prop where
  | finished (done : List (ContentItem × List UInt8)) (after : World) (all : done.map Prod.fst = items)
    (downloaded : Downloaded config locator directory done before after) :
    Downloads config locator directory items before
      (.ok (done.map fun entry => (entry.1.target directory, entry.2.length)), after)
  | stopped (done : List (ContentItem × List UInt8)) (item : ContentItem) (rest : List ContentItem) (between : World)
    (failure : Failure) (after : World) (cut : items = done.map Prod.fst ++ item :: rest)
    (downloaded : Downloaded config locator directory done before between)
    (missed : Missed config locator directory item between failure after) :
    Downloads config locator directory items before (.error failure, after)

section

variable {config : Config} {locator : Locator} {directory : String}

theorem Missed.sent {item : ContentItem} {before after : World} {failure : Failure}
    (missed : Missed config locator directory item before failure after) :
    ∃ answer, before.channel.Sent [((config.downloadCall locator item).request config, answer)] after.channel := by
  cases missed with
  | download answer error channel sent failed => exact ⟨answer, sent⟩
  | save answer bytes channel fault tree sent given failed => exact ⟨answer, sent⟩

theorem Missed.terminal {item : ContentItem} {before after : World} {failure : Failure}
    (missed : Missed config locator directory item before failure after) : after.terminal = before.terminal := by
  cases missed with
  | download => rfl
  | save => rfl

theorem Missed.grown {item : ContentItem} {before after : World} {failure : Failure}
    (missed : Missed config locator directory item before failure after) :
    Tree.Grown (fun _ => False) (item.OnWay before.tree directory) before.tree after.tree := by
  cases missed with
  | download => exact .refl _ _ _
  | save answer bytes channel fault tree sent given failed =>
    have grown := Tree.save_grown before.tree item directory bytes
    rw [failed] at grown
    exact grown.mono (fun _ saved => by cases saved.2) (fun _ => id)

theorem Downloads.grown {items : List ContentItem} {before : World}
    {result : Except Failure (List (String × Nat)) × World}
    (ended : Downloads config locator directory items before result) :
    Tree.Grown (before.tree.Places directory items) (before.tree.Ways directory items) before.tree result.2.tree := by
  cases ended with
  | finished done after all downloaded => exact all ▸ Tree.saveAll_grown downloaded.tree
  | stopped done item rest between failure after cut downloaded missed =>
    have earlier := Tree.saveAll_grown downloaded.tree
    have last := missed.grown
    rw [Tree.onWay_eq earlier.home] at last
    refine (earlier.mono ?_ ?_).trans (last.mono (fun _ => False.elim) ?_)
    · rintro place ⟨other, member, same⟩
      exact ⟨other, by simp [cut, member], same⟩
    · rintro place ⟨other, member, onWay⟩
      exact ⟨other, by simp [cut, member], onWay⟩
    · intro place onWay
      exact ⟨item, by simp [cut], onWay⟩

end

inductive Download (config : Config) (choice : SearchResult) (directory : String) (before : World) :
    Except Failure (List (String × Nat)) × World → Prop where
  | unlocated (absent : choice.locator? = none) :
    Download config choice directory before (.error (.noLocator choice.label), before)
  | unlisted (locator : Locator) (answer : Answer) (channel : Channel) (error : Error)
    (located : choice.locator? = some locator)
    (sent : before.channel.Sent [((config.entriesCall locator).request config, answer)] channel)
    (failed : (config.entriesCall locator).outcome answer = .error error) :
    Download config choice directory before
      (.error (.exchange (.entries locator.id) error), { before with channel })
  | listed (locator : Locator) (answer : Answer) (channel : Channel) (entries : ContentEntries)
    (result : Except Failure (List (String × Nat)) × World) (located : choice.locator? = some locator)
    (sent : before.channel.Sent [((config.entriesCall locator).request config, answer)] channel)
    (given : (config.entriesCall locator).Gives answer entries)
    (ended : Downloads config locator directory entries.items { before with channel } result) :
    Download config choice directory before result

namespace World

variable (config : Config) (span : Span) (locator : Locator) (directory : String)

theorem runDownloads_one (item : ContentItem) (world : World) :
    (∃ bytes after, Downloaded config locator directory [(item, bytes)] world after ∧
        perform (downloadItem ((World.client config).withSpan span) console disk locator directory item) world =
          (.ok (item.target directory, bytes.length), after)) ∨
      ∃ failure after, Missed config locator directory item world failure after ∧
        perform (downloadItem ((World.client config).withSpan span) console disk locator directory item) world =
          (.error failure, after) := by
  rw [perform_downloadItem]
  obtain ⟨answer, sent, result⟩ := world.channel.ask_sent config span (config.downloadCall locator item)
  rcases asked : world.channel.ask config span (config.downloadCall locator item) with ⟨error | bytes, channel⟩
  · rw [asked] at sent result
    exact .inr ⟨_, _, .download answer error channel sent result.symm, rfl⟩
  rw [asked] at sent result
  have given := (Call.outcome_eq_ok_iff _ _ _).1 result.symm
  rcases saved : world.tree.save item directory bytes with ⟨fault | path, tree⟩
  · exact .inr ⟨_, _, .save answer bytes channel fault tree sent given saved, by simp [saved]⟩
  · have target := (Tree.save_eq_ok_iff.1 saved).2.1
    let after : World :=
      ⟨channel.record (savedEvent path bytes.length), world.terminal.print (savedLine item bytes), tree⟩
    have logged := sent.trans (channel.sent_record (savedEvent path bytes.length))
    refine .inl ⟨bytes, after, ⟨⟨_, .cons ⟨rfl, given⟩ .nil, logged⟩, ?_, rfl⟩, ?_⟩
    · simp [Tree.saveAll, saved, after]
    · simp [saved, target, after]

theorem runDownloads_ends (items : List ContentItem) (world : World) :
    Downloads config locator directory items world (runDownloads config span locator directory items world) := by
  induction items generalizing world with
  | nil => exact .finished [] world rfl (.nil world)
  | cons item rest ih =>
    rw [runDownloads_cons]
    rcases runDownloads_one config span locator directory item world with
      ⟨bytes, next, first, result⟩ | ⟨failure, after, missed, result⟩
    · simp only [result]
      have later := ih next
      generalize runDownloads config span locator directory rest next = ended at later
      cases later with
      | finished done after all downloaded =>
        exact .finished ((item, bytes) :: done) after (by simp [all]) (first.append downloaded)
      | stopped done other others between failure after cut downloaded missed =>
        exact .stopped ((item, bytes) :: done) other others between failure after (by simp [cut])
          (first.append downloaded) missed
    · simp only [result]
      exact .stopped [] item rest world failure after rfl (.nil world) missed

theorem runDownload_ends (choice : SearchResult) (world : World) :
    Download config choice directory world (runDownload config span choice directory world) := by
  rw [runDownload_eq]
  cases located : choice.locator? with
  | none => exact .unlocated located
  | some locator =>
    obtain ⟨answer, sent, result⟩ := world.channel.ask_sent config span (config.entriesCall locator)
    rcases asked : world.channel.ask config span (config.entriesCall locator) with ⟨error | entries, channel⟩
    · rw [asked] at sent result
      simp only [asked]
      exact .unlisted locator answer channel error located sent result.symm
    · rw [asked] at sent result
      simp only [asked]
      have given := (Call.outcome_eq_ok_iff _ _ _).1 result.symm
      exact .listed locator answer channel entries _ located sent given
        (runDownloads_ends config span locator directory entries.items { world with channel })

end World

namespace Sample

def config : Config := ⟨"", ⟨⟨1, 0⟩, by decide⟩, none, ""⟩

def span : Span := clientSpan config

def options : SearchOptions := ⟨none, "d64", "games", "out"⟩

def choice : SearchResult := ⟨some "7", some 1, "x", none⟩

def world (answers : List Answer) : World :=
  ⟨.new (.scripted answers (.error (.config .zeroTimeout))), ⟨true, [], [], []⟩, ⟨[], []⟩⟩

def found : Answer := .ok ⟨200, "OK", Utf8.encode "[[\"7\",1,\"x\",null],[\"8\",2,\"y\",null]]".toList⟩

def listing : Answer := .ok ⟨200, "OK", Utf8.encode "[[[1,\"a\"],[2,\"b\"]]]".toList⟩

def bytes (body : List UInt8) : Answer := .ok ⟨200, "OK", body⟩

-- The second item does not come.
def broken : World := world [listing, bytes [1, 2]]

-- Both items come, the first with other bytes than before.
def whole : World := world [listing, bytes [3], bytes [4, 5]]

end Sample

end Catalog
