import Catalog.Proofs.Finished

set_option autoImplicit false

namespace Catalog

structure Unfinished (config : Config) (locator : Locator) (directory : String)
    (done : List (ContentItem × List UInt8)) (item : ContentItem) (rest : List ContentItem) (start : World)
    (failure : Failure) (final : World) : Prop where
  -- All but the last answer gave the bytes.
  asked : ∃ calls answer, List.Forall₂ (config.Delivers locator) done calls ∧
    start.channel.Sent (calls ++ [((config.downloadCall locator item).request config, answer)]) final.channel
  shown : final.terminal = start.terminal.shows (done.map fun entry => savedLine entry.1 entry.2)
  stored : ∃ saved, start.tree.saveAll directory done = some saved ∧
    Tree.Grown (fun _ => False) (item.OnWay start.tree directory) saved final.tree ∧
    ((∃ error, failure = .exchange (.download item.path) error ∧ final.tree = saved) ∨
      ∃ bytes fault, failure = .save fault ∧ saved.save item directory bytes = (.error fault, final.tree))
  files : ∀ entry ∈ done, ∃ bytes, lastBytes? done entry.1.names = some bytes ∧
    final.tree.read? (entry.1.target directory) = some bytes
  untouched : ∀ other ∈ item :: rest,
    (∀ entry ∈ done, entry.1.place start.tree directory ≠ other.place start.tree directory) →
      final.tree.fileAt? (other.place start.tree directory) = start.tree.fileAt? (other.place start.tree directory)

inductive FailedDownload (config : Config) (choice : SearchResult) (directory : String) (start : World) :
    Failure → World → Prop where
  | unlocated (absent : choice.locator? = none) :
    FailedDownload config choice directory start (.noLocator choice.label) start
  | unlisted (locator : Locator) (answer : Answer) (channel : Channel) (error : Error)
    (located : choice.locator? = some locator)
    (sent : start.channel.Sent [((config.entriesCall locator).request config, answer)] channel)
    (failed : (config.entriesCall locator).outcome answer = .error error) :
    FailedDownload config choice directory start (.exchange (.entries locator.id) error) { start with channel }
  | unfinished (locator : Locator) (answer : Answer) (channel : Channel) (entries : ContentEntries)
    (done : List (ContentItem × List UInt8)) (item : ContentItem) (rest : List ContentItem) (failure : Failure)
    (final : World) (located : choice.locator? = some locator)
    (sent : start.channel.Sent [((config.entriesCall locator).request config, answer)] channel)
    (given : (config.entriesCall locator).Gives answer entries)
    (cut : entries.items = done.map Prod.fst ++ item :: rest)
    (unfinished : Unfinished config locator directory done item rest { start with channel } failure final) :
    FailedDownload config choice directory start failure final

section

variable {config : Config} {locator : Locator} {directory : String}

theorem unfinished_of_missed {done : List (ContentItem × List UInt8)} {item : ContentItem} (rest : List ContentItem)
    {start between final : World} {failure : Failure}
    (downloaded : Downloaded config locator directory done start between)
    (missed : Missed config locator directory item between failure final) :
    Unfinished config locator directory done item rest start failure final := by
  obtain ⟨⟨calls, delivered, sent⟩, stored, shown⟩ := downloaded
  have earlier := Tree.saveAll_grown stored
  have last := missed.grown
  rw [Tree.onWay_eq earlier.home] at last
  refine ⟨?_, missed.terminal.trans shown, ⟨between.tree, stored, last, ?_⟩,
    fun entry member => Tree.read?_last stored last member, ?_⟩
  · obtain ⟨answer, tried⟩ := missed.sent
    exact ⟨calls, answer, delivered, sent.trans tried⟩
  · cases missed with
    | download answer error channel sent failed => exact .inl ⟨error, rfl, rfl⟩
    | save answer bytes channel fault tree sent given failed => exact .inr ⟨bytes, fault, rfl, failed⟩
  · intro other _ apart
    -- The failing item writes no file, and the others write only where they belong.
    rw [last.fileAt? (fun never => never), earlier.fileAt?]
    rintro ⟨saved, member, same⟩
    obtain ⟨entry, held, rfl⟩ := List.mem_map.1 member
    exact apart entry held same.symm

end

/-- A download that fails has failed before any item, or at one of them. -/
theorem World.runDownload_failed {config : Config} {span : Span} {choice : SearchResult} {directory : String}
    {start final : World} {failure : Failure}
    (failed : runDownload config span choice directory start = (.error failure, final)) :
    FailedDownload config choice directory start failure final := by
  have ended := runDownload_ends config span directory choice start
  rw [failed] at ended
  cases ended with
  | unlocated absent => exact .unlocated absent
  | unlisted locator answer channel error located sent refused =>
    exact .unlisted locator answer channel error located sent refused
  | listed locator answer channel entries _ located sent given ended =>
    cases ended with
    | stopped done item rest between _ _ cut downloaded missed =>
      exact .unfinished locator answer channel entries done item rest failure final located sent given cut
        (unfinished_of_missed rest downloaded missed)

-- The item that was not asked for since no time is allowed for it.
def Failure.unasked? : Failure → Option String
  | .exchange (.download path) (.config .zeroTimeout) => some path
  | _ => none

theorem Failure.eq_of_unasked? {failure : Failure} {path : String} (unasked : failure.unasked? = some path) :
    failure = .exchange (.download path) (.config .zeroTimeout) := by
  unfold unasked? at unasked
  split at unasked
  · rw [Option.some.inj unasked]
  · cases unasked

theorem World.runDownload_failed_second :
    ∃ final, runDownload Sample.config Sample.span Sample.choice "out" Sample.broken =
        (.error (.exchange (.download "b") (.config .zeroTimeout)), final) ∧
      FailedDownload Sample.config Sample.choice "out" Sample.broken
        (.exchange (.download "b") (.config .zeroTimeout)) final := by
  have missed : (runDownload Sample.config Sample.span Sample.choice "out" Sample.broken).1.mapError
      Failure.unasked? = .error (some "b") := by decide +kernel
  rcases ended : runDownload Sample.config Sample.span Sample.choice "out" Sample.broken with ⟨failure | written, final⟩
  · rw [ended] at missed
    obtain rfl := Failure.eq_of_unasked? (Except.error.inj missed)
    exact ⟨final, rfl, runDownload_failed ended⟩
  · rw [ended] at missed
    cases missed

end Catalog
