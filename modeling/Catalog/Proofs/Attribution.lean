import Catalog.Proofs.Endings
import Catalog.Proofs.Finished

set_option autoImplicit false

namespace Catalog

structure Report where
  message : String
  causes : List String
  deriving DecidableEq, Repr

def Failure.report (failure : Failure) : Report :=
  ⟨failure.message, failure.causes⟩

def Error.report (error : Error) (message : String) : Report :=
  ⟨message, error.message :: error.causes⟩

-- Why an item is not saved, in the words of the fault, and the tree that is left then.
inductive ContentItem.Unsaved (item : ContentItem) (directory : String) (bytes : List UInt8) (before : Tree) :
    Report → Tree → Prop where
  | empty (bare : item.path = "") :
    Unsaved item directory bytes before ⟨"Content item " ++ toString item.id ++ " has an empty path", []⟩ before
  | outside (named : item.path ≠ "") (refused : item.Refused) :
    Unsaved item directory bytes before
      ⟨"Refusing to write " ++ Text.quoted item.path ++ " outside " ++ directory, []⟩ before
  | unmade (above : String) (error : IoError) (left : Tree) (accepted : ¬ item.Refused)
    (needed : neededDirectory? (item.target directory) = some above)
    (failed : before.makeDirectories above.toList = (.error error, left)) :
    Unsaved item directory bytes before ⟨"Failed to create " ++ above, [error.message]⟩ left
  | unwritten (made left : Tree) (error : IoError) (accepted : ¬ item.Refused)
    (ready : neededDirectory? (item.target directory) = none ∧ made = before ∨
      ∃ above, neededDirectory? (item.target directory) = some above ∧
        before.makeDirectories above.toList = (.ok (), made))
    (failed : made.writeFile (item.target directory).toList bytes = (.error error, left)) :
    Unsaved item directory bytes before ⟨"Failed to write " ++ item.target directory, [error.message]⟩ left

inductive Progress.Fails (config : Config) (options : SearchOptions) (tree : Tree) :
    Progress → Answer → Report → Tree → Prop where
  | presets (terminal : Terminal) (answer : Answer) (error : Error)
    (failed : config.presetsCall.outcome answer = .error error) :
    Fails config options tree (.presets terminal) answer (error.report "Failed to fetch presets") tree
  | name (terminal asked : Terminal) (answer : Answer) (presets : List Preset)
    (given : config.presetsCall.Gives answer presets) (absent : options.name = none)
    (empty : ∀ line ∈ terminal.lines, line = "")
    (unnamed : (terminal.shows (presetLines presets)).name options.name = (.error .endOfInput, asked)) :
    Fails config options tree (.presets terminal) answer ⟨"Reached end of file", []⟩ tree
  | search (name : String) (terminal : Terminal) (answer : Answer) (error : Error)
    (failed : (config.searchCall (options.query name)).outcome answer = .error error) :
    Fails config options tree (.search name terminal) answer (error.report "Search request failed") tree
  | choice (name : String) (terminal asked : Terminal) (answer : Answer) (results : List SearchResult)
    (given : (config.searchCall (options.query name)).Gives answer results) (found : results ≠ [])
    (unpicked : (terminal.shows (listing results)).askNumber results.length = (.error .endOfInput, asked))
    (untaken : results.length ≤ Unsigned.word → ∃ refusals, PassedOver results.length terminal.lines refusals) :
    Fails config options tree (.search name terminal) answer ⟨"Reached end of file", []⟩ tree
  -- The program does not return here: without a terminal it is broken off.
  | unattended (name : String) (terminal asked : Terminal) (answer : Answer) (results : List SearchResult)
    (given : (config.searchCall (options.query name)).Gives answer results) (found : results ≠ [])
    (unpicked : (terminal.shows (listing results)).askNumber results.length = (.error .noTerminal, asked))
    (alone : terminal.isAttended = false) :
    Fails config options tree (.search name terminal) answer (Failure.prompt .noTerminal).report tree
  | locator (name : String) (terminal asked : Terminal) (answer : Answer) (results : List SearchResult)
    (index : Fin results.length) (given : (config.searchCall (options.query name)).Gives answer results)
    (picked : (terminal.shows (listing results)).askNumber results.length = (.ok index, asked))
    (typed : results.length ≤ Unsigned.word →
      ∃ refusals, NumberTaken results.length terminal.lines ⟨some index, asked.lines, refusals⟩)
    (absent : (results.get index).locator? = none) :
    Fails config options tree (.search name terminal) answer
      ⟨"'" ++ (results.get index).label ++ "' has no id or category to download from", []⟩ tree
  | entries (locator : Locator) (answer : Answer) (error : Error)
    (failed : (config.entriesCall locator).outcome answer = .error error) :
    Fails config options tree (.entries locator) answer
      (error.report ("Failed to fetch entries for " ++ locator.id)) tree
  | download (locator : Locator) (item : ContentItem) (rest : List ContentItem) (before : Tree) (answer : Answer)
    (error : Error) (failed : (config.downloadCall locator item).outcome answer = .error error) :
    Fails config options tree (.downloads locator (item :: rest) before) answer
      (error.report ("Failed to download " ++ item.path)) before
  | save (locator : Locator) (item : ContentItem) (rest : List ContentItem) (before left : Tree) (answer : Answer)
    (bytes : List UInt8) (report : Report) (given : (config.downloadCall locator item).Gives answer bytes)
    (unsavable : ¬ item.Savable before options.directory)
    (unsaved : item.Unsaved options.directory bytes before report left)
    (way : Tree.Grown (fun _ => False) (item.OnWay before options.directory) before left) :
    Fails config options tree (.downloads locator (item :: rest) before) answer report left

-- How a session ends with its calls and its tree: every item that was listed is saved, nothing was found, or a step
-- fails to which every step before it has led.
inductive Concludes (config : Config) (options : SearchOptions) (tree : Tree) (progress : Progress) :
    List (Request × Answer) → Except Report Unit → Tree → Prop where
  | saved (front back : List (Request × Answer)) (locator : Locator) (answer : Answer) (entries : ContentEntries)
    (done : List (ContentItem × List UInt8)) (final : Tree)
    (chosen : Reaches config options tree progress front (.entries locator))
    (listed : (config.entriesCall locator).Gives answer entries) (all : entries.items = done.map Prod.fst)
    (came : List.Forall₂ (config.Delivers locator) done back)
    (stored : Reaches config options tree (.downloads locator entries.items tree) back (.downloads locator [] final))
    (files : ∀ entry ∈ done, ∃ bytes, lastBytes? done entry.1.names = some bytes ∧
      final.read? (entry.1.target options.directory) = some bytes) :
    Concludes config options tree progress (front ++ (config.entriesRequest locator, answer) :: back) (.ok ()) final
  | unmatched (calls : List (Request × Answer)) (name : String) (terminal : Terminal) (request : Request)
    (answer : Answer) (reached : Reaches config options tree progress calls (.search name terminal))
    (next : (Progress.search name terminal).request? config options = some request)
    (given : (config.searchCall (options.query name)).Gives answer []) :
    Concludes config options tree progress (calls ++ [(request, answer)]) (.ok ()) tree
  | failed (calls : List (Request × Answer)) (further : Progress) (request : Request) (answer : Answer)
    (report : Report) (final : Tree) (reached : Reaches config options tree progress calls further)
    (next : further.request? config options = some request)
    (fails : further.Fails config options tree answer report final) :
    Concludes config options tree progress (calls ++ [(request, answer)]) (.error report) final

theorem ContentItem.unsaved_of_save {tree left : Tree} {item : ContentItem} {directory : String} {bytes : List UInt8}
    {fault : SaveFault} (failed : tree.save item directory bytes = (.error fault, left)) :
    item.Unsaved directory bytes tree ⟨fault.message, fault.causes⟩ left := by
  by_cases refused : item.Refused
  · rw [Tree.save_of_refused (refusal?_of_refused refused directory)] at failed
    cases failed
    by_cases bare : item.path = ""
    · rw [refusal, if_pos bare]
      exact .empty bare
    · rw [refusal, if_neg bare]
      exact .outside bare refused
  rw [Tree.save_of_accepted ((item.refusal?_eq_none_iff directory).2 refused)] at failed
  cases needed : neededDirectory? (item.target directory) with
  | none =>
    rw [Tree.prepare_of_unneeded needed] at failed
    rcases wrote : tree.writeFile (item.target directory).toList bytes with ⟨error | _, written⟩
    · simp only [wrote] at failed
      cases failed
      exact .unwritten tree left error refused (.inl ⟨needed, rfl⟩) wrote
    · simp only [wrote] at failed
      cases failed
  | some above =>
    rw [Tree.prepare_of_needed needed] at failed
    rcases prepared : tree.makeDirectories above.toList with ⟨error | _, made⟩
    · simp only [prepared, Except.mapError] at failed
      cases failed
      exact .unmade above error left refused needed prepared
    simp only [prepared, Except.mapError] at failed
    rcases wrote : made.writeFile (item.target directory).toList bytes with ⟨error | _, written⟩
    · simp only [wrote] at failed
      cases failed
      exact .unwritten made left error refused (.inr ⟨above, needed, prepared⟩) wrote
    · simp only [wrote] at failed
      cases failed

section

variable {config : Config} {options : SearchOptions} {tree : Tree}

theorem Progress.Step.unique {progress first second : Progress} {answer : Answer}
    (led : Progress.Step config options tree progress answer first)
    (other : Progress.Step config options tree progress answer second) : first = second := by
  cases led with
  | presets _ _ _ presets name given named typed alone =>
    cases other with
    | presets _ _ _ others _ also same =>
      obtain rfl := given.unique also
      rw [named] at same
      cases same
      rfl
  | search _ _ _ _ results index locator given picked typed located =>
    cases other with
    | search _ _ _ _ others number _ also chosen _ found =>
      obtain rfl := given.unique also
      rw [picked] at chosen
      cases chosen
      rw [located] at found
      cases found
      rfl
  | entries _ _ entries given =>
    cases other with
    | entries _ _ others also => rw [given.unique also]
  | download _ _ _ _ _ bytes given savable =>
    cases other with
    | download _ _ _ _ _ others also => rw [given.unique also]

theorem Progress.Step.not_fails {progress further : Progress} {answer : Answer} {report : Report} {final : Tree}
    (led : Progress.Step config options tree progress answer further) :
    ¬ progress.Fails config options tree answer report final := by
  intro fails
  cases fails with
  | presets terminal _ error failed =>
    cases led with
    | presets _ _ _ presets name given named typed alone => exact given.not_error failed
  | name terminal asked _ presets given absent empty unnamed =>
    cases led with
    | presets _ _ _ others name also named typed alone =>
      obtain rfl := given.unique also
      rw [unnamed] at named
      cases named
  | search name terminal _ error failed =>
    cases led with
    | search _ _ _ _ results index locator given picked typed located => exact given.not_error failed
  | choice name terminal asked _ results given found unpicked untaken =>
    cases led with
    | search _ _ _ _ others index locator also picked typed located =>
      obtain rfl := given.unique also
      rw [unpicked] at picked
      cases picked
  | unattended name terminal asked _ results given found unpicked alone =>
    cases led with
    | search _ _ _ _ others index locator also picked typed located =>
      obtain rfl := given.unique also
      rw [unpicked] at picked
      cases picked
  | locator name terminal asked _ results index given picked typed absent =>
    cases led with
    | search _ _ _ _ others number locator also chosen _ located =>
      obtain rfl := given.unique also
      rw [picked] at chosen
      cases chosen
      rw [absent] at located
      cases located
  | entries locator _ error failed =>
    cases led with
    | entries _ _ entries given => exact given.not_error failed
  | download locator item rest before _ error failed =>
    cases led with
    | download _ _ _ _ _ bytes given savable => exact given.not_error failed
  | save locator item rest before left _ bytes report given unsavable unsaved way =>
    cases led with
    | download _ _ _ _ _ others also savable => exact unsavable savable

theorem Reaches.unique {progress first second : Progress} {calls : List (Request × Answer)}
    (reached : Reaches config options tree progress calls first)
    (other : Reaches config options tree progress calls second) : first = second := by
  induction reached with
  | refl progress =>
    cases other
    rfl
  | step next led later ih =>
    cases other with
    | step _ also rest => exact ih (led.unique also ▸ rest)

theorem Reaches.last_step {progress final : Progress} {calls : List (Request × Answer)} {request : Request}
    {answer : Answer} (reached : Reaches config options tree progress (calls ++ [(request, answer)]) final) :
    ∃ between, Reaches config options tree progress calls between ∧
      Progress.Step config options tree between answer final := by
  induction calls generalizing progress with
  | nil =>
    cases reached with
    | step next led later =>
      cases later
      exact ⟨progress, .refl progress, led⟩
  | cons call rest ih =>
    cases reached with
    | step next led later =>
      obtain ⟨between, before, last⟩ := ih later
      exact ⟨between, .step next led before, last⟩

theorem Concludes.not_failed {progress : Progress} {calls : List (Request × Answer)} {report : Report}
    {final other : Tree} (succeeded : Concludes config options tree progress calls (.ok ()) final) :
    ¬ Concludes config options tree progress calls (.error report) other := by
  intro failed
  generalize all : calls = whole at failed
  cases failed with
  | failed before further request answer _ _ reached next fails =>
  cases succeeded with
  | saved front back locator third entries done _ chosen listed items came stored files =>
    have finished := chosen.trans (.step rfl (.entries locator third entries listed) stored)
    rw [all] at finished
    obtain ⟨between, earlier, led⟩ := finished.last_step
    obtain rfl := reached.unique earlier
    exact led.not_fails fails
  | unmatched front name terminal last given searched sent none =>
    obtain ⟨rfl, same⟩ := List.append_inj' all rfl
    cases same
    obtain rfl := reached.unique searched
    cases fails with
    | search _ _ _ error failed => exact none.not_error failed
    | choice _ _ asked _ results given found unpicked untaken => exact found (given.unique none)
    | unattended _ _ asked _ results given found unpicked alone => exact found (given.unique none)
    | locator _ _ asked _ results index given picked typed absent =>
      obtain rfl := given.unique none
      exact index.elim0

end

theorem Concludes.of_downloads {config : Config} {options : SearchOptions} {progress : Progress}
    {front : List (Request × Answer)} {locator : Locator} {answer : Answer} {entries : ContentEntries} {before : World}
    {result : Except Failure (List (String × Nat)) × World}
    (ended : Downloads config locator options.directory entries.items before result)
    (chosen : Reaches config options before.tree progress front (.entries locator))
    (listed : (config.entriesCall locator).Gives answer entries) :
    ∃ back, before.channel.Sent back result.2.channel ∧
      Concludes config options before.tree progress (front ++ (config.entriesRequest locator, answer) :: back)
        ((result.1.map fun _ => ()).mapError Failure.report) result.2.tree := by
  cases ended with
  | finished done after all downloaded =>
    obtain ⟨back, delivered, sent⟩ := downloaded.calls
    have way : Reaches config options before.tree
        (.downloads locator (done.map Prod.fst ++ []) before.tree) back (.downloads locator [] after.tree) :=
      .of_delivered [] delivered downloaded.tree
    rw [List.append_nil, all] at way
    exact ⟨back, sent, .saved front back locator answer entries done after.tree chosen listed all.symm delivered way
      fun entry member => Tree.read?_last downloaded.tree (.refl (fun _ => False) (fun _ => False) _) member⟩
  | stopped done item rest between failure after cut downloaded missed =>
    obtain ⟨back, delivered, sent⟩ := downloaded.calls
    have way : Reaches config options before.tree
        (.downloads locator (done.map Prod.fst ++ item :: rest) before.tree) back _ :=
      .of_delivered (item :: rest) delivered downloaded.tree
    rw [← cut] at way
    have far := chosen.trans (.step rfl (.entries locator answer entries listed) way)
    have grown := missed.grown
    cases missed with
    | download last error channel tried failed =>
      have fails := Concludes.failed _ _ _ last _ _ far rfl (.download locator item rest _ last error failed)
      rw [List.append_assoc] at fails
      exact ⟨_, sent.trans tried, fails⟩
    | save last bytes channel fault left tried given failed =>
      have unsaved : Progress.Fails config options before.tree (.downloads locator (item :: rest) between.tree) last
          ⟨fault.message, fault.causes⟩ left :=
        .save locator item rest _ left last bytes _ given (Tree.not_savable_of_error failed)
          (ContentItem.unsaved_of_save failed) grown
      have fails := Concludes.failed _ _ _ last _ _ far rfl unsaved
      rw [List.append_assoc] at fails
      exact ⟨_, sent.trans tried, fails⟩

theorem Concludes.of_ending {config : Config} {options : SearchOptions} {start : World}
    {result : Except Failure Unit × World} (ending : Ending config options start result) :
    ∃ calls, start.channel.Sent calls result.2.channel ∧
      Concludes config options start.tree (.presets start.terminal) calls (result.1.mapError Failure.report)
        result.2.tree := by
  have way {first : Answer} {name : String} {terminal : Terminal}
      (greeted : Progress.Step config options start.tree (.presets start.terminal) first (.search name terminal)) :
      Reaches config options start.tree (.presets start.terminal) [(config.presetsCall.request config, first)]
        (.search name terminal) :=
    .step rfl greeted (.refl _)
  cases ending with
  | unanswered answer error channel sent failed =>
    exact ⟨_, sent, .failed [] _ _ answer _ _ (.refl _) rfl (.presets _ answer error failed)⟩
  | unnamed answer presets fault channel terminal sent given unnamed =>
    obtain ⟨absent, empty, rfl, -⟩ := Terminal.name_error unnamed
    exact ⟨_, sent, .failed [] _ _ answer _ _ (.refl _) rfl (.name _ _ answer presets given absent empty unnamed)⟩
  | unsearched first second name error channel terminal greeted sent failed =>
    exact ⟨_, sent, .failed _ _ _ second _ _ (way greeted) rfl (.search name _ second error failed)⟩
  | unmatched first second name channel terminal greeted sent given =>
    exact ⟨_, sent, .unmatched _ name terminal _ second (way greeted) rfl given⟩
  | unchosen first second name results fault channel terminal asked greeted sent given found unpicked =>
    cases fault with
    | endOfInput =>
      have untaken := Terminal.askNumber_endOfInput unpicked
      exact ⟨_, sent,
        .failed _ _ _ second _ _ (way greeted) rfl (.choice name _ _ second _ given found unpicked untaken)⟩
    | noTerminal =>
      have alone := Terminal.askNumber_noTerminal unpicked
      exact ⟨_, sent,
        .failed _ _ _ second _ _ (way greeted) rfl (.unattended name _ _ second _ given found unpicked alone)⟩
  | chosen first second name results index channel terminal asked result greeted sent given picked ended =>
    rw [channel_settled, tree_settled, settled_fst]
    cases ended with
    | unlocated absent =>
      have typed := Terminal.askNumber_ok picked
      exact ⟨_, sent,
        .failed _ _ _ second _ _ (way greeted) rfl (.locator name _ _ second _ index given picked typed absent)⟩
    | unlisted locator third channel error located tried failed =>
      have led : Progress.Step config options start.tree (.search name terminal) second (.entries locator) :=
        .chooses start.tree given picked located
      have far := (way greeted).trans (.step rfl led (.refl _))
      exact ⟨_, sent.trans tried, .failed _ _ _ third _ _ far rfl (.entries locator third error failed)⟩
    | listed locator third channel entries _ located listed came ended =>
      have led : Progress.Step config options start.tree (.search name terminal) second (.entries locator) :=
        .chooses start.tree given picked located
      have far := (way greeted).trans (.step rfl led (.refl _))
      obtain ⟨more, later, concludes⟩ := Concludes.of_downloads ended far came
      exact ⟨_, (sent.trans listed).trans later, concludes⟩

/-- A session succeeds exactly if its steps do, and fails exactly as the first step that does not. -/
theorem World.runSession_concludes (config : Config) (span : Span) (options : SearchOptions) (start : World) :
    ∃ calls, start.channel.Sent calls (runSession config span options start).2.channel ∧
      ((runSession config span options start).1 = .ok () ↔
        Concludes config options start.tree (.presets start.terminal) calls (.ok ())
          (runSession config span options start).2.tree) ∧
      ∀ failure, (runSession config span options start).1 = .error failure →
        Concludes config options start.tree (.presets start.terminal) calls (.error failure.report)
          (runSession config span options start).2.tree := by
  obtain ⟨calls, sent, concludes⟩ := Concludes.of_ending (runSession_ending config span options start)
  refine ⟨calls, sent, ?_, ?_⟩
  · constructor
    · intro succeeded
      rwa [succeeded] at concludes
    · intro succeeded
      cases result : (runSession config span options start).1 with
      | ok done => rfl
      | error failure =>
        rw [result] at concludes
        exact absurd concludes succeeded.not_failed
  · intro failure failed
    rwa [failed] at concludes

namespace Sample

def visiting (entries : Answer) : World :=
  { world [bytes [], found, entries, bytes [1, 2], bytes [3]] with terminal := ⟨true, ["x", "0"], [], []⟩ }

-- The second item needs a directory where the first has put a file.
def nested : Answer := .ok ⟨200, "OK", Utf8.encode "[[[1,\"a\"],[2,\"a/b\"]]]".toList⟩

end Sample

theorem World.runSession_concludes_second :
    (∃ calls, Concludes Sample.config Sample.options (Sample.visiting Sample.listing).tree
        (.presets (Sample.visiting Sample.listing).terminal) calls (.ok ())
        (runSession Sample.config Sample.span Sample.options (Sample.visiting Sample.listing)).2.tree) ∧
      (runSession Sample.config Sample.span Sample.options (Sample.visiting Sample.listing)).2.tree.read? "out/b" =
        some [3] ∧
      (∃ calls, Concludes Sample.config Sample.options (Sample.visiting Sample.nested).tree
        (.presets (Sample.visiting Sample.nested).terminal) calls
        (.error ⟨"Failed to create out/a", ["File exists (os error 17)"]⟩)
        (runSession Sample.config Sample.span Sample.options (Sample.visiting Sample.nested)).2.tree) ∧
      (runSession Sample.config Sample.span Sample.options (Sample.visiting Sample.nested)).2.tree.read? "out/a" =
        some [1, 2] := by
  have saved : (runSession Sample.config Sample.span Sample.options (Sample.visiting Sample.listing)).1.toOption =
      some () := by decide +kernel
  have blocked : (runSession Sample.config Sample.span Sample.options (Sample.visiting Sample.nested)).1.mapError
      Failure.report = .error ⟨"Failed to create out/a", ["File exists (os error 17)"]⟩ := by decide +kernel
  obtain ⟨calls, -, succeeds, -⟩ :=
    runSession_concludes Sample.config Sample.span Sample.options (Sample.visiting Sample.listing)
  obtain ⟨others, -, -, fails⟩ :=
    runSession_concludes Sample.config Sample.span Sample.options (Sample.visiting Sample.nested)
  refine ⟨⟨calls, succeeds.1 ?_⟩, by decide +kernel, ⟨others, ?_⟩, by decide +kernel⟩
  · cases ended : (runSession Sample.config Sample.span Sample.options (Sample.visiting Sample.listing)).1 with
    | ok done => rfl
    | error failure =>
      rw [ended] at saved
      cases saved
  · cases ended : (runSession Sample.config Sample.span Sample.options (Sample.visiting Sample.nested)).1 with
    | ok done =>
      rw [ended] at blocked
      cases blocked
    | error failure =>
      rw [ended] at blocked
      have report : failure.report = ⟨"Failed to create out/a", ["File exists (os error 17)"]⟩ :=
        Except.error.inj blocked
      exact report ▸ fails failure ended

end Catalog
