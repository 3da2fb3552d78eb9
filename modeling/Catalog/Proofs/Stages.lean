import Catalog.Proofs.Exchanges
import Catalog.Proofs.Saving

set_option autoImplicit false

namespace Catalog

def Terminal.shows (terminal : Terminal) (lines : List String) : Terminal :=
  { terminal with shown := terminal.shown ++ lines }

def Terminal.name (terminal : Terminal) : Option String → Except PromptFault String × Terminal
  | some name => (.ok name, terminal)
  | none => terminal.askText

def presetLines (presets : List Preset) : List String :=
  "Presets:" :: presets.map Preset.line

def savedLine (item : ContentItem) (bytes : List UInt8) : String :=
  item.path ++ " " ++ toString bytes.length

def noContentLine (choice : SearchResult) : String :=
  "'" ++ choice.label ++ "' has no downloadable content."

namespace World

variable (config : Config) (span : Span)

def runDownloads (locator : Locator) (directory : String) (items : List ContentItem) (world : World) :
    Except Failure (List (String × Nat)) × World :=
  perform (downloadItems ((World.client config).withSpan span) console disk locator directory items) world

def runDownload (choice : SearchResult) (directory : String) (world : World) :
    Except Failure (List (String × Nat)) × World :=
  perform (download ((World.client config).withSpan span) console disk choice directory) world

def runSession (options : SearchOptions) (world : World) : Except Failure Unit × World :=
  perform (session ((World.client config).withSpan span) console disk options) world

theorem forM_print (lines : List String) (world : World) :
    lines.forM console.print world = ((), { world with terminal := world.terminal.shows lines }) := by
  induction lines generalizing world with
  | nil => simp [List.forM, pure_apply, Terminal.shows]
  | cons line rest ih =>
    calc
      (line :: rest).forM console.print world =
          rest.forM console.print { world with terminal := world.terminal.print line } := rfl
      _ = ((), { world with terminal := (world.terminal.print line).shows rest }) := ih _
      _ = ((), { world with terminal := world.terminal.shows (line :: rest) }) := by
        simp [Terminal.print, Terminal.shows]

theorem askNumber_apply (title : String) (bound : Nat) (world : World) :
    console.askNumber title bound world =
      ((world.terminal.askNumber bound).1, { world with terminal := (world.terminal.askNumber bound).2 }) :=
  rfl

theorem writeFile_apply (path : String) (bytes : List UInt8) (world : World) :
    disk.writeFile path bytes world =
      ((world.tree.writeFile path.toList bytes).1, { world with tree := (world.tree.writeFile path.toList bytes).2 }) :=
  rfl

theorem perform_prepare (path : String) (world : World) :
    perform (disk.prepare path) world =
      ((world.tree.prepare path).1, { world with tree := (world.tree.prepare path).2 }) := by
  unfold Tree.prepare Disk.prepare
  cases neededDirectory? path with
  | none => rfl
  | some directory => rfl

theorem perform_greet (name? : Option String) (world : World) :
    perform (greet ((World.client config).withSpan span) console name?) world =
      match world.channel.ask config span config.presetsCall with
      | (.error error, channel) => (.error (.exchange .presets error), { world with channel })
      | (.ok presets, channel) =>
        match (world.terminal.shows (presetLines presets)).name name? with
        | (given, terminal) => (given.mapError .prompt, { world with channel, terminal }) := by
  unfold greet
  rw [perform_bind, presets_eq_ask, perform_ask]
  rcases world.channel.ask config span config.presetsCall with ⟨_ | presets, channel⟩
  · rfl
  simp only [Except.mapError, perform_bind, perform_lift]
  rw [← presetLines, forM_print]
  cases name? with
  | some name => rfl
  | none => rfl

theorem perform_find (query : String) (world : World) :
    perform (find ((World.client config).withSpan span) query) world =
      match (world.channel.record (searchingEvent query)).ask config span (config.searchCall query) with
      | (result, channel) => (result.mapError (.exchange .search), { world with channel }) := by
  unfold find
  rw [perform_bind, perform_lift, search_eq_ask]
  exact perform_ask config span .search (config.searchCall query)
    { world with channel := world.channel.record (searchingEvent query) }

theorem perform_choose (results : List SearchResult) (world : World) :
    perform (choose ((World.client config).withSpan span) console results) world =
      match (world.terminal.shows (listing results)).askNumber results.length with
      | (.error fault, terminal) => (.error (.prompt fault), { world with terminal })
      | (.ok index, terminal) =>
        (.ok (results.get index),
          { world with terminal, channel := world.channel.record (selectedEvent (results.get index)) }) := by
  unfold choose
  rw [perform_bind, perform_lift, forM_print]
  simp only [perform_bind, perform_prompting, perform_lift, perform_pure]
  rw [askNumber_apply]
  rcases (world.terminal.shows (listing results)).askNumber results.length with ⟨_ | index, terminal⟩
  · rfl
  · rfl

theorem save_apply (item : ContentItem) (directory : String) (bytes : List UInt8) (world : World) :
    perform (item.save disk ((World.client config).withSpan span).record directory bytes) world =
      match world.tree.save item directory bytes with
      | (.error fault, tree) => (.error fault, { world with tree })
      | (.ok path, tree) =>
        (.ok path, { world with tree, channel := world.channel.record (savedEvent path bytes.length) }) := by
  cases accepted : item.refusal? directory with
  | some fault =>
    rw [Tree.save_of_refused accepted]
    unfold ContentItem.save
    rw [accepted]
    rfl
  | none =>
    rw [Tree.save_of_accepted accepted]
    unfold ContentItem.save
    simp only [accepted, perform_bind, perform_mapError, perform_lift, perform_pure, perform_prepare]
    rcases world.tree.prepare (item.target directory) with ⟨_ | _, made⟩
    · rfl
    simp only [writeFile_apply]
    rcases made.writeFile (item.target directory).toList bytes with ⟨_ | _, written⟩
    · rfl
    · rfl

theorem perform_downloadItem (locator : Locator) (directory : String) (item : ContentItem) (world : World) :
    perform (downloadItem ((World.client config).withSpan span) console disk locator directory item) world =
      match world.channel.ask config span (config.downloadCall locator item) with
      | (.error error, channel) => (.error (.exchange (.download item.path) error), { world with channel })
      | (.ok bytes, channel) =>
        match world.tree.save item directory bytes with
        | (.error fault, tree) => (.error (.save fault), { world with channel, tree })
        | (.ok path, tree) =>
          (.ok (path, bytes.length),
            { channel := channel.record (savedEvent path bytes.length)
              terminal := world.terminal.print (savedLine item bytes)
              tree }) := by
  unfold downloadItem
  rw [perform_bind, download_eq_ask, perform_ask]
  rcases world.channel.ask config span (config.downloadCall locator item) with ⟨_ | bytes, channel⟩
  · rfl
  simp only [Except.mapError, perform_bind, perform_adapt, save_apply]
  rcases world.tree.save item directory bytes with ⟨_ | path, tree⟩
  · rfl
  · rfl

theorem runDownloads_nil (locator : Locator) (directory : String) (world : World) :
    runDownloads config span locator directory [] world = (.ok [], world) :=
  rfl

theorem runDownloads_cons (locator : Locator) (directory : String) (item : ContentItem) (rest : List ContentItem)
    (world : World) :
    runDownloads config span locator directory (item :: rest) world =
      match perform (downloadItem ((World.client config).withSpan span) console disk locator directory item) world with
      | (.error failure, after) => (.error failure, after)
      | (.ok written, after) =>
        match runDownloads config span locator directory rest after with
        | (.error failure, final) => (.error failure, final)
        | (.ok others, final) => (.ok (written :: others), final) := by
  rw [runDownloads, downloadItems, perform_bind]
  rcases perform (downloadItem _ _ _ _ _ item) world with ⟨_ | written, after⟩
  · rfl
  simp only [perform_bind, perform_pure, runDownloads]
  rcases perform (downloadItems _ _ _ _ _ rest) after with ⟨_ | others, final⟩
  · rfl
  · rfl

theorem runDownload_eq (choice : SearchResult) (directory : String) (world : World) :
    runDownload config span choice directory world =
      match choice.locator? with
      | none => (.error (.noLocator choice.label), world)
      | some locator =>
        match world.channel.ask config span (config.entriesCall locator) with
        | (.error error, channel) => (.error (.exchange (.entries locator.id) error), { world with channel })
        | (.ok entries, channel) =>
          runDownloads config span locator directory entries.items { world with channel } := by
  unfold runDownload download
  cases choice.locator? with
  | none => rfl
  | some locator =>
    simp only [perform_bind]
    rw [entries_eq_ask, perform_ask]
    rcases world.channel.ask config span (config.entriesCall locator) with ⟨_ | entries, channel⟩
    · rfl
    · rfl

theorem perform_deliver (directory : String) (choice : SearchResult) (world : World) :
    perform (deliver ((World.client config).withSpan span) console disk directory choice) world =
      match runDownload config span choice directory world with
      | (.error failure, after) => (.error failure, after)
      | (.ok [], after) => (.ok (), { after with terminal := after.terminal.print (noContentLine choice) })
      | (.ok _, after) => (.ok (), after) := by
  unfold deliver runDownload
  rw [perform_bind]
  rcases perform (download _ _ _ choice directory) world with ⟨_ | _ | _, after⟩
  · rfl
  · rfl
  · rfl

theorem runSession_eq (options : SearchOptions) (world : World) :
    runSession config span options world =
      match perform (greet ((World.client config).withSpan span) console options.name) world with
      | (.error failure, after) => (.error failure, after)
      | (.ok name, greeted) =>
        match perform (find ((World.client config).withSpan span) (options.query name)) greeted with
        | (.error failure, after) => (.error failure, after)
        | (.ok [], after) =>
          (.ok (), { after with terminal := after.terminal.print ("No results for '" ++ name ++ "'.") })
        | (.ok (first :: others), found) =>
          match perform (choose ((World.client config).withSpan span) console (first :: others)) found with
          | (.error failure, after) => (.error failure, after)
          | (.ok choice, chosen) =>
            perform (deliver ((World.client config).withSpan span) console disk options.directory choice) chosen := by
  unfold runSession session
  rw [perform_bind]
  rcases perform (greet _ _ options.name) world with ⟨_ | name, greeted⟩
  · rfl
  simp only [perform_bind]
  rcases perform (find _ (options.query name)) greeted with ⟨_ | _ | ⟨first, others⟩, found⟩
  · rfl
  · rfl
  simp only [List.isEmpty_cons, Bool.false_eq_true, if_false, perform_bind]
  rcases perform (choose _ _ (first :: others)) found with ⟨_ | choice, chosen⟩
  · rfl
  · rfl

end World

end Catalog
