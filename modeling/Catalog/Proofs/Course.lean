import Catalog.Proofs.Downloads
import Catalog.Proofs.Prompts
import Catalog.Proofs.SavedFiles

set_option autoImplicit false

namespace Catalog

def Config.getting (config : Config) (url : String) : Request where
  method := .get
  url := url
  headers :=
    match config.cookie with
    | some cookie =>
      [⟨"cookie", cookie⟩, ⟨"origin", config.baseUrl⟩, ⟨"accept", "text/html"⟩, ⟨"cache-control", "max-age=0"⟩]
    | none => []
  body := none
  timeout := config.timeout.duration

def Config.presetsRequest (config : Config) : Request :=
  config.getting (config.baseUrl ++ "/search/aql/presets")

def Config.searchRequest (config : Config) (query : String) : Request :=
  config.getting (config.baseUrl ++ "/search/aql" ++ "?" ++ Form.encode [⟨"query", query⟩])

def Config.entriesRequest (config : Config) (locator : Locator) : Request :=
  config.getting (config.baseUrl ++ ("/search/entries/" ++ locator.id ++ "/" ++ toString locator.category))

def Config.downloadRequest (config : Config) (locator : Locator) (item : ContentItem) : Request :=
  config.getting (config.baseUrl ++
    ("/search/bin/" ++ locator.id ++ "/" ++ toString locator.category ++ "/" ++ toString item.id))

section

variable {terminal asked : Terminal} {name? : Option String}

theorem Terminal.name_ok {name : String} (taken : terminal.name name? = (.ok name, asked))
    (attended : terminal.isAttended = true) :
    ∃ lines, Named name? terminal.lines name lines ∧ asked = { terminal with lines } := by
  cases name? with
  | some given =>
    simp only [Terminal.name, Prod.mk.injEq, Except.ok.injEq] at taken
    obtain ⟨rfl, rfl⟩ := taken
    exact ⟨terminal.lines, .given given terminal.lines, rfl⟩
  | none =>
    simp only [Terminal.name, Terminal.askText, attended, if_true] at taken
    split at taken
    · next line rest found =>
      simp only [Prod.mk.injEq, Except.ok.injEq] at taken
      obtain ⟨rfl, rfl⟩ := taken
      exact ⟨rest, named_of_nextText found, by rw [attended]⟩
    · cases taken

theorem Terminal.name_unattended (unattended : terminal.isAttended = false)
    (name? : Option String) : terminal.name name? = (.ok (name?.getD ""), terminal) := by
  cases name? with
  | some name => rfl
  | none =>
    rw [name, askText, unattended]
    rfl

theorem Terminal.name_error {fault : PromptFault} (refused : terminal.name name? = (.error fault, asked)) :
    name? = none ∧ (∀ line ∈ terminal.lines, line = "") ∧ fault = .endOfInput ∧
      asked = { terminal with lines := [] } := by
  cases name? with
  | some given => cases refused
  | none =>
    rw [Terminal.name, Terminal.askText] at refused
    split at refused
    · split at refused
      · cases refused
      · next attended _ ended =>
        obtain ⟨same, rfl⟩ := Prod.mk.inj refused
        exact ⟨rfl, (nextText_eq_none_iff _).1 ended, (Except.error.inj same).symm, rfl⟩
    · cases refused

end

inductive Progress where
  | presets (terminal : Terminal)
  | search (name : String) (terminal : Terminal)
  | entries (locator : Locator)
  | downloads (locator : Locator) (items : List ContentItem) (tree : Tree)

def Progress.request? (config : Config) (options : SearchOptions) : Progress → Option Request
  | .presets _ => some config.presetsRequest
  | .search name _ => some (config.searchRequest (buildQuery (titleFilters name options.kind options.category)))
  | .entries locator => some (config.entriesRequest locator)
  | .downloads locator (item :: _) _ => some (config.downloadRequest locator item)
  | .downloads _ [] _ => none

-- How a name and a number are taken from the lines typed is told beside the functions that take them. Which number a
-- line holds is told of lists that a word can count, since a larger number is refused.
inductive Progress.Step (config : Config) (options : SearchOptions) (tree : Tree) :
    Progress → Answer → Progress → Prop where
  | presets (terminal asked : Terminal) (answer : Answer) (presets : List Preset) (name : String)
    (given : config.presetsCall.Gives answer presets)
    (named : (terminal.shows (presetLines presets)).name options.name = (.ok name, asked))
    (typed : terminal.isAttended = true → Named options.name terminal.lines name asked.lines)
    (alone : terminal.isAttended = false → name = options.name.getD "") :
    Step config options tree (.presets terminal) answer (.search name asked)
  | search (name : String) (terminal chosen : Terminal) (answer : Answer) (results : List SearchResult)
    (index : Fin results.length) (locator : Locator)
    (given : (config.searchCall (buildQuery (titleFilters name options.kind options.category))).Gives answer results)
    (picked : (terminal.shows (listing results)).askNumber results.length = (.ok index, chosen))
    (typed : results.length ≤ Unsigned.word →
      ∃ refusals, NumberTaken results.length terminal.lines ⟨some index, chosen.lines, refusals⟩)
    (located : (results.get index).locator? = some locator) :
    Step config options tree (.search name terminal) answer (.entries locator)
  | entries (locator : Locator) (answer : Answer) (entries : ContentEntries)
    (given : (config.entriesCall locator).Gives answer entries) :
    Step config options tree (.entries locator) answer (.downloads locator entries.items tree)
  | download (locator : Locator) (item : ContentItem) (rest : List ContentItem) (before : Tree)
    (answer : Answer) (bytes : List UInt8) (given : (config.downloadCall locator item).Gives answer bytes)
    (savable : item.Savable before options.directory) :
    Step config options tree (.downloads locator (item :: rest) before) answer
      (.downloads locator rest (item.stored before options.directory bytes))

theorem Progress.Step.greets {config : Config} {options : SearchOptions} (tree : Tree) {terminal asked : Terminal}
    {answer : Answer} {presets : List Preset} {name : String} (given : config.presetsCall.Gives answer presets)
    (named : (terminal.shows (presetLines presets)).name options.name = (.ok name, asked)) :
    Progress.Step config options tree (.presets terminal) answer (.search name asked) := by
  refine .presets terminal asked answer presets name given named ?_ ?_
  · intro attended
    obtain ⟨lines, known, rfl⟩ := Terminal.name_ok named attended
    exact known
  · intro alone
    have shown : (terminal.shows (presetLines presets)).isAttended = false := alone
    rw [Terminal.name_unattended shown] at named
    exact (Except.ok.inj (Prod.mk.inj named).1).symm

theorem Progress.Step.chooses {config : Config} {options : SearchOptions} (tree : Tree) {name : String}
    {terminal chosen : Terminal} {answer : Answer} {results : List SearchResult} {index : Fin results.length}
    {locator : Locator}
    (given : (config.searchCall (buildQuery (titleFilters name options.kind options.category))).Gives answer results)
    (picked : (terminal.shows (listing results)).askNumber results.length = (.ok index, chosen))
    (located : (results.get index).locator? = some locator) :
    Progress.Step config options tree (.search name terminal) answer (.entries locator) := by
  have typed := Terminal.askNumber_ok picked
  exact .search name terminal chosen answer results index locator given picked typed located

inductive Reaches (config : Config) (options : SearchOptions) (tree : Tree) :
    Progress → List (Request × Answer) → Progress → Prop where
  | refl (progress : Progress) : Reaches config options tree progress [] progress
  | step {progress further final : Progress} {request : Request} {answer : Answer} {calls : List (Request × Answer)}
    (next : progress.request? config options = some request)
    (led : Progress.Step config options tree progress answer further)
    (later : Reaches config options tree further calls final) :
    Reaches config options tree progress ((request, answer) :: calls) final

inductive Course (config : Config) (options : SearchOptions) (tree : Tree) :
    Progress → List (Request × Answer) → Prop where
  | ended {progress : Progress} : Course config options tree progress []
  | last {progress : Progress} {request : Request} (answer : Answer)
    (next : progress.request? config options = some request) : Course config options tree progress [(request, answer)]
  | step {progress further : Progress} {request : Request} {answer : Answer} {calls : List (Request × Answer)}
    (next : progress.request? config options = some request)
    (led : Progress.Step config options tree progress answer further)
    (later : Course config options tree further calls) :
    Course config options tree progress ((request, answer) :: calls)

section

variable {config : Config} {options : SearchOptions}

theorem Reaches.trans {tree : Tree} {first second third : Progress} {calls more : List (Request × Answer)}
    (reached : Reaches config options tree first calls second)
    (later : Reaches config options tree second more third) :
    Reaches config options tree first (calls ++ more) third := by
  induction reached with
  | refl progress => exact later
  | step next led rest ih => exact .step next led (ih later)

theorem Reaches.of_delivered {tree : Tree} {locator : Locator} {done : List (ContentItem × List UInt8)}
    {calls : List (Request × Answer)} (rest : List ContentItem) {before saved : Tree}
    (delivered : List.Forall₂ (config.Delivers locator) done calls)
    (stored : before.saveAll options.directory done = some saved) :
    Reaches config options tree (.downloads locator (done.map Prod.fst ++ rest) before) calls
      (.downloads locator rest saved) := by
  induction delivered generalizing before with
  | nil =>
    obtain rfl := Option.some.inj stored
    exact .refl _
  | @cons entry call done calls first others ih =>
    obtain ⟨item, bytes⟩ := entry
    obtain ⟨request, answer⟩ := call
    obtain ⟨asked, given⟩ := first
    dsimp only at asked given
    subst asked
    rcases result : before.save item options.directory bytes with ⟨_ | path, next⟩
    · simp [Tree.saveAll, result] at stored
    simp only [Tree.saveAll, result] at stored
    obtain ⟨savable, -, rfl⟩ := Tree.save_eq_ok_iff_savable.1 result
    exact .step rfl (.download locator item _ before answer bytes given savable) (ih stored)

theorem Course.of_reaches {tree : Tree} {progress further : Progress} {calls more : List (Request × Answer)}
    (reached : Reaches config options tree progress calls further)
    (later : Course config options tree further more) : Course config options tree progress (calls ++ more) := by
  induction reached with
  | refl progress => exact later
  | step next led rest ih => exact .step next led (ih later)

theorem Course.of_delivered {tree : Tree} {locator : Locator} {done : List (ContentItem × List UInt8)}
    {calls more : List (Request × Answer)} (rest : List ContentItem) {before saved : Tree}
    (delivered : List.Forall₂ (config.Delivers locator) done calls)
    (stored : before.saveAll options.directory done = some saved)
    (later : Course config options tree (.downloads locator rest saved) more) :
    Course config options tree (.downloads locator (done.map Prod.fst ++ rest) before) (calls ++ more) :=
  .of_reaches (.of_delivered rest delivered stored) later

theorem Course.of_downloads (tree : Tree) {locator : Locator} {items : List ContentItem} {before : World}
    {result : Except Failure (List (String × Nat)) × World}
    (ended : Downloads config locator options.directory items before result) :
    ∃ calls, before.channel.Sent calls result.2.channel ∧
      Course config options tree (.downloads locator items before.tree) calls := by
  cases ended with
  | finished done after all downloaded =>
    obtain ⟨calls, delivered, sent⟩ := downloaded.calls
    have course : Course config options tree (.downloads locator (done.map Prod.fst ++ []) before.tree) (calls ++ []) :=
      of_delivered [] delivered downloaded.tree .ended
    rw [List.append_nil, List.append_nil, all] at course
    exact ⟨calls, sent, course⟩
  | stopped done item rest between failure after cut downloaded missed =>
    obtain ⟨calls, delivered, sent⟩ := downloaded.calls
    obtain ⟨answer, tried⟩ := missed.sent
    have course : Course config options tree
        (.downloads locator (done.map Prod.fst ++ item :: rest) before.tree) (calls ++ [(_, answer)]) :=
      of_delivered (item :: rest) delivered downloaded.tree (.last answer rfl)
    exact ⟨_, sent.trans tried, cut ▸ course⟩

theorem Course.of_download {choice : SearchResult} {before : World}
    {result : Except Failure (List (String × Nat)) × World}
    (ended : Download config choice options.directory before result) :
    ∃ calls, before.channel.Sent calls result.2.channel ∧
      (calls = [] ∨ ∃ locator, choice.locator? = some locator ∧
        Course config options before.tree (.entries locator) calls) := by
  cases ended with
  | unlocated absent => exact ⟨[], .refl _, .inl rfl⟩
  | unlisted locator answer channel error located sent failed =>
    exact ⟨_, sent, .inr ⟨locator, located, .last answer rfl⟩⟩
  | listed locator answer channel entries result located sent given ended =>
    obtain ⟨calls, asked, course⟩ := of_downloads before.tree ended
    have led : Progress.Step config options before.tree (.entries locator) answer
        (.downloads locator entries.items before.tree) :=
      .entries locator answer entries given
    exact ⟨_, sent.trans asked, .inr ⟨locator, located, .step rfl led course⟩⟩

end

end Catalog
