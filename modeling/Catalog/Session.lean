import Catalog.Client
import Catalog.Console
import Catalog.Query
import Catalog.Save

set_option autoImplicit false

namespace Catalog

inductive Stage where
  | presets
  | search
  | entries (id : String)
  | download (path : String)
  deriving DecidableEq, Repr

def Stage.failure : Stage → String
  | .presets => "Failed to fetch presets"
  | .search => "Search request failed"
  | .entries id => "Failed to fetch entries for " ++ id
  | .download path => "Failed to download " ++ path

inductive Failure where
  | exchange (stage : Stage) (error : Error)
  | prompt (fault : PromptFault)
  | noLocator (label : String)
  | save (fault : SaveFault)

def Failure.message : Failure → String
  | .exchange stage _ => stage.failure
  | .prompt .endOfInput => "Reached end of file"
  | .prompt .noTerminal => "a number can only be asked for on a terminal"
  | .noLocator label => "'" ++ label ++ "' has no id or category to download from"
  | .save fault => fault.message

def Failure.causes : Failure → List String
  | .exchange _ error => error.message :: error.causes
  | .prompt _ | .noLocator _ => []
  | .save fault => fault.causes

structure SearchOptions where
  name : Option String
  kind : String
  category : String
  directory : String
  deriving DecidableEq, Repr

def optionText {α : Type} (text : α → String) : Option α → String
  | some x => "Some(" ++ text x ++ ")"
  | none => "None"

def SearchResult.text (result : SearchResult) : String :=
  "SearchResultItem \x7b id: " ++ optionText Text.quoted result.id ++
    ", category: " ++ optionText toString result.category ++
    ", name: " ++ Text.quoted result.name ++
    ", group: " ++ optionText Text.quoted result.group ++ " \x7d"

def searchingEvent (query : String) : Event :=
  ⟨.info, none, "searching", [("query", query)]⟩

def selectedEvent (choice : SearchResult) : Event :=
  ⟨.debug, none, "selected result", [("choice", choice.text)]⟩

section

variable {m : Type → Type} [Monad m]

def atStage {α : Type} (stage : Stage) (call : m (Except Error α)) : ExceptT Failure m α :=
  ExceptT.mk do return (← call).mapError (.exchange stage)

def prompting {α : Type} (prompt : m (Except PromptFault α)) : ExceptT Failure m α :=
  ExceptT.mk do return (← prompt).mapError .prompt

def downloadItem (client : Client m) (console : Console m) (disk : Disk m) (locator : Locator)
    (directory : String) (item : ContentItem) : ExceptT Failure m (String × Nat) := do
  let bytes ← atStage (.download item.path) (client.download locator item.id)
  let path ← (item.save disk client.record directory bytes).adapt .save
  ExceptT.lift (console.print (item.path ++ " " ++ toString bytes.length))
  return (path, bytes.length)

def downloadItems (client : Client m) (console : Console m) (disk : Disk m) (locator : Locator)
    (directory : String) : List ContentItem → ExceptT Failure m (List (String × Nat))
  | [] => pure []
  | item :: rest => do
    let written ← downloadItem client console disk locator directory item
    let others ← downloadItems client console disk locator directory rest
    return written :: others

def download (client : Client m) (console : Console m) (disk : Disk m) (choice : SearchResult)
    (directory : String) : ExceptT Failure m (List (String × Nat)) := do
  match choice.locator? with
  | none => throw (.noLocator choice.label)
  | some locator =>
    let entries ← atStage (.entries locator.id) (client.entries locator)
    downloadItems client console disk locator directory entries.items

def askName (console : Console m) : Option String → ExceptT Failure m String
  | some name => pure name
  | none => prompting (console.askText "Give name of game")

def greet (client : Client m) (console : Console m) (name? : Option String) : ExceptT Failure m String := do
  let presets ← atStage .presets client.presets
  ExceptT.lift (("Presets:" :: presets.map Preset.line).forM console.print)
  askName console name?

def SearchOptions.query (options : SearchOptions) (name : String) : String :=
  buildQuery (titleFilters name options.kind options.category)

def find (client : Client m) (query : String) : ExceptT Failure m (List SearchResult) := do
  ExceptT.lift (client.record (searchingEvent query))
  atStage .search (client.search query)

def choose (client : Client m) (console : Console m) (results : List SearchResult) :
    ExceptT Failure m SearchResult := do
  ExceptT.lift ((listing results).forM console.print)
  let index ← prompting (console.askNumber "Your choice" results.length)
  let choice := results[index]
  ExceptT.lift (client.record (selectedEvent choice))
  return choice

def deliver (client : Client m) (console : Console m) (disk : Disk m) (directory : String)
    (choice : SearchResult) : ExceptT Failure m Unit := do
  let written ← download client console disk choice directory
  if written.isEmpty then
    ExceptT.lift (console.print ("'" ++ choice.label ++ "' has no downloadable content."))

def session (client : Client m) (console : Console m) (disk : Disk m) (options : SearchOptions) :
    ExceptT Failure m Unit := do
  let name ← greet client console options.name
  let results ← find client (options.query name)
  if results.isEmpty then
    ExceptT.lift (console.print ("No results for '" ++ name ++ "'."))
  else
    let choice ← choose client console results
    deliver client console disk options.directory choice

end

end Catalog
