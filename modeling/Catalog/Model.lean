set_option autoImplicit false

namespace Catalog

structure PresetValue where
  key : String
  name : Option String
  deriving DecidableEq, Repr

structure Preset where
  kind : String
  description : Option String
  values : List PresetValue
  deriving DecidableEq, Repr

structure SearchResult where
  id : Option String
  category : Option UInt32
  name : String
  group : Option String
  deriving DecidableEq, Repr

structure ContentItem where
  id : UInt32
  path : String
  deriving DecidableEq, Repr

structure ContentEntries where
  items : List ContentItem
  deriving DecidableEq, Repr

def PresetValue.blank : PresetValue := ⟨"", none⟩

def Preset.blank : Preset := ⟨"", none, []⟩

def SearchResult.blank : SearchResult := ⟨none, none, "", none⟩

def ContentItem.blank : ContentItem := ⟨0, ""⟩

def ContentEntries.blank : ContentEntries := ⟨[]⟩

structure Locator where
  id : String
  category : UInt32
  deriving DecidableEq, Repr

def SearchResult.locator? (result : SearchResult) : Option Locator :=
  match result.id, result.category with
  | some id, some category => some ⟨id, category⟩
  | _, _ => none

def SearchResult.label (result : SearchResult) : String :=
  match result.group with
  | some group => result.name ++ " (" ++ group ++ ")"
  | none => result.name

def SearchResult.line (index : Nat) (result : SearchResult) : String :=
  toString index ++ ": " ++ result.label

def listing (results : List SearchResult) : List String :=
  results.mapIdx SearchResult.line

@[simp] theorem listing_length (results : List SearchResult) :
    (listing results).length = results.length := by
  simp [listing]

def Preset.line (preset : Preset) : String :=
  let count := " (" ++ toString preset.values.length ++ " values)"
  match preset.description with
  | some description => "  " ++ preset.kind ++ " - " ++ description ++ count
  | none => "  " ++ preset.kind ++ count

end Catalog
