import Catalog.Model.Reading
import Catalog.Proofs.Json.Records

set_option autoImplicit false

namespace Catalog

open Json

def PresetValue.ofMembers? (members : List (String × Literal)) : Option PresetValue := do
  let key ← field? members "aqlKey" string? (some "")
  let name ← field? members "name" (optional? string?) (some none)
  return ⟨key, name⟩

def PresetValue.ofLiteral? : Literal → Option PresetValue :=
  record? ["aqlKey", "name"] PresetValue.ofMembers?

def Preset.ofMembers? (members : List (String × Literal)) : Option Preset := do
  let kind ← field? members "type" string? (some "")
  let description ← field? members "description" (optional? string?) (some none)
  let values ← field? members "values" (list? PresetValue.ofLiteral?) (some [])
  return ⟨kind, description, values⟩

def SearchResult.ofMembers? (members : List (String × Literal)) : Option SearchResult := do
  let id ← field? members "id" (optional? string?) (some none)
  let category ← field? members "category" (optional? natural32?) (some none)
  let name ← field? members "name" string? (some "")
  let group ← field? members "group" (optional? string?) (some none)
  return ⟨id, category, name, group⟩

-- Neither field of an item may be absent.
def ContentItem.ofMembers? (members : List (String × Literal)) : Option ContentItem := do
  let id ← field? members "id" natural32? none
  let path ← field? members "path" string? none
  return ⟨id, path⟩

def ContentItem.ofLiteral? : Literal → Option ContentItem :=
  record? ["id", "path"] ContentItem.ofMembers?

def ContentEntries.ofMembers? (members : List (String × Literal)) : Option ContentEntries := do
  let items ← field? members "contentEntry" (list? ContentItem.ofLiteral?) (some [])
  return ⟨items⟩

inductive Kind where
  | presetValue
  | preset
  | result
  | item
  | entries
  deriving DecidableEq, Repr

abbrev Kind.Record : Kind → Type
  | .presetValue => PresetValue
  | .preset => Preset
  | .result => SearchResult
  | .item => ContentItem
  | .entries => ContentEntries

def Kind.schema : (kind : Kind) → Schema kind.Record
  | .presetValue => PresetValue.schema
  | .preset => Preset.schema
  | .result => SearchResult.schema
  | .item => ContentItem.schema
  | .entries => ContentEntries.schema

def Kind.names : Kind → List String
  | .presetValue => ["aqlKey", "name"]
  | .preset => ["type", "description", "values"]
  | .result => ["id", "category", "name", "group"]
  | .item => ["id", "path"]
  | .entries => ["contentEntry"]

def Kind.ofMembers? : (kind : Kind) → List (String × Literal) → Option kind.Record
  | .presetValue => PresetValue.ofMembers?
  | .preset => Preset.ofMembers?
  | .result => SearchResult.ofMembers?
  | .item => ContentItem.ofMembers?
  | .entries => ContentEntries.ofMembers?

def Kind.ofLiteral? (kind : Kind) : Literal → Option kind.Record :=
  record? kind.names kind.ofMembers?

theorem separate_iff {α : Type} (s t : Slot α) :
    Separate s t ↔ s.name ≠ t.name ∧ ∀ x y record, s.write x (t.write y record) = t.write y (s.write x record) :=
  ⟨fun separate => ⟨separate.names, separate.commute⟩, fun given => ⟨given.1, given.2⟩⟩

def PresetValue.layout : Layout PresetValue.schema where
  slots :=
    [⟨"aqlKey", some "", string?, fun key value => { value with key }⟩,
      ⟨"name", some none, optional? string?, fun name value => { value with name }⟩]
  follow :=
    .cons (follows_of _ rfl reads_string) (.cons (follows_of _ rfl (reads_optional reads_string)) .nil)
  separate := by simp [separate_iff]
  unset := by simp [Slot.Unset, PresetValue.schema, PresetValue.blank]

theorem PresetValue.reads : Reads PresetValue.schema.read PresetValue.ofLiteral? :=
  reads_record PresetValue.layout

def Preset.layout : Layout Preset.schema where
  slots :=
    [⟨"type", some "", string?, fun kind preset => { preset with kind }⟩,
      ⟨"description", some none, optional? string?, fun description preset => { preset with description }⟩,
      ⟨"values", some [], list? PresetValue.ofLiteral?, fun values preset => { preset with values }⟩]
  follow :=
    .cons (follows_of _ rfl reads_string) (.cons (follows_of _ rfl (reads_optional reads_string))
      (.cons (follows_of _ rfl (reads_list PresetValue.reads)) .nil))
  separate := by simp [separate_iff]
  unset := by simp [Slot.Unset, Preset.schema, Preset.blank]

def SearchResult.layout : Layout SearchResult.schema where
  slots :=
    [⟨"id", some none, optional? string?, fun id result => { result with id }⟩,
      ⟨"category", some none, optional? natural32?, fun category result => { result with category }⟩,
      ⟨"name", some "", string?, fun name result => { result with name }⟩,
      ⟨"group", some none, optional? string?, fun group result => { result with group }⟩]
  follow :=
    .cons (follows_of _ rfl (reads_optional reads_string)) (.cons (follows_of _ rfl (reads_optional reads_natural32))
      (.cons (follows_of _ rfl reads_string) (.cons (follows_of _ rfl (reads_optional reads_string)) .nil)))
  separate := by simp [separate_iff]
  unset := by simp [Slot.Unset, SearchResult.schema, SearchResult.blank]

def ContentItem.layout : Layout ContentItem.schema where
  slots :=
    [⟨"id", none, natural32?, fun id item => { item with id }⟩,
      ⟨"path", none, string?, fun path item => { item with path }⟩]
  follow := .cons (follows_of _ rfl reads_natural32) (.cons (follows_of _ rfl reads_string) .nil)
  separate := by simp [separate_iff]
  unset := by simp [Slot.Unset]

theorem ContentItem.reads : Reads ContentItem.schema.read ContentItem.ofLiteral? :=
  reads_record ContentItem.layout

def ContentEntries.layout : Layout ContentEntries.schema where
  slots := [⟨"contentEntry", some [], list? ContentItem.ofLiteral?, fun items entries => { entries with items }⟩]
  follow := .cons (follows_of _ rfl (reads_list ContentItem.reads)) .nil
  separate := by simp
  unset := by simp [Slot.Unset, ContentEntries.schema, ContentEntries.blank]

def Kind.layout : (kind : Kind) → Layout kind.schema
  | .presetValue => PresetValue.layout
  | .preset => Preset.layout
  | .result => SearchResult.layout
  | .item => ContentItem.layout
  | .entries => ContentEntries.layout

theorem Kind.names_eq (kind : Kind) : kind.names = kind.layout.slots.map Slot.name := by
  cases kind <;> rfl

theorem Kind.ofMembers?_eq (kind : Kind) : kind.ofMembers? = assemble kind.layout.slots kind.schema.blank := by
  cases kind <;> rfl

theorem Kind.reads (kind : Kind) : Reads kind.schema.read kind.ofLiteral? := by
  rw [Kind.ofLiteral?, kind.names_eq, kind.ofMembers?_eq]
  exact reads_record kind.layout

def Kind.decode (kind : Kind) (text : List Char) : Option kind.Record :=
  (readAll kind.schema.read (Utf8.encode text)).toOption

def Kind.decodeList (kind : Kind) (text : List Char) : Option (List kind.Record) :=
  (readAll (list kind.schema.read) (Utf8.encode text)).toOption

theorem Kind.decode_document (kind : Kind) (before : Blanks) (literal : Literal) (after : Blanks) :
    kind.decode (document before literal after) = kind.ofLiteral? literal :=
  readAll_document kind.reads before literal after

structure Decoding (kind : Kind) : Prop where
  fields : kind.layout.slots.map Slot.name = kind.names
  -- That a member has a name at all is a condition too: half of a pair of escapes names nothing.
  succeeds : ∀ before members inside after,
    (kind.decode (document before (.object members inside) after)).isSome = true ↔
      ∃ named, members.mapM Member.named? = some named ∧ ∀ slot ∈ kind.layout.slots, slot.Met named
  object : ∀ before members inside after,
    kind.decode (document before (.object members inside) after) = members.mapM Member.named? >>= kind.ofMembers?
  permuted : ∀ {members others}, List.Perm members others → ∀ before inside after before' inside' after',
    kind.decode (document before (.object members inside) after) =
      kind.decode (document before' (.object others inside') after')
  inserted : ∀ {member : Member Literal} {name}, member.name? = some name → name ∉ kind.names →
    ∀ front back before inside after before' inside' after',
      kind.decode (document before (.object (front ++ member :: back) inside) after) =
        kind.decode (document before' (.object (front ++ back) inside') after')
  positional : ∀ {members : List (Member Literal)},
    members.map Member.name? = (kind.names.take members.length).map some → ∀ before inside after before' inside' after',
      kind.decode (document before (.list (members.map Member.toPadded) inside) after) =
        kind.decode (document before' (.object members inside') after')
  tooLong : ∀ {elements : List (Padded Literal)}, kind.names.length < elements.length → ∀ before inside after,
    kind.decode (document before (.list elements inside) after) = none
  list : ∀ before (elements : List (Padded Literal)) inside after,
    kind.decodeList (document before (.list elements inside) after) =
      elements.mapM fun element => kind.decode (document element.before element.value element.after)

theorem Kind.ofMembers?_perm (kind : Kind) {members others : List (String × Literal)} (same : members.Perm others) :
    kind.ofMembers? members = kind.ofMembers? others := by
  rw [kind.ofMembers?_eq]
  exact assemble_perm _ _ same

theorem Kind.ofMembers?_unknown (kind : Kind) {name : String} (unknown : name ∉ kind.names)
    (front back : List (String × Literal)) (value : Literal) :
    kind.ofMembers? (front ++ (name, value) :: back) = kind.ofMembers? (front ++ back) := by
  have other : ∀ slot ∈ kind.layout.slots, slot.name ≠ name := by
    rintro slot present rfl
    exact unknown (kind.names_eq ▸ List.mem_map_of_mem present)
  rw [kind.ofMembers?_eq]
  exact assemble_unknown other _ front back value

theorem mapM_named?_eq_zip {members : List (Member Literal)} {names : List String}
    (named : members.map Member.name? = (names.take members.length).map some) :
    members.mapM Member.named? = some (names.zip (members.map (·.value))) := by
  induction members generalizing names with
  | nil => simp
  | cons member rest ih =>
    cases names with
    | nil => simp at named
    | cons name names =>
      obtain ⟨first, later⟩ := List.cons.inj named
      rw [List.mapM_cons, Member.named?, first, ih later]
      rfl

theorem Kind.decoding (kind : Kind) : Decoding kind := by
  constructor
  case fields => exact kind.names_eq.symm
  case succeeds =>
    intro before members inside after
    rw [kind.decode_document, Kind.ofLiteral?, record?, kind.ofMembers?_eq]
    cases members.mapM Member.named? with
    | none => simp
    | some named => simpa using assemble_isSome_iff kind.layout.slots kind.schema.blank named
  case object => exact fun before members inside after => kind.decode_document before _ after
  case permuted =>
    intro members others same before inside after before' inside' after'
    rw [kind.decode_document, kind.decode_document]
    exact record?_perm kind.ofMembers?_perm same inside inside'
  case inserted =>
    intro member name named unknown front back before inside after before' inside' after'
    rw [kind.decode_document, kind.decode_document]
    exact record?_unknown (kind.ofMembers?_unknown unknown) front back named inside inside'
  case positional =>
    intro members named before inside after before' inside' after'
    rw [kind.decode_document, kind.decode_document, Kind.ofLiteral?, record?, record?, mapM_named?_eq_zip named]
    have fits : members.length ≤ kind.names.length := by
      have lengths := congrArg List.length named
      simp only [List.length_map, List.length_take] at lengths
      omega
    rw [List.length_map, if_pos fits, List.map_map]
    rfl
  case tooLong =>
    intro elements long before inside after
    rw [kind.decode_document, Kind.ofLiteral?, record?, if_neg (Nat.not_le.2 long)]
  case list =>
    intro before elements inside after
    rw [Kind.decodeList, readAll_document (reads_list kind.reads), list?]
    simp only [kind.decode_document]

-- Half of a pair of escapes.
def surrogate : Mark :=
  .numbered ⟨⟨13, false⟩, ⟨8, false⟩, ⟨0, false⟩, ⟨0, false⟩⟩

def surrogateName : Member Literal where
  before := []
  value := .null
  after := []
  lead := []
  name := [surrogate]
  gap := []

def surrogateValue : Member Literal where
  before := []
  value := .string [surrogate]
  after := []
  lead := []
  name := [.plain 'n' (by decide), .plain 'a' (by decide), .plain 'm' (by decide), .plain 'e' (by decide)]
  gap := []

theorem decode_surrogate :
    document [] (.object [surrogateName] []) [] =
      ['\x7b', '"', '\\', 'u', 'd', '8', '0', '0', '"', ':', 'n', 'u', 'l', 'l', '\x7d'] ∧
    document [] (.object [surrogateValue] []) [] =
      ['\x7b', '"', 'n', 'a', 'm', 'e', '"', ':', '"', '\\', 'u', 'd', '8', '0', '0', '"', '\x7d'] ∧
    (Kind.result.decode (document [] (.object [] []) [])).isSome = true ∧
    (Kind.result.decode (document [] (.object [surrogateName] []) [])).isSome = false ∧
    (Kind.result.decode (document [] (.object [surrogateValue] []) [])).isSome = false := by
  decide +kernel

end Catalog
