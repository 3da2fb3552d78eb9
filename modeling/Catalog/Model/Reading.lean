import Catalog.Model
import Catalog.Json.Record

set_option autoImplicit false

namespace Catalog

open Json

def PresetValue.schema : Schema PresetValue where
  title := "struct PresetValue"
  fields :=
    [.of "aqlKey" false string fun key value => { value with key },
      .of "name" false (optional string) fun name value => { value with name }]
  blank := .blank

def Preset.schema : Schema Preset where
  title := "struct Preset"
  fields :=
    [.of "type" false string fun kind preset => { preset with kind },
      .of "description" false (optional string) fun description preset => { preset with description },
      .of "values" false (list PresetValue.schema.read) fun values preset => { preset with values }]
  blank := .blank

def SearchResult.schema : Schema SearchResult where
  title := "struct SearchResultItem"
  fields :=
    [.of "id" false (optional string) fun id result => { result with id },
      .of "category" false (optional natural32) fun category result => { result with category },
      .of "name" false string fun name result => { result with name },
      .of "group" false (optional string) fun group result => { result with group }]
  blank := .blank

def ContentItem.schema : Schema ContentItem where
  title := "struct ContentItem"
  fields :=
    [.of "id" true natural32 fun id item => { item with id },
      .of "path" true string fun path item => { item with path }]
  blank := .blank

def ContentEntries.schema : Schema ContentEntries where
  title := "struct ContentEntries"
  fields := [.of "contentEntry" false (list ContentItem.schema.read) fun items entries => { entries with items }]
  blank := .blank

end Catalog
