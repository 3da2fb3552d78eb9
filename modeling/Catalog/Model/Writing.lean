import Catalog.Model
import Catalog.Json.Value

set_option autoImplicit false

namespace Catalog

open Json

def PresetValue.toJson (value : PresetValue) : Value :=
  .object [("aqlKey", .string value.key), ("name", .ofOption .string value.name)]

def Preset.toJson (preset : Preset) : Value :=
  .object
    [("type", .string preset.kind),
      ("description", .ofOption .string preset.description),
      ("values", .list (preset.values.map PresetValue.toJson))]

def SearchResult.toJson (result : SearchResult) : Value :=
  .object
    [("id", .ofOption .string result.id),
      ("category", .ofOption (fun category => .nat category.toNat) result.category),
      ("name", .string result.name),
      ("group", .ofOption .string result.group)]

def ContentItem.toJson (item : ContentItem) : Value :=
  .object [("id", .nat item.id.toNat), ("path", .string item.path)]

def ContentEntries.toJson (entries : ContentEntries) : Value :=
  .object [("contentEntry", .list (entries.items.map ContentItem.toJson))]

end Catalog
