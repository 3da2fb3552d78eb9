set_option autoImplicit false

namespace Catalog

structure Filter where
  key : String
  value : String
  deriving DecidableEq, Repr

def quotedKeys : List String := ["name", "group", "handle", "event"]

def Filter.clause (filter : Filter) : String :=
  if quotedKeys.contains filter.key then "(" ++ filter.key ++ ":\"" ++ filter.value ++ "\")"
  else "(" ++ filter.key ++ ":" ++ filter.value ++ ")"

-- One clause for each filter, in order. Keys are not checked: the service refuses those it does not know.
def buildQuery (filters : List Filter) : String :=
  " & ".intercalate (filters.map Filter.clause)

def titleFilters (name kind category : String) : List Filter :=
  [⟨"name", name⟩, ⟨"type", kind⟩, ⟨"category", category⟩]

end Catalog
