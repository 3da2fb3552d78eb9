import Catalog.Json.Skip

set_option autoImplicit false

namespace Catalog.Json

def refuse {α : Type} (expected : String) (left : Bytes) : Except Fault α :=
  let wrong (found : Found) (left : Bytes) : Except Fault α := stop (.wrongKind found expected) left
  match left with
  | [] => stop .unfinishedValue []
  | b :: rest =>
    if b = 110 then do
      let left ← word nullRest rest
      wrong .null left
    else if b = 116 then do
      let left ← word trueRest rest
      wrong (.bool true) left
    else if b = 102 then do
      let left ← word falseRest rest
      wrong (.bool false) left
    else if b = minus || isDigit b then do
      let (n, left) ← number (b :: rest)
      wrong n.found left
    else if b = quote then do
      let (s, left) ← text rest
      wrong (.string s) left
    else if b = openList then wrong .list (b :: rest)
    else if b = openObject then wrong .object (b :: rest)
    else stopAt .expectedValue (b :: rest)

def string : Reader String := fun left =>
  match skipBlanks left with
  | b :: rest => if b = quote then text rest else refuse "a string" (b :: rest)
  | [] => stop .unfinishedValue []

-- A natural number below 2^32, written without sign, fraction or exponent.
def natural32 : Reader UInt32 := fun left =>
  match skipBlanks left with
  | b :: rest =>
    if b = minus || isDigit b then do
      let (n, left) ← number (b :: rest)
      match n with
      | .natural value =>
        if value < UInt32.size then .ok (UInt32.ofNat value, left) else stop (.wrongNumber value "u32") left
      | .negative value => stop (.wrongNumber value "u32") left
      | .float value => stop (.wrongKind (.float value) "u32") left
    else refuse "u32" (b :: rest)
  | [] => stop .unfinishedValue []

def optional {α : Type} (read : Reader α) : Reader (Option α) := fun left =>
  match skipBlanks left with
  | 110 :: rest => do
    let left ← word nullRest rest
    .ok (none, left)
  | left => do
    let (x, left) ← read left
    .ok (some x, left)

def list {α : Type} (read : Reader α) : Reader (List α) := fun left =>
  match skipBlanks left with
  | b :: rest => if b = openList then elements read rest else refuse "a sequence" (b :: rest)
  | [] => stop .unfinishedValue []

structure Field (α : Type) where
  name : String
  isRequired : Bool
  read : Reader (α → α)

def Field.of {α β : Type} (name : String) (isRequired : Bool) (read : Reader β) (write : β → α → α) : Field α where
  name := name
  isRequired := isRequired
  read := fun left => do
    let (x, left) ← read left
    .ok (write x, left)

/-- A kind of record. `blank` is the record of which no field has been read. -/
structure Schema (α : Type) where
  title : String
  fields : List (Field α)
  blank : α

def Schema.wanted {α : Type} (schema : Schema α) : String :=
  schema.title ++ s!" with {schema.fields.length} elements"

def afterObject (left : Bytes) : Bytes :=
  match skipBlanks left with
  | b :: rest => if b = closeObject then rest else b :: rest
  | [] => []

def Schema.membersFrom {α : Type} (schema : Schema α) : Nat → Bool → List String → α → Reader α
  | 0, _, _, _, left => stop .unfinishedObject left
  | fuel + 1, isFirst, seen, record, left => do
    match ← nextName isFirst left with
    | (none, left) =>
      match schema.fields.find? fun field => field.isRequired && !seen.contains field.name with
      | some field => stop (.missingField field.name) left
      | none => .ok (record, left)
    | (some name, left) =>
      match schema.fields.find? (·.name == name) with
      | some field =>
        -- The fault stands at the brace that would follow, if it does.
        if seen.contains name then stop (.repeatedField name) (afterObject left)
        else
          let left ← afterColon left
          let (change, left) ← field.read left
          schema.membersFrom fuel false (name :: seen) (change record) left
      | none =>
        let left ← afterColon left
        let left ← skip left
        schema.membersFrom fuel false seen record left

def listEnd (left : Bytes) : Except Fault Bytes :=
  match skipBlanks left with
  | [] => stop .unfinishedList []
  | b :: rest =>
    if b = closeList then .ok rest
    else if b = comma then
      match skipBlanks rest with
      | [] => stop .trailingCharacters []
      | c :: rest => if c = closeList then stopAt .trailingComma (c :: rest) else stopAt .trailingCharacters (c :: rest)
    else stopAt .trailingCharacters (b :: rest)

def Schema.elementsFrom {α : Type} (schema : Schema α) (index : Nat) (record : α) : List (Field α) → Reader α
  | [], left => do
    let left ← listEnd left
    .ok (record, left)
  | field :: rest, left => do
    let (more, left) ← nextElement (index == 0) left
    if more then
      let (change, left) ← field.read left
      schema.elementsFrom (index + 1) (change record) rest left
    else
      -- A list may end early where no field that is left is required.
      match (field :: rest).findIdx? (·.isRequired) with
      | some ahead => stop (.tooShort (index + ahead) schema.wanted) left
      | none => .ok (record, left)

def Schema.read {α : Type} (schema : Schema α) : Reader α := fun left =>
  match skipBlanks left with
  | [] => stop .unfinishedValue []
  | b :: rest =>
    if b = openObject then schema.membersFrom (rest.length + 1) true [] schema.blank rest
    else if b = openList then schema.elementsFrom 0 schema.blank schema.fields rest
    else refuse schema.title (b :: rest)

end Catalog.Json
