import Catalog.Json.Number

set_option autoImplicit false

namespace Catalog.Json

inductive Value where
  | null
  | bool (value : Bool)
  | number (value : Number)
  | string (value : String)
  | list (elements : List Value)
  | object (members : List (String × Value))

def Value.nat (n : Nat) : Value :=
  .number (.natural n)

def Value.ofOption {α : Type} (write : α → Value) : Option α → Value
  | some x => write x
  | none => .null

-- Of the members of one name the last is kept, in its own place.
def lastMembers : List (String × Value) → List (String × Value)
  | [] => []
  | member :: rest => if rest.any (·.1 == member.1) then lastMembers rest else member :: lastMembers rest

def hexPair (n : Nat) : List Char :=
  [Nat.digitChar (n / 16), Nat.digitChar (n % 16)]

def writeChar (c : Char) : List Char :=
  if c = '"' then ['\\', '"']
  else if c = '\\' then ['\\', '\\']
  else if c = '\x08' then ['\\', 'b']
  else if c = '\x0c' then ['\\', 'f']
  else if c = '\n' then ['\\', 'n']
  else if c = '\r' then ['\\', 'r']
  else if c = '\t' then ['\\', 't']
  else if c.toNat < 32 then ['\\', 'u', '0', '0'] ++ hexPair c.toNat
  else [c]

def writeString (s : String) : List Char :=
  '"' :: s.toList.flatMap writeChar ++ ['"']

def writeNumber : Number → List Char
  | .natural value => Nat.toDigits 10 value
  | .negative value => '-' :: Nat.toDigits 10 value.natAbs
  | .float value => (floatText value).toList

mutual

def Value.write : Value → List Char
  | .null => ['n', 'u', 'l', 'l']
  | .bool true => ['t', 'r', 'u', 'e']
  | .bool false => ['f', 'a', 'l', 's', 'e']
  | .number value => writeNumber value
  | .string value => writeString value
  | .list elements => '[' :: writeElements elements ++ [']']
  | .object members => '\x7b' :: writeMembers members ++ ['\x7d']

def writeElements : List Value → List Char
  | [] => []
  | [element] => element.write
  | element :: rest => element.write ++ ',' :: writeElements rest

def writeMembers : List (String × Value) → List Char
  | [] => []
  | [(name, value)] => writeString name ++ ':' :: value.write
  | (name, value) :: rest => writeString name ++ ':' :: value.write ++ ',' :: writeMembers rest

end

def Value.text (v : Value) : String :=
  String.ofList v.write

end Catalog.Json
