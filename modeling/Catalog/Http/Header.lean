import Catalog.Http.Message
import Catalog.Text.Utf8

set_option autoImplicit false

namespace Catalog

def isTokenChar (c : Char) : Bool :=
  c.isAlphanum || "!#$%&'*+-.^_|~".toList.contains c || c == Char.ofNat 96

-- The longest name that can be sent.
def nameLimit : Nat := 65535

def isHeaderName (name : String) : Bool :=
  !name.isEmpty && name.length ≤ nameLimit && name.toList.all fun c => isTokenChar c || c == '"'

def isHeaderByte (b : UInt8) : Bool :=
  b == 9 || (32 ≤ b && b != 127)

def isHeaderValue (value : String) : Bool :=
  (Utf8.encode value.toList).all isHeaderByte

inductive HeaderFault where
  | name (name : String)
  | value (name : String)
  deriving DecidableEq, Repr

def Header.fault? (header : Header) : Option HeaderFault :=
  if !isHeaderName header.name then some (.name header.name)
  else if !isHeaderValue header.value then some (.value header.name.toLower)
  else none

def headerFault? (headers : List Header) : Option HeaderFault :=
  headers.findSome? Header.fault?

theorem headerFault?_eq_none_iff (headers : List Header) :
    headerFault? headers = none ↔
      ∀ header ∈ headers, isHeaderName header.name = true ∧ isHeaderValue header.value = true := by
  simp only [headerFault?, List.findSome?_eq_none_iff, Header.fault?]
  refine forall_congr' fun header => forall_congr' fun _ => ?_
  cases isHeaderName header.name <;> cases isHeaderValue header.value <;> simp

def isPadding (c : Char) : Bool :=
  c == ' ' || c == '\t'

-- A value without the blanks around it, which carry no meaning.
def trimValue (value : String) : String :=
  String.ofList ((value.toList.dropWhile isPadding).reverse.dropWhile isPadding).reverse

end Catalog
