import Catalog.Domain.Name
import Catalog.Text.Utf8
import Catalog.Url.Encode
import Catalog.Url.Ipv6

set_option autoImplicit false

namespace Catalog.Url

inductive Fault where
  | relative
  | emptyHost
  | invalidName
  | invalidCharacter
  | invalidPort
  | invalidIpv4
  | invalidIpv6
  deriving DecidableEq, Repr

def Fault.message : Fault → String
  | .relative => "relative URL without a base"
  | .emptyHost => "empty host"
  | .invalidName => "invalid international domain name"
  | .invalidCharacter => "invalid domain character"
  | .invalidPort => "invalid port number"
  | .invalidIpv4 => "invalid IPv4 address"
  | .invalidIpv6 => "invalid IPv6 address"

def isDecimal (c : Char) : Bool :=
  '0' ≤ c ∧ c ≤ '9'

def ipv4Number? (label : List Char) : Option Nat :=
  let (base, digits) :=
    match label with
    -- Nothing after the start counts as zero.
    | '0' :: 'x' :: rest => (16, rest)
    | '0' :: 'X' :: rest => (16, rest)
    | '0' :: c :: rest => (8, c :: rest)
    | _ => (10, label)
  digits.foldl (fun value c => do
    let value ← value
    let digit ← Text.hexValue? c
    if digit < base then some (value * base + digit) else none) (some 0)

def labels (name : List Char) : List (List Char) :=
  let all := Text.splitAt '.' name
  if all.length > 1 && all.getLast? == some [] then all.dropLast else all

-- Whether the last label is a number, so that the name must be four numbers.
def endsInNumber (name : List Char) : Bool :=
  match (labels name).getLast? with
  | none | some [] => false
  | some label =>
    label.all isDecimal ||
      match label with
      | '0' :: x :: rest => (x = 'x' || x = 'X') && rest.all fun c => (Text.hexValue? c).isSome
      | _ => false

def ipv4Value? : List Nat → Option Nat
  | [] => none
  | numbers =>
    -- The last number fills all places that are left.
    let front := numbers.dropLast
    let last := numbers.getLast?.getD 0
    if numbers.length > 4 || front.any (· > 255) || last ≥ 1 <<< (8 * (5 - numbers.length)) then none
    else some (front.zipIdx.foldl (fun value (n, i) => value + n <<< (8 * (3 - i))) last)

def ipv4Text (value : Nat) : String :=
  ".".intercalate ([3, 2, 1, 0].map fun place => toString ((value >>> (8 * place)) % 256))

def ipv4? (name : List Char) : Option String := do
  let parts := labels name
  let numbers ← parts.mapM fun label => if label.isEmpty then none else ipv4Number? label
  let value ← ipv4Value? numbers
  some (ipv4Text value)

def bracketed (text : List Char) : Except Fault String :=
  let groups? := if text.getLast? == some ']' then Ipv6.read? (text.dropLast.drop 1) else none
  match groups? with
  | some groups => .ok ("[" ++ Ipv6.text groups ++ "]")
  | none => .error .invalidIpv6

def namedHost (text : List Char) : Except Fault String :=
  if text.head? == some '[' then bracketed text
  else
    match (Utf8.decode (percentDecode text)).toOption.bind Domain.written? with
    | none => .error .invalidName
    | some name =>
      if name.isEmpty then .error .emptyHost
      else if endsInNumber name then
        match ipv4? name with
        | some address => .ok address
        | none => .error .invalidIpv4
      else .ok (String.ofList name)

def opaqueForbidden : List Char :=
  ['\x00', '\t', '\n', '\r', ' ', '#', '/', ':', '<', '>', '?', '@', '[', '\\', ']', '^', '|']

-- A host of a scheme that nothing is known of: its characters are taken as they are.
def opaqueHost (text : List Char) : Except Fault String :=
  if text.head? == some '[' then bracketed text
  else if text.any opaqueForbidden.contains then .error .invalidCharacter
  else .ok (encodeMarks [] text)

end Catalog.Url
