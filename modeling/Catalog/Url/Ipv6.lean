import Catalog.Text.Hex
import Catalog.Text.Split

set_option autoImplicit false

namespace Catalog.Url.Ipv6

def groupCount : Nat := 8

def group? (text : List Char) : Option Nat :=
  if text.isEmpty || text.length > 4 then none else Text.hexNumber? text

-- A number below 256 without zeros before it.
def byte? (text : List Char) : Option Nat :=
  if text.isEmpty || text.length > 3 || !text.all Char.isDigit || (text.length > 1 && text.head? == some '0') then
    none
  else
    let value := text.foldl (fun value c => value * 10 + (c.toNat - 48)) 0
    if value < 256 then some value else none

def decimalGroups? (text : List Char) : Option (List Nat) := do
  match ← (Text.splitAt '.' text).mapM byte? with
  | [a, b, c, d] => some [a * 256 + b, c * 256 + d]
  | _ => none

def groups? (isLast : Bool) : List (List Char) → Option (List Nat)
  | [] => some []
  | text :: rest => do
    let front ←
      if isLast && rest.isEmpty && text.contains '.' then decimalGroups? text
      else (group? text).map ([·])
    return front ++ (← groups? isLast rest)

def run? (isLast : Bool) (text : List Char) : Option (List Nat) :=
  if text.isEmpty then some [] else groups? isLast (Text.splitAt ':' text)

def cutGap : List Char → Option (List Char × List Char)
  | ':' :: ':' :: rest => some ([], rest)
  | c :: rest => (cutGap rest).map fun (front, back) => (c :: front, back)
  | [] => none

def read? (text : List Char) : Option (List Nat) := do
  match cutGap text with
  | none =>
    let groups ← groups? true (Text.splitAt ':' text)
    if groups.length = groupCount then some groups else none
  | some (front, back) =>
    let front ← run? false front
    let back ← run? true back
    -- At least one group has been left out.
    if front.length + back.length < groupCount then
      some (front ++ List.replicate (groupCount - (front.length + back.length)) 0 ++ back)
    else none

structure Gap where
  start : Nat
  length : Nat
  deriving DecidableEq, Repr

def longer (best gap : Gap) : Gap :=
  if best.length < gap.length then gap else best

def longestGap (groups : List Nat) : Gap :=
  ((List.range groups.length).map fun start =>
    ⟨start, ((groups.drop start).takeWhile (· == 0)).length⟩).foldl longer ⟨0, 0⟩

def joined (groups : List Nat) : String :=
  ":".intercalate (groups.map fun group => String.ofList (Nat.toDigits 16 group))

/-- The text of an address: the first of the longest runs of two or more zeros is left out. -/
def text (groups : List Nat) : String :=
  let gap := longestGap groups
  if gap.length < 2 then joined groups
  else joined (groups.take gap.start) ++ "::" ++ joined (groups.drop (gap.start + gap.length))

end Catalog.Url.Ipv6
