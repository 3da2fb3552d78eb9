import Catalog.Text.Hex
import Catalog.Text.Split

set_option autoImplicit false

namespace Catalog.Text

def within (ranges : List (Nat × Nat)) (n : Nat) : Bool :=
  ranges.any fun range => range.1 ≤ n && n ≤ range.2

def number (digits : List Char) : Nat :=
  (hexNumber? digits).getD 0

def range (word : List Char) : Nat × Nat :=
  match cut '-' word with
  | (first, some last) => (number first, number last)
  | (only, none) => (number only, number only)

def words (row : String) : List (List Char) :=
  splitAt ' ' row.toList

def ranges (rows : List String) : List (Nat × Nat) :=
  rows.flatMap fun row => (words row).map range

structure Marked where
  first : Nat
  last : Nat
  value : Nat
  deriving DecidableEq, Repr

def marked (word : List Char) : Marked :=
  let (front, value) := cut ':' word
  let (first, last) := range front
  ⟨first, last, number (value.getD [])⟩

def markedRanges (rows : List String) : List Marked :=
  rows.flatMap fun row => (words row).map marked

def marked? (ranges : List Marked) (n : Nat) : Option Marked :=
  ranges.find? fun range => range.first ≤ n && n ≤ range.last

structure Spelling where
  number : Nat
  text : List Char
  deriving DecidableEq, Repr

def spellingsFrom (n : Nat) : List (List Char) → List Spelling
  | [] => []
  | word :: rest =>
    ⟨n, (splitAt '+' word).map fun digits => Char.ofNat (number digits)⟩ :: spellingsFrom (n + 1) rest

/-- Spellings of characters that follow one another, after the number of the first: `FB00 66+66 66+69`.
A comma starts a new number. -/
def spellings (rows : List String) : List Spelling :=
  rows.flatMap fun row =>
    (splitAt ',' row.toList).flatMap fun run =>
      match (splitAt ' ' run).filter (!·.isEmpty) with
      | first :: texts => spellingsFrom (number first) texts
      | [] => []

def spelling? (spellings : List Spelling) (n : Nat) : Option (List Char) :=
  (spellings.find? (·.number == n)).map (·.text)

end Catalog.Text
