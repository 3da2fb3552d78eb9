import Catalog.Text.Split
/-!
Labels of other scripts in letters, digits and hyphens. The plain characters of a label come first; the
others follow in the order of their numbers, each as the distance from the one before, counted over all
places where it could stand. Distances are written in digits whose weights adapt to the distances so far.
-/

set_option autoImplicit false

namespace Catalog.Domain.Punycode

def isPlain (c : Char) : Bool :=
  c.toNat < 128

def digit (value : Nat) : Char :=
  if value < 26 then Char.ofNat (97 + value) else Char.ofNat (22 + value)

def value? (c : Char) : Option Nat :=
  if 'a' ≤ c && c ≤ 'z' then some (c.toNat - 97)
  else if 'A' ≤ c && c ≤ 'Z' then some (c.toNat - 65)
  else if '0' ≤ c && c ≤ '9' then some (c.toNat - 22)
  else none

/-- The smallest digit that does not end a number, at a place of it. -/
def threshold (bias place : Nat) : Nat :=
  min 26 (max 1 (place - bias))

def scaleDown (distance scale : Nat) : Nat :=
  if 455 < distance then scaleDown (distance / 35) (scale + 36)
  else scale + 36 * distance / (distance + 38)
  termination_by distance
  decreasing_by omega

def adapted (distance count : Nat) (isFirst : Bool) : Nat :=
  let distance := if isFirst then distance / 700 else distance / 2
  scaleDown (distance + distance / count) 0

structure State where
  count : Nat
  distance : Nat
  bias : Nat
  isFirst : Bool

def State.start (count : Nat) : State := ⟨count, 0, 72, true⟩

theorem rest_lt (bias place value : Nat) (reaches : ¬value < threshold bias place) :
    (value - threshold bias place) / (36 - threshold bias place) < value := by
  have positive : 1 ≤ threshold bias place := by unfold threshold; omega
  have := Nat.div_le_self (value - threshold bias place) (36 - threshold bias place)
  omega

def number (bias place value : Nat) : List Char :=
  let least := threshold bias place
  if value < least then [digit value]
  else digit (least + (value - least) % (36 - least)) :: number bias (place + 36) ((value - least) / (36 - least))
  termination_by value
  decreasing_by exact rest_lt bias place value ‹_›

def occurrence (c : Char) (written : List Char × State) (other : Char) : List Char × State :=
  let (done, state) := written
  if other < c then (done, { state with distance := state.distance + 1 })
  else if other = c then
    let bias := adapted state.distance (state.count + 1) state.isFirst
    (done ++ number state.bias 36 state.distance, ⟨state.count + 1, 0, bias, false⟩)
  else written

def encodeFrom (label : List Char) (next : Nat) (written : List Char × State) : List Char → List Char
  | [] => written.1
  | c :: rest =>
    let (done, state) := written
    -- Every number between counts once for each place.
    let state := { state with distance := state.distance + (c.toNat - next) * (state.count + 1) }
    let (done, state) := label.foldl (occurrence c) (done, state)
    encodeFrom label (c.toNat + 1) (done, { state with distance := state.distance + 1 }) rest

def insertOnce (c : Char) : List Char → List Char
  | [] => [c]
  | other :: rest =>
    if c < other then c :: other :: rest
    else if c = other then other :: rest
    else other :: insertOnce c rest

def encode (label : List Char) : List Char :=
  let plain := label.filter isPlain
  let others := (label.filter (!isPlain ·)).foldr insertOnce []
  let front := if plain.isEmpty then [] else plain ++ ['-']
  front ++ encodeFrom label 128 ([], .start plain.length) others

def isCharacter (n : Nat) : Bool :=
  n < 0xD800 || (0xE000 ≤ n && n < 0x110000)

structure Open where
  place : Nat
  weight : Nat
  value : Nat

def Open.start (value : Nat) : Open := ⟨36, 1, value⟩

/-- Reads digits. `next` is the number of the character that was put in last, and `here` the place after it. -/
def decodeFrom (done : List Char) (next here bias : Nat) (part : Open) : List Nat → Option (List Char)
  | [] => if part.place = 36 then some done else none
  | value :: rest =>
    let total := part.value + value * part.weight
    let least := threshold bias part.place
    if value < least then
      let count := done.length + 1
      let next := next + total / count
      let place := total % count
      let bias := adapted (total - here) count (here == 0)
      if isCharacter next then
        decodeFrom (done.insertIdx place (Char.ofNat next)) next (place + 1) bias (.start (place + 1)) rest
      else none
    else decodeFrom done next here bias ⟨part.place + 36, part.weight * (36 - least), total⟩ rest

def decode? (text : List Char) : Option (List Char) := do
  let (front, digits) :=
    match Text.cutLast '-' text with
    | (some (c :: front), back) => (c :: front, back)
    -- A hyphen marks the end of plain characters only if there are any.
    | _ => ([], text)
  if front.all isPlain then decodeFrom front 128 0 72 (.start 0) (← digits.mapM value?) else none

example : encode "bücher".toList = "bcher-kva".toList ∧ decode? "bcher-kva".toList = some "bücher".toList := by
  decide +kernel

end Catalog.Domain.Punycode
