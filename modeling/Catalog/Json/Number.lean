import Catalog.Json.Lexeme
/-!
Numbers of JSON. A numeral is its digits as they stand; its value is a natural number below 2^64, a
negative integer not below -2^63, or a double. A double is computed from at most 64 bits of leading
digits and a power of ten, so a numeral with many digits need not get the nearest double.
-/

set_option autoImplicit false

namespace Catalog.Json

inductive Number where
  | natural (value : Nat)
  | negative (value : Int)
  | float (value : Float)

structure Exponent where
  isNegative : Bool
  digits : Bytes

structure Numeral where
  isNegative : Bool
  whole : Bytes
  fraction : Option Bytes
  exponent : Option Exponent

def startsWithDigit : Bytes → Bool
  | [] => false
  | b :: _ => isDigit b

-- Reads the digits before the point. `atEnd` is the fault of a text that ends instead.
def wholeDigits (atEnd : Cause) : Reader Bytes
  | [] => stop atEnd []
  | b :: left =>
    if b = 48 then
      -- No digit may follow a leading zero.
      if startsWithDigit left then stopAt .invalidNumber left else .ok ([b], left)
    else if isDigit b then .ok (b :: left.takeWhile isDigit, left.dropWhile isDigit)
    else stop .invalidNumber left

def fractionDigits (atEnd : Cause) : Reader (Option Bytes)
  | 46 :: [] => stopAt atEnd []
  | 46 :: left =>
    if startsWithDigit left then .ok (some (left.takeWhile isDigit), left.dropWhile isDigit)
    else stopAt .invalidNumber left
  | left => .ok (none, left)

def exponentDigits (atEnd : Cause) (isNegative : Bool) : Reader (Option Exponent)
  | [] => stop atEnd []
  | b :: left =>
    if isDigit b then .ok (some ⟨isNegative, b :: left.takeWhile isDigit⟩, left.dropWhile isDigit)
    else stop .invalidNumber left

def exponentPart (atEnd : Cause) : Reader (Option Exponent)
  | [] => .ok (none, [])
  | b :: left =>
    if b = 101 || b = 69 then
      match left with
      | 43 :: left => exponentDigits atEnd false left
      | 45 :: left => exponentDigits atEnd true left
      | left => exponentDigits atEnd false left
    else .ok (none, b :: left)

def numeral (atEnd : Cause) (isNegative : Bool) (left : Bytes) : Except Fault (Numeral × Bytes) := do
  let (whole, left) ← wholeDigits atEnd left
  let (fraction, left) ← fractionDigits atEnd left
  let (exponent, left) ← exponentPart atEnd left
  .ok (⟨isNegative, whole, fraction, exponent⟩, left)

-- Adds digits to a number as long as it stays below `limit`; also returns the digits not added.
def gather (limit : Nat) (value : Nat) : Bytes → Nat × Bytes
  | [] => (value, [])
  | b :: rest =>
    if value * 10 + digitOf b < limit then gather limit (value * 10 + digitOf b) rest
    else (value, b :: rest)

def wordLimit : Nat := UInt64.size

def exponentLimit : Nat := UInt32.size / 2

def powerOfTen (n : Nat) : Float :=
  Float.ofScientific 1 false n

-- Divides by 10^308 until the exponent is in reach; each step brings a double nearer to zero, where it
-- stays.
def scaleDown : Nat → Float → Nat → Float
  | 0, x, _ => x
  | fuel + 1, x, n =>
    if n ≤ 308 then x / powerOfTen n
    else if x == 0 then x
    else scaleDown fuel (x / powerOfTen 308) (n - 308)

def scaled? (digits : Nat) : Int → Option Float
  | .ofNat n =>
    let x := (UInt64.ofNat digits).toFloat
    if n ≤ 308 then
      let y := x * powerOfTen n
      if y.isInf then none else some y
    else if x == 0 then some x
    else none
  | .negSucc n => some (scaleDown 8 (UInt64.ofNat digits).toFloat (n + 1))

def signed (isNegative : Bool) (x : Float) : Float :=
  if isNegative then -x else x

/-- The double of a numeral. Digits that would exceed 64 bits count only by their place: before the
point they raise the exponent, after it they are dropped. -/
def Numeral.float (n : Numeral) (after : Bytes) : Except Fault Float :=
  let (value, dropped) := gather wordLimit 0 n.whole
  let (value, shift) :=
    match n.fraction with
    | none => (value, (dropped.length : Int))
    | some digits =>
      let (longer, unused) := gather wordLimit value digits
      (longer, (dropped.length : Int) - (digits.length - unused.length : Nat))
  let finish (exponent : Int) : Except Fault Float :=
    match scaled? value exponent with
    | some x => .ok (signed n.isNegative x)
    | none => stop .numberOutOfRange after
  match n.exponent with
  | none => finish shift
  | some e =>
    match gather exponentLimit 0 e.digits with
    | (size, []) => finish (if e.isNegative then shift - size else shift + size)
    | (_, _ :: unread) =>
      -- Such an exponent is out of reach whatever the digits are, unless they are all zero.
      if value != 0 && !e.isNegative then .error ⟨.numberOutOfRange, unread.length + after.length⟩
      else .ok (signed n.isNegative 0)

def Numeral.value (n : Numeral) (after : Bytes) : Except Fault Number :=
  match n.fraction, n.exponent, gather wordLimit 0 n.whole with
  | none, none, (value, []) =>
    if !n.isNegative then .ok (.natural value)
    else if 0 < value ∧ value ≤ UInt64.size / 2 then .ok (.negative (-(value : Int)))
    -- Minus zero, or below the least integer.
    else .ok (.float (-(UInt64.ofNat value).toFloat))
  | _, _, _ => (n.float after).map .float

def number : Reader Number
  | 45 :: left => do
    let (n, left) ← numeral .unfinishedValue true left
    let value ← n.value left
    .ok (value, left)
  | left => do
    let (n, left) ← numeral .unfinishedValue false left
    let value ← n.value left
    .ok (value, left)

-- Passes over a number that nobody reads; its value need be in no range.
def skipNumber : Bytes → Except Fault Bytes
  | 45 :: left => do
    let (_, left) ← numeral .invalidNumber true left
    .ok left
  | left => do
    let (_, left) ← numeral .invalidNumber false left
    .ok left

def Number.found : Number → Found
  | .natural value => .integer value
  | .negative value => .integer value
  | .float value => .float value

end Catalog.Json
