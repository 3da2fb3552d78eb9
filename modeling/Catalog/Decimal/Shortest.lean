/-!
The fewest decimal digits that read back to a binary number. The reals that round to `m * 2 ^ e` form an
interval; the coarsest grid of multiples of a power of ten that has a point in it gives the digits, and of
two points in the interval the nearer one is taken. Everything is exact arithmetic on natural numbers.
-/

set_option autoImplicit false

namespace Catalog.Decimal

/-- A positive binary number: `mantissa * 2 ^ exponent`. The gap below it is half the gap above when
`narrow`, which is so at a power of two. -/
structure Binary where
  mantissa : Nat
  exponent : Int
  narrow : Bool

structure Scaled where
  digits : Nat
  exponent : Int
  deriving DecidableEq, Repr

def fraction (quarters : Nat) (exponent : Int) : Nat × Nat :=
  match exponent - 2 with
  | .ofNat up => (quarters <<< up, 1)
  | .negSucc down => (quarters, 1 <<< (down + 1))

def crossed (digits : Nat) (grid : Int) (value : Nat × Nat) : Nat × Nat :=
  match grid with
  | .ofNat up => (digits * Nat.pow 10 up * value.2, value.1)
  | .negSucc down => (digits * value.2, value.1 * Nat.pow 10 (down + 1))

/-- Whether a grid point rounds to the number; the ends of the interval do if the mantissa is even. -/
def Binary.rounds (b : Binary) (grid : Int) (digits : Nat) : Bool :=
  let low := crossed digits grid (fraction (4 * b.mantissa - if b.narrow then 1 else 2) b.exponent)
  let high := crossed digits grid (fraction (4 * b.mantissa + 2) b.exponent)
  if b.mantissa % 2 = 0 then low.2 ≤ low.1 && high.1 ≤ high.2 else low.2 < low.1 && high.1 < high.2

def Binary.below (b : Binary) (grid : Int) : Nat :=
  let value := crossed 1 grid (fraction (4 * b.mantissa) b.exponent)
  value.2 / value.1

def Binary.nearerAbove (b : Binary) (grid : Int) (digits : Nat) : Bool :=
  let doubled := crossed (2 * digits + 1) grid (fraction (8 * b.mantissa) b.exponent)
  -- A tie goes to the even point.
  if doubled.1 = doubled.2 then digits % 2 == 1 else doubled.1 < doubled.2

def Binary.onGrid (b : Binary) (grid : Int) : Option Scaled :=
  let d := b.below grid
  match b.rounds grid d, b.rounds grid (d + 1) with
  | true, true => some ⟨if b.nearerAbove grid d then d + 1 else d, grid⟩
  | true, false => some ⟨d, grid⟩
  | false, true => some ⟨d + 1, grid⟩
  | false, false => none

def Binary.search (b : Binary) : Nat → Int → Option Scaled
  | 0, _ => none
  | tries + 1, grid =>
    match b.onGrid grid with
    | some found => some found
    | none => b.search tries (grid - 1)

def Binary.shortest (b : Binary) : Scaled :=
  -- From 10^309, above every double, down to 10^-340, finer than every double.
  (b.search 650 309).getD ⟨0, 0⟩

def hiddenBit : Nat := 1 <<< 52

def binaryOf (x : Float) : Option Binary :=
  let bits : Nat := x.toBits.toNat
  let field : Nat := (bits >>> 52) % 2048
  let low : Nat := bits % hiddenBit
  if field = 0 then (if low = 0 then none else some ⟨low, -1074, false⟩)
  else some ⟨hiddenBit + low, (field : Int) - 1075, low = 0 && field > 1⟩

def isNegative (x : Float) : Bool :=
  x.toBits.toNat ≥ UInt64.size / 2

structure Style where
  leastPlain : Int
  mostPlain : Int

def pointed (digits : List Char) (whole : Nat) : List Char :=
  let padded := digits ++ List.replicate (whole - digits.length) '0'
  let fraction := padded.drop whole
  padded.take whole ++ '.' :: (if fraction.isEmpty then ['0'] else fraction)

def Style.magnitude (style : Style) (x : Float) : List Char :=
  match binaryOf x with
  | none => ['0', '.', '0']
  | some b =>
    let short := b.shortest
    let digits := Nat.toDigits 10 short.digits
    let exponent := short.exponent + (digits.length - 1 : Nat)
    if style.leastPlain ≤ exponent ∧ exponent ≤ style.mostPlain then
      match exponent with
      | .ofNat whole => pointed digits (whole + 1)
      | .negSucc zeros => '0' :: '.' :: List.replicate zeros '0' ++ digits
    else
      let front :=
        match digits with
        | [] => []
        | first :: [] => [first]
        | first :: rest => first :: '.' :: rest
      front ++ 'e' :: (if exponent < 0 then '-' else '+') :: Nat.toDigits 10 exponent.natAbs

def Style.text (style : Style) (x : Float) : String :=
  String.ofList (if isNegative x then '-' :: style.magnitude x else style.magnitude x)

end Catalog.Decimal
