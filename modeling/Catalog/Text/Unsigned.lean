set_option autoImplicit false

namespace Catalog.Unsigned

inductive Fault where
  | empty
  | invalidDigit
  | tooLarge
  deriving DecidableEq, Repr

def Fault.message : Fault → String
  | .empty => "cannot parse integer from empty string"
  | .invalidDigit => "invalid digit found in string"
  | .tooLarge => "number too large to fit in target type"

def digit? (c : Char) : Option Nat :=
  if '0' ≤ c ∧ c ≤ '9' then some (c.toNat - '0'.toNat) else none

def digits (limit value : Nat) : List Char → Except Fault Nat
  | [] => .ok value
  | c :: rest =>
    match digit? c with
    | none => .error .invalidDigit
    -- The number is too large as soon as one digit is, whatever follows it.
    | some d => if value * 10 + d < limit then digits limit (value * 10 + d) rest else .error .tooLarge

def read (limit : Nat) : List Char → Except Fault Nat
  | [] => .error .empty
  | [c] => if c = '+' ∨ c = '-' then .error .invalidDigit else digits limit 0 [c]
  | c :: rest => if c = '+' then digits limit 0 rest else digits limit 0 (c :: rest)

def word : Nat := UInt64.size

def readWord (text : String) : Except Fault Nat :=
  read word text.toList

end Catalog.Unsigned
