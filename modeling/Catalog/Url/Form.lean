import Catalog.Text.Utf8

set_option autoImplicit false

namespace Catalog.Form

structure Pair where
  name : String
  value : String
  deriving DecidableEq, Repr

def isPlain (b : UInt8) : Bool :=
  (48 ≤ b && b ≤ 57) || (65 ≤ b && b ≤ 90) || (97 ≤ b && b ≤ 122) || b = 42 || b = 45 || b = 46 || b = 95

def hexDigit (n : Nat) : Char :=
  if n < 10 then Char.ofNat (48 + n) else Char.ofNat (55 + n)

def percent (b : UInt8) : List Char :=
  ['%', hexDigit (b.toNat / 16), hexDigit (b.toNat % 16)]

def encodeByte (b : UInt8) : List Char :=
  if isPlain b then [Char.ofNat b.toNat]
  else if b = 32 then ['+']
  else percent b

def encodeText (text : List Char) : List Char :=
  (Utf8.encode text).flatMap encodeByte

def Pair.encode (pair : Pair) : List Char :=
  encodeText pair.name.toList ++ '=' :: encodeText pair.value.toList

def encodePairs : List Pair → List Char
  | [] => []
  | [pair] => pair.encode
  | pair :: rest => pair.encode ++ '&' :: encodePairs rest

def encode (pairs : List Pair) : String :=
  String.ofList (encodePairs pairs)

end Catalog.Form
