import Catalog.Json.Fault
import Catalog.Text.Utf8

set_option autoImplicit false

namespace Catalog.Json

abbrev Bytes := List UInt8

abbrev Reader (α : Type) := Bytes → Except Fault (α × Bytes)

def isBlank (b : UInt8) : Bool :=
  b = 32 || b = 10 || b = 9 || b = 13

def skipBlanks (left : Bytes) : Bytes :=
  left.dropWhile isBlank

def isDigit (b : UInt8) : Bool :=
  48 ≤ b && b ≤ 57

def digitOf (b : UInt8) : Nat :=
  b.toNat - 48

abbrev quote : UInt8 := 34
abbrev comma : UInt8 := 44
abbrev minus : UInt8 := 45
abbrev colon : UInt8 := 58
abbrev openList : UInt8 := 91
abbrev backslash : UInt8 := 92
abbrev closeList : UInt8 := 93
abbrev openObject : UInt8 := 123
abbrev closeObject : UInt8 := 125

def word : Bytes → Bytes → Except Fault Bytes
  | [], left => .ok left
  | _ :: _, [] => stop .unfinishedValue []
  | expected :: more, b :: left => if b = expected then word more left else stop .expectedWord left

def nullRest : Bytes := [117, 108, 108]
def trueRest : Bytes := [114, 117, 101]
def falseRest : Bytes := [97, 108, 115, 101]

def hexDigit? (b : UInt8) : Option Nat :=
  if isDigit b then some (digitOf b)
  else if 65 ≤ b && b ≤ 70 then some (b.toNat - 55)
  else if 97 ≤ b && b ≤ 102 then some (b.toNat - 87)
  else none

def hexQuad : Reader Nat
  | a :: b :: c :: d :: left =>
    match hexDigit? a, hexDigit? b, hexDigit? c, hexDigit? d with
    | some a, some b, some c, some d => .ok (((a * 16 + b) * 16 + c) * 16 + d, left)
    | _, _, _, _ => stop .invalidEscape left
  | _ => stop .unfinishedString []

def isLeading (n : Nat) : Bool :=
  0xD800 ≤ n && n < 0xDC00

def isTrailing (n : Nat) : Bool :=
  0xDC00 ≤ n && n < 0xE000

def secondHalf (leading : Nat) : Reader Char
  | [] => stop .unfinishedString []
  | 92 :: [] => stop .unfinishedString []
  | 92 :: 117 :: left => do
    let (n, left) ← hexQuad left
    if isTrailing n then
      .ok (Char.ofNat ((leading - 0xD800) * 1024 + (n - 0xDC00) + 0x10000), left)
    else stop .loneSurrogate left
  | 92 :: _ :: left => stop .unfinishedPair left
  | _ :: left => stop .unfinishedPair left

def letterEscape? (b : UInt8) : Option Char :=
  if b = quote then some '"'
  else if b = backslash then some '\\'
  else if b = 47 then some '/'
  else if b = 98 then some '\x08'
  else if b = 102 then some '\x0c'
  else if b = 110 then some '\n'
  else if b = 114 then some '\r'
  else if b = 116 then some '\t'
  else none

def escape : Reader Char
  | [] => stop .unfinishedString []
  | b :: left =>
    match letterEscape? b with
    | some c => .ok (c, left)
    | none =>
      if b = 117 then do
        let (n, left) ← hexQuad left
        if isTrailing n then stop .loneSurrogate left
        else if isLeading n then secondHalf n left
        else .ok (Char.ofNat n, left)
      else stop .invalidEscape left

/-- The bytes of a string after its opening quote, with its escapes resolved; `done` holds the bytes before,
from the last to the first. -/
def contentFrom : Nat → Bytes → Reader Bytes
  | 0, _, _ => stop .unfinishedString []
  | _ + 1, _, [] => stop .unfinishedString []
  | fuel + 1, done, b :: left =>
    if b = quote then .ok (done.reverse, left)
    else if b = backslash then
      match escape left with
      | .ok (c, left) => contentFrom fuel ((String.utf8EncodeChar c).reverse ++ done) left
      | .error fault => .error fault
    else if b < 32 then stop .controlCharacter left
    else contentFrom fuel (b :: done) left

def text (left : Bytes) : Except Fault (String × Bytes) := do
  -- Every step takes at least one byte.
  let (content, after) ← contentFrom (left.length + 1) [] left
  match Utf8.decode content with
  | .ok chars => .ok (String.ofList chars, after)
  -- Only the whole content is looked at, so any other fault of the string comes first; the place counts
  -- back from its end by the bytes that are no text.
  | .error failure => .error ⟨.invalidText, after.length + (content.length - failure.index)⟩

def skipEscape : Bytes → Except Fault Bytes
  | [] => stop .unfinishedString []
  | b :: left =>
    match letterEscape? b with
    | some _ => .ok left
    | none =>
      if b = 117 then do
        let (_, left) ← hexQuad left
        .ok left
      else stop .invalidEscape left

def skipTextFrom : Nat → Bytes → Except Fault Bytes
  | 0, _ => stop .unfinishedString []
  | _ + 1, [] => stop .unfinishedString []
  | fuel + 1, b :: left =>
    if b = quote then .ok left
    else if b = backslash then
      match skipEscape left with
      | .ok left => skipTextFrom fuel left
      | .error fault => .error fault
    else if b < 32 then stop .controlCharacter (b :: left)
    else skipTextFrom fuel left

def skipText (left : Bytes) : Except Fault Bytes :=
  skipTextFrom (left.length + 1) left

end Catalog.Json
