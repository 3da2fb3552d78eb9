set_option autoImplicit false

namespace Catalog.Utf8

def encode (text : List Char) : List UInt8 :=
  text.flatMap String.utf8EncodeChar

@[simp] theorem encode_nil : encode [] = [] := rfl

@[simp] theorem encode_cons (c : Char) (text : List Char) :
    encode (c :: text) = String.utf8EncodeChar c ++ encode text := rfl

@[simp] theorem encode_append (front back : List Char) :
    encode (front ++ back) = encode front ++ encode back := by
  simp [encode]

/-- How many bytes a character has that starts with this byte; 0 where none does. -/
def width (lead : UInt8) : Nat :=
  if lead < 0x80 then 1
  else if lead < 0xC2 then 0
  else if lead < 0xE0 then 2
  else if lead < 0xF0 then 3
  else if lead < 0xF5 then 4
  else 0

def isTail (b : UInt8) : Bool :=
  0x80 ≤ b && b < 0xC0

-- The second byte is narrower where overlong forms, surrogates or numbers above U+10FFFF would start.
def isSecond (lead b : UInt8) : Bool :=
  if lead = 0xE0 then 0xA0 ≤ b && b < 0xC0
  else if lead = 0xED then 0x80 ≤ b && b < 0xA0
  else if lead = 0xF0 then 0x90 ≤ b && b < 0xC0
  else if lead = 0xF4 then 0x80 ≤ b && b < 0x90
  else isTail b

inductive Piece where
  | char (c : Char)
  | bad (length : Nat)
  | cut (length : Nat)
  deriving DecidableEq, Repr

def two (a b : UInt8) : Char :=
  Char.ofNat ((a.toNat - 0xC0) * 64 + (b.toNat - 0x80))

def three (a b c : UInt8) : Char :=
  Char.ofNat (((a.toNat - 0xE0) * 64 + (b.toNat - 0x80)) * 64 + (c.toNat - 0x80))

def four (a b c d : UInt8) : Char :=
  Char.ofNat ((((a.toNat - 0xF0) * 64 + (b.toNat - 0x80)) * 64 + (c.toNat - 0x80)) * 64 + (d.toNat - 0x80))

def next (lead : UInt8) (rest : List UInt8) : Piece × List UInt8 :=
  match width lead, rest with
  | 1, _ => (.char (Char.ofNat lead.toNat), rest)
  | 2, [] => (.cut 1, [])
  | 2, b :: after => if isSecond lead b then (.char (two lead b), after) else (.bad 1, rest)
  | 3, [] => (.cut 1, [])
  | 3, b :: after =>
    if isSecond lead b then
      match after with
      | [] => (.cut 2, [])
      | c :: after => if isTail c then (.char (three lead b c), after) else (.bad 2, c :: after)
    else (.bad 1, rest)
  | 4, [] => (.cut 1, [])
  | 4, b :: after =>
    if isSecond lead b then
      match after with
      | [] => (.cut 2, [])
      | c :: after =>
        if isTail c then
          match after with
          | [] => (.cut 3, [])
          | d :: after => if isTail d then (.char (four lead b c d), after) else (.bad 3, d :: after)
        else (.bad 2, c :: after)
    else (.bad 1, rest)
  | _, _ => (.bad 1, rest)

/-- A piece leaves no more than follows its first byte, so cutting ends. -/
theorem next_length_le (lead : UInt8) (rest : List UInt8) :
    (next lead rest).2.length ≤ rest.length := by
  unfold next
  repeat' split
  all_goals simp_all
  all_goals omega

def piecesAfter (done : List Piece) : List UInt8 → List Piece
  | [] => done.reverse
  | lead :: rest =>
    have := next_length_le lead rest
    piecesAfter ((next lead rest).1 :: done) (next lead rest).2
  termination_by bytes => bytes.length
  decreasing_by simp; omega

def pieces (bytes : List UInt8) : List Piece :=
  piecesAfter [] bytes

/-- Why bytes are no text: after `index` good bytes stand `length` bytes that start no character, or,
without a length, a character that the end interrupts. -/
structure Failure where
  index : Nat
  length : Option Nat
  deriving DecidableEq, Repr

def Failure.message (failure : Failure) : String :=
  match failure.length with
  | some length => s!"invalid utf-8 sequence of {length} bytes from index {failure.index}"
  | none => s!"incomplete utf-8 byte sequence from index {failure.index}"

def join (index : Nat) (done : List Char) : List Piece → Except Failure (List Char)
  | [] => .ok done.reverse
  | .char c :: rest => join (index + c.utf8Size) (c :: done) rest
  | .bad length :: _ => .error ⟨index, some length⟩
  | .cut _ :: _ => .error ⟨index, none⟩

def decode (bytes : List UInt8) : Except Failure (List Char) :=
  join 0 [] (pieces bytes)

def Piece.shown : Piece → Char
  | .char c => c
  | .bad _ | .cut _ => '\uFFFD'

def lossy (bytes : List UInt8) : List Char :=
  (pieces bytes).map Piece.shown

end Catalog.Utf8
