import Catalog.Json.Record

set_option autoImplicit false

namespace Catalog.Json

inductive Blank where
  | space
  | tab
  | lineFeed
  | carriageReturn
  deriving DecidableEq, Repr

def Blank.char : Blank → Char
  | .space => ' '
  | .tab => '\t'
  | .lineFeed => '\n'
  | .carriageReturn => '\r'

abbrev Blanks := List Blank

def writeBlanks (blanks : Blanks) : List Char :=
  blanks.map Blank.char

-- Digits of base 10, at least one.
structure Digits where
  first : Fin 10
  more : List (Fin 10)
  deriving DecidableEq, Repr

def Digits.all (digits : Digits) : List (Fin 10) :=
  digits.first :: digits.more

def Digits.write (digits : Digits) : List Char :=
  digits.all.map fun digit => Nat.digitChar digit.val

def valueAfter (value : Nat) (digits : List (Fin 10)) : Nat :=
  digits.foldl (fun value digit => value * 10 + digit.val) value

def Digits.value (digits : Digits) : Nat :=
  valueAfter 0 digits.all

structure Whole extends Digits where
  canonical : first = 0 → more = []
  deriving DecidableEq, Repr

structure ExponentLiteral where
  isUpper : Bool
  sign : Option Bool
  digits : Digits
  deriving DecidableEq, Repr

structure NumberLiteral where
  isNegative : Bool
  whole : Whole
  fraction : Option Digits
  exponent : Option ExponentLiteral
  deriving DecidableEq, Repr

def writeSign : Option Bool → List Char
  | none => []
  | some false => ['+']
  | some true => ['-']

def ExponentLiteral.write (exponent : ExponentLiteral) : List Char :=
  (if exponent.isUpper then 'E' else 'e') :: writeSign exponent.sign ++ exponent.digits.write

def writeFraction : Option Digits → List Char
  | none => []
  | some digits => '.' :: digits.write

def writeExponent : Option ExponentLiteral → List Char
  | none => []
  | some exponent => exponent.write

def NumberLiteral.write (n : NumberLiteral) : List Char :=
  (if n.isNegative then ['-'] else []) ++ n.whole.write ++ writeFraction n.fraction ++ writeExponent n.exponent

structure HexDigit where
  value : Fin 16
  isUpper : Bool
  deriving DecidableEq, Repr

def HexDigit.char (digit : HexDigit) : Char :=
  if digit.isUpper then (Nat.digitChar digit.value).toUpper else Nat.digitChar digit.value

structure Quad where
  first : HexDigit
  second : HexDigit
  third : HexDigit
  fourth : HexDigit
  deriving DecidableEq, Repr

def Quad.number (quad : Quad) : Nat :=
  ((quad.first.value * 16 + quad.second.value) * 16 + quad.third.value) * 16 + quad.fourth.value

inductive Letter where
  | quote
  | backslash
  | slash
  | backspace
  | formFeed
  | lineFeed
  | carriageReturn
  | tab
  deriving DecidableEq, Repr

def Letter.mark : Letter → Char
  | .quote => '"'
  | .backslash => '\\'
  | .slash => '/'
  | .backspace => 'b'
  | .formFeed => 'f'
  | .lineFeed => 'n'
  | .carriageReturn => 'r'
  | .tab => 't'

def Letter.char : Letter → Char
  | .quote => '"'
  | .backslash => '\\'
  | .slash => '/'
  | .backspace => '\x08'
  | .formFeed => '\x0c'
  | .lineFeed => '\n'
  | .carriageReturn => '\r'
  | .tab => '\t'

-- Every character stands for itself in a string but these and the controls.
def IsPlain (c : Char) : Prop :=
  c ≠ '"' ∧ c ≠ '\\' ∧ 32 ≤ c.toNat

instance (c : Char) : Decidable (IsPlain c) :=
  inferInstanceAs (Decidable (_ ∧ _))

inductive Mark where
  | plain (c : Char) (stands : IsPlain c)
  | short (letter : Letter)
  | numbered (quad : Quad)
  deriving DecidableEq

def Mark.write : Mark → List Char
  | .plain c _ => [c]
  | .short letter => ['\\', letter.mark]
  | .numbered quad => ['\\', 'u', quad.first.char, quad.second.char, quad.third.char, quad.fourth.char]

def writeMarks (marks : List Mark) : List Char :=
  '"' :: marks.flatMap Mark.write ++ ['"']

structure Padded (τ : Type) where
  before : Blanks
  value : τ
  after : Blanks

structure Member (τ : Type) extends Padded τ where
  lead : Blanks
  name : List Mark
  gap : Blanks

-- A value as a text spells it. The blanks `inside` a list or an object are those before its closing bracket.
inductive Literal where
  | null
  | bool (value : Bool)
  | number (number : NumberLiteral)
  | string (marks : List Mark)
  | list (elements : List (Padded Literal)) (inside : Blanks)
  | object (members : List (Member Literal)) (inside : Blanks)

mutual

def Literal.write : Literal → List Char
  | .null => ['n', 'u', 'l', 'l']
  | .bool true => ['t', 'r', 'u', 'e']
  | .bool false => ['f', 'a', 'l', 's', 'e']
  | .number n => n.write
  | .string marks => writeMarks marks
  | .list elements inside => '[' :: Literal.writeElements true elements ++ writeBlanks inside ++ [']']
  | .object members inside => '\x7b' :: Literal.writeMembers true members ++ writeBlanks inside ++ ['\x7d']

def Literal.writeElements (isFirst : Bool) : List (Padded Literal) → List Char
  | [] => []
  | ⟨before, value, after⟩ :: rest =>
    (if isFirst then [] else [',']) ++ writeBlanks before ++ value.write ++ writeBlanks after ++
      Literal.writeElements false rest

def Literal.writeMembers (isFirst : Bool) : List (Member Literal) → List Char
  | [] => []
  | ⟨⟨before, value, after⟩, lead, name, gap⟩ :: rest =>
    (if isFirst then [] else [',']) ++ writeBlanks lead ++ writeMarks name ++ writeBlanks gap ++
      ':' :: writeBlanks before ++ value.write ++ writeBlanks after ++ Literal.writeMembers false rest

end

theorem Literal.induction {P : Literal → Prop} (null : P .null) (bool : ∀ value, P (.bool value))
    (number : ∀ n, P (.number n)) (string : ∀ marks, P (.string marks))
    (list : ∀ elements inside, (∀ element ∈ elements, P element.value) → P (.list elements inside))
    (object : ∀ members inside, (∀ member ∈ members, P member.value) → P (.object members inside)) :
    ∀ literal, P literal
  | .null => null
  | .bool value => bool value
  | .number n => number n
  | .string marks => string marks
  | .list elements inside => list elements inside fun element present =>
    have := List.sizeOf_lt_of_mem present
    Literal.induction null bool number string list object element.value
  | .object members inside => object members inside fun member present =>
    have := List.sizeOf_lt_of_mem present
    Literal.induction null bool number string list object member.value
  termination_by literal => sizeOf literal
  decreasing_by
    · rcases element with ⟨before, value, after⟩
      simp only [Padded.mk.sizeOf_spec, Literal.list.sizeOf_spec] at this ⊢
      omega
    · rcases member with ⟨⟨before, value, after⟩, lead, name, gap⟩
      simp only [Member.mk.sizeOf_spec, Padded.mk.sizeOf_spec, Literal.object.sizeOf_spec] at this ⊢
      omega

def Literal.bytes (literal : Literal) : Bytes :=
  Utf8.encode literal.write

def blankBytes (blanks : Blanks) : Bytes :=
  Utf8.encode (writeBlanks blanks)

def markBytes (marks : List Mark) : Bytes :=
  Utf8.encode (marks.flatMap Mark.write)

def elementTail (isFirst : Bool) (elements : List (Padded Literal)) (inside : Blanks) (rest : Bytes) : Bytes :=
  Utf8.encode (Literal.writeElements isFirst elements) ++ (blankBytes inside ++ closeList :: rest)

def memberTail (isFirst : Bool) (members : List (Member Literal)) (inside : Blanks) (rest : Bytes) : Bytes :=
  Utf8.encode (Literal.writeMembers isFirst members) ++ (blankBytes inside ++ closeObject :: rest)

def separator (isFirst : Bool) : Bytes :=
  if isFirst then [] else [comma]

theorem encode_separator (isFirst : Bool) : Utf8.encode (if isFirst then [] else [',']) = separator isFirst := by
  cases isFirst <;> rfl

theorem bytes_null : Literal.null.bytes = 110 :: nullRest := rfl

theorem bytes_true : (Literal.bool true).bytes = 116 :: trueRest := rfl

theorem bytes_false : (Literal.bool false).bytes = 102 :: falseRest := rfl

theorem encode_marks (marks : List Mark) : Utf8.encode (writeMarks marks) = quote :: (markBytes marks ++ [quote]) := by
  rw [writeMarks, Utf8.encode_append]
  rfl

theorem bytes_string (marks : List Mark) : (Literal.string marks).bytes = quote :: (markBytes marks ++ [quote]) := by
  rw [Literal.bytes, Literal.write, encode_marks]

section tails

variable (isFirst : Bool) (inside : Blanks) (rest : Bytes)

theorem bytes_list (elements : List (Padded Literal)) :
    (Literal.list elements inside).bytes ++ rest = openList :: elementTail true elements inside rest := by
  rw [Literal.bytes, Literal.write, Utf8.encode_append, Utf8.encode_append, List.append_assoc, List.append_assoc]
  rfl

theorem bytes_object (members : List (Member Literal)) :
    (Literal.object members inside).bytes ++ rest = openObject :: memberTail true members inside rest := by
  rw [Literal.bytes, Literal.write, Utf8.encode_append, Utf8.encode_append, List.append_assoc, List.append_assoc]
  rfl

theorem elementTail_nil : elementTail isFirst [] inside rest = blankBytes inside ++ closeList :: rest := rfl

theorem elementTail_cons (element : Padded Literal) (more : List (Padded Literal)) :
    elementTail isFirst (element :: more) inside rest =
      separator isFirst ++ (blankBytes element.before ++ (element.value.bytes ++ (blankBytes element.after ++
        elementTail false more inside rest))) := by
  simp only [elementTail, Literal.writeElements, Utf8.encode_append, encode_separator, List.append_assoc]
  rfl

theorem memberTail_cons (member : Member Literal) (more : List (Member Literal)) :
    memberTail isFirst (member :: more) inside rest =
      separator isFirst ++ (blankBytes member.lead ++ quote :: (markBytes member.name ++
        quote :: (blankBytes member.gap ++ colon :: (blankBytes member.before ++ (member.value.bytes ++
          (blankBytes member.after ++ memberTail false more inside rest)))))) := by
  have mark : String.utf8EncodeChar ':' = [colon] := rfl
  simp only [memberTail, Literal.writeMembers, Utf8.encode_append, Utf8.encode_cons, encode_separator, encode_marks,
    mark, List.append_assoc, List.cons_append, List.nil_append]
  rfl

end tails

example : (Literal.list [⟨[], .null, []⟩, ⟨[.space], .bool true, []⟩] []).write = "[null, true]".toList := by
  decide

end Catalog.Json
