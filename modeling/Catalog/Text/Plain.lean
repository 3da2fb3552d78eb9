/-!
Text without the control sequences of terminals. A sequence starts with the escape character and ends with
a character of its own kind; nothing of it is shown. Controls outside a sequence are dropped too, except
the tab and the ends of lines and pages.
-/

set_option autoImplicit false

namespace Catalog.Text

inductive Sequence where
  | outside
  | escape
  /-- After a mark that another character completes. -/
  | escapeMark
  | control
  | deviceHead
  | deviceText
  | command
  deriving DecidableEq, Repr

def isLayout (c : Char) : Bool :=
  c == '\t' || c == '\n' || c == '\x0c' || c == '\r'

def Sequence.start (c : Char) : Sequence :=
  if c == '[' then .control
  else if c == ']' then .command
  else if c == 'P' then .deviceHead
  else if c == 'X' || c == '^' || c == '_' then .deviceText
  else if ' ' ≤ c && c ≤ '/' then .escapeMark
  else if '0' ≤ c && c ≤ '~' then .outside
  else .escape

def Sequence.next (sequence : Sequence) (c : Char) : Sequence :=
  match sequence with
  | .outside => .outside
  | .escape => .start c
  | .escapeMark => if '0' ≤ c && c ≤ '~' then .outside else .escapeMark
  | .control => if '@' ≤ c && c ≤ '~' then .outside else .control
  | .deviceHead => if '@' ≤ c && c ≤ '~' then .deviceText else .deviceHead
  -- Such a text ends at a byte, which a longer character may hold.
  | .deviceText => if (String.utf8EncodeChar c).contains 0x9C then .outside else .deviceText
  | .command => if c == '\x07' then .outside else .command

def Sequence.allowsLayout : Sequence → Bool
  | .deviceHead | .deviceText | .command => false
  | _ => true

def plainFrom : Sequence → List Char → List Char
  | _, [] => []
  | sequence, c :: rest =>
    if c == '\x1b' then plainFrom .escape rest
    else if c == '\x18' || c == '\x1a' then plainFrom .outside rest
    else if isLayout c && sequence.allowsLayout then c :: plainFrom .outside rest
    else if sequence == .outside && ' ' ≤ c && c != '\x7f' then c :: plainFrom .outside rest
    else plainFrom (sequence.next c) rest

def plain (text : String) : String :=
  String.ofList (plainFrom .outside text.toList)

end Catalog.Text
