import Catalog.Text.Quoted
import Catalog.Decimal.Shortest

set_option autoImplicit false

namespace Catalog.Json

inductive Found where
  | null
  | bool (value : Bool)
  | integer (value : Int)
  | float (value : Float)
  | string (value : String)
  | list
  | object

inductive Cause where
  | unfinishedList
  | unfinishedObject
  | unfinishedString
  | unfinishedValue
  | expectedColon
  | expectedListEnd
  | expectedObjectEnd
  | expectedWord
  | expectedValue
  | invalidEscape
  | invalidNumber
  | numberOutOfRange
  | invalidText
  | controlCharacter
  | keyNotString
  | loneSurrogate
  | trailingComma
  | trailingCharacters
  | unfinishedPair
  | tooDeep
  | wrongKind (found : Found) (expected : String)
  | wrongNumber (found : Int) (expected : String)
  | missingField (name : String)
  | repeatedField (name : String)
  | tooShort (length : Nat) (expected : String)

-- Doubles are written in full from 0.00001 to below 10^16.
def floatStyle : Decimal.Style := ⟨-5, 15⟩

def floatText (x : Float) : String :=
  floatStyle.text x

def Found.text : Found → String
  | .null => "null"
  | .bool true => "boolean `true`"
  | .bool false => "boolean `false`"
  | .integer value => "integer `" ++ toString value ++ "`"
  | .float value => "floating point `" ++ floatText value ++ "`"
  | .string value => "string " ++ Text.quoted value
  | .list => "sequence"
  | .object => "map"

def Cause.text : Cause → String
  | .unfinishedList => "EOF while parsing a list"
  | .unfinishedObject => "EOF while parsing an object"
  | .unfinishedString => "EOF while parsing a string"
  | .unfinishedValue => "EOF while parsing a value"
  | .expectedColon => "expected `:`"
  | .expectedListEnd => "expected `,` or `]`"
  | .expectedObjectEnd => "expected `,` or `\x7d`"
  | .expectedWord => "expected ident"
  | .expectedValue => "expected value"
  | .invalidEscape => "invalid escape"
  | .invalidNumber => "invalid number"
  | .numberOutOfRange => "number out of range"
  | .invalidText => "invalid unicode code point"
  | .controlCharacter => "control character (\\u0000-\\u001F) found while parsing a string"
  | .keyNotString => "key must be a string"
  | .loneSurrogate => "lone leading surrogate in hex escape"
  | .trailingComma => "trailing comma"
  | .trailingCharacters => "trailing characters"
  | .unfinishedPair => "unexpected end of hex escape"
  | .tooDeep => "recursion limit exceeded"
  | .wrongKind found expected => "invalid type: " ++ found.text ++ ", expected " ++ expected
  | .wrongNumber found expected => "invalid value: integer `" ++ toString found ++ "`, expected " ++ expected
  | .missingField name => "missing field `" ++ name ++ "`"
  | .repeatedField name => "duplicate field `" ++ name ++ "`"
  | .tooShort length expected => "invalid length " ++ toString length ++ ", expected " ++ expected

/-- A refusal with as many bytes left as lay after the place that shows it. -/
structure Fault where
  cause : Cause
  left : Nat

def stop {α : Type} (cause : Cause) (left : List UInt8) : Except Fault α :=
  .error ⟨cause, left.length⟩

-- Refuses because of the next byte, which counts as seen; at the end there is none.
def stopAt {α : Type} (cause : Cause) (left : List UInt8) : Except Fault α :=
  .error ⟨cause, left.length - 1⟩

/-- A refusal with its place in the whole text: lines count from 1, and columns count the bytes of the
line that were read. -/
structure Failure where
  cause : Cause
  line : Nat
  column : Nat

def newline : UInt8 := 10

def Fault.place (text : List UInt8) (fault : Fault) : Failure :=
  let seen := text.take (text.length - fault.left)
  { cause := fault.cause
    line := seen.count newline + 1
    column := (seen.reverse.takeWhile (· != newline)).length }

def Failure.message (failure : Failure) : String :=
  failure.cause.text ++ s!" at line {failure.line} column {failure.column}"

end Catalog.Json
