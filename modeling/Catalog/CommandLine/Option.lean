import Catalog.Text.Plain
import Catalog.Text.Unsigned

set_option autoImplicit false

namespace Catalog.CommandLine

inductive Setting where
  | baseUrl
  | timeout
  | cookie
  | name
  | kind
  | category
  | outputDir
  | verbose
  | quiet
  | help
  | version
  deriving DecidableEq, Repr

namespace Setting

def all : List Setting :=
  [baseUrl, timeout, cookie, name, kind, category, outputDir, verbose, quiet, help, version]

def long : Setting → String
  | baseUrl => "base-url"
  | timeout => "timeout"
  | cookie => "cookie"
  | name => "name"
  | kind => "type"
  | category => "category"
  | outputDir => "output-dir"
  | verbose => "verbose"
  | quiet => "quiet"
  | help => "help"
  | version => "version"

def short? : Setting → Option Char
  | timeout => some 't'
  | name => some 'n'
  | outputDir => some 'o'
  | verbose => some 'v'
  | quiet => some 'q'
  | help => some 'h'
  | version => some 'V'
  | _ => none

def valueName? : Setting → Option String
  | baseUrl => some "BASE_URL"
  | timeout => some "TIMEOUT"
  | cookie => some "COOKIE"
  | name => some "NAME"
  | kind => some "KIND"
  | category => some "CATEGORY"
  | outputDir => some "OUTPUT_DIR"
  | _ => none

def takesValue (setting : Setting) : Bool :=
  setting.valueName?.isSome

def valueText (setting : Setting) : String :=
  match setting.valueName? with
  | some value => " <" ++ value ++ ">"
  | none => if setting = verbose then "..." else ""

def shown (setting : Setting) : String :=
  "--" ++ setting.long ++ setting.valueText

def ofLong? (name : List Char) : Option Setting :=
  all.find? fun setting => setting.long.toList == name

def ofShort? (c : Char) : Option Setting :=
  all.find? fun setting => setting.short? == some c

end Setting

inductive Fault where
  | unknown (argument : String)
  | unneededValue (setting : Setting) (value : String)
  | missingValue (setting : Setting)
  | invalidNumber (setting : Setting) (value : String) (fault : Unsigned.Fault)
  | zero (setting : Setting) (value : String)
  | repeated (setting : Setting)
  | together (first second : Setting)
  deriving DecidableEq, Repr

-- What was typed is shown without the sequences that would control the terminal.
def Fault.message : Fault → String
  | .unknown argument => "error: unexpected argument '" ++ Text.plain argument ++ "' found"
  | .unneededValue setting value =>
    "error: unexpected value '" ++ Text.plain value ++ "' for '" ++ setting.shown ++
      "' found; no more were expected"
  | .missingValue setting => "error: a value is required for '" ++ setting.shown ++ "' but none was supplied"
  | .invalidNumber setting value fault =>
    "error: invalid value '" ++ Text.plain value ++ "' for '" ++ setting.shown ++ "': " ++ fault.message
  | .zero setting value =>
    "error: invalid value '" ++ Text.plain value ++ "' for '" ++ setting.shown ++
      "': 0 is not in 1..18446744073709551615"
  | .repeated setting => "error: the argument '" ++ setting.shown ++ "' cannot be used multiple times"
  | .together first second =>
    "error: the argument '" ++ first.shown ++ "' cannot be used with '" ++ second.shown ++ "'"

inductive Given where
  | text (setting : Setting) (value : String)
  | timeout (seconds : Nat)
  | verbose (count : Nat)
  | quiet
  deriving DecidableEq, Repr

def Given.setting : Given → Setting
  | .text setting _ => setting
  | .timeout _ => .timeout
  | .verbose _ => .verbose
  | .quiet => .quiet

end Catalog.CommandLine
