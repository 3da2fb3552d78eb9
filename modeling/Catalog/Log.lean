import Catalog.Text.Split
import Catalog.Text.Unsigned

set_option autoImplicit false

namespace Catalog

inductive Level where
  | error
  | warn
  | info
  | debug
  | trace
  deriving DecidableEq, Repr

def Level.text : Level → String
  | .error => "ERROR"
  | .warn => "WARN"
  | .info => "INFO"
  | .debug => "DEBUG"
  | .trace => "TRACE"

def Level.rank : Level → Nat
  | .error => 1
  | .warn => 2
  | .info => 3
  | .debug => 4
  | .trace => 5

structure Span where
  name : String
  fields : List (String × String)
  deriving DecidableEq, Repr

def Span.text (span : Span) : String :=
  span.name ++ String.join (span.fields.map fun (key, value) => " " ++ key ++ "=" ++ value)

structure Event where
  level : Level
  span : Option Span
  message : String
  fields : List (String × String)
  deriving DecidableEq, Repr

structure LogFilter where
  most : Option Level
  deriving DecidableEq, Repr

def LogFilter.shows (filter : LogFilter) (level : Level) : Bool :=
  match filter.most with
  | some most => level.rank ≤ most.rank
  | none => false

/-- The level of a name in letters of either case, or of a number with any zeros before it. -/
def LogFilter.ofLevel? (text : String) : Option LogFilter :=
  match text.toLower with
  | "off" => some ⟨none⟩
  | "error" => some ⟨some .error⟩
  | "warn" => some ⟨some .warn⟩
  | "info" => some ⟨some .info⟩
  | "debug" => some ⟨some .debug⟩
  | "trace" => some ⟨some .trace⟩
  | _ =>
    if text.toList.all Char.isDigit then
      match Unsigned.readWord text with
      | .ok 0 => some ⟨none⟩
      | .ok 1 => some ⟨some .error⟩
      | .ok 2 => some ⟨some .warn⟩
      | .ok 3 => some ⟨some .info⟩
      | .ok 4 => some ⟨some .debug⟩
      | .ok 5 => some ⟨some .trace⟩
      | _ => none
    else none

def startsName (c : Char) : Bool :=
  c.isAlphanum || c == '-' || c == ':' || c == '_'

def LogFilter.part? (text : List Char) : Option (Option LogFilter) :=
  match LogFilter.ofLevel? (String.ofList text), Text.cut '=' text with
  | some filter, _ => some (some filter)
  | none, (name, level) =>
    let isLevel (level : List Char) := level.isEmpty || (LogFilter.ofLevel? (String.ofList level)).isSome
    -- Names are those of other programs, so nothing is shown for them.
    if ((name.dropWhile Char.isWhitespace).head?.any startsName) && level.all isLevel then some none else none

/-- Reads a filter. The last level for everything counts; a filter without parts shows errors only. -/
def LogFilter.read? (text : String) : Option LogFilter := do
  let parts := (Text.splitAt ',' text.toList).filter (!·.isEmpty)
  if parts.isEmpty then some ⟨some .error⟩
  else
    let filters ← parts.mapM LogFilter.part?
    some ((filters.reverse.findSome? id).getD ⟨none⟩)

-- Logging is set up once in a program; why a second time fails.
def alreadyLogging : String :=
  "failed to install log subscriber: a global default trace dispatcher has already been set"

end Catalog
