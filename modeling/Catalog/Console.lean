import Catalog.Text.Unsigned

set_option autoImplicit false

namespace Catalog

inductive PromptFault where
  | endOfInput
  | noTerminal
  deriving DecidableEq, Repr

structure Console (m : Type → Type) where
  print : String → m Unit
  askText : String → m (Except PromptFault String)
  askNumber : String → (bound : Nat) → m (Except PromptFault (Fin bound))

structure Terminal where
  isAttended : Bool
  lines : List String
  shown : List String
  refusals : List String
  deriving DecidableEq, Repr

def readNumber (bound : Nat) (line : String) : Except String (Fin bound) :=
  match Unsigned.readWord line with
  | .error fault => .error fault.message
  | .ok n => if h : n < bound then .ok ⟨n, h⟩ else .error s!"choose a number between 0 and {bound - 1}"

def nextText : List String → Option (String × List String)
  | [] => none
  | line :: rest => if line.isEmpty then nextText rest else some (line, rest)

structure NumberAnswer (bound : Nat) where
  number : Option (Fin bound)
  rest : List String
  refusals : List String

def nextNumber (bound : Nat) : List String → NumberAnswer bound
  | [] => ⟨none, [], []⟩
  | line :: rest =>
    if line.isEmpty then nextNumber bound rest
    else
      match readNumber bound line with
      | .ok n => ⟨some n, rest, []⟩
      | .error refusal =>
        let later := nextNumber bound rest
        { later with refusals := refusal :: later.refusals }

def Terminal.print (terminal : Terminal) (line : String) : Terminal :=
  { terminal with shown := terminal.shown ++ [line] }

def Terminal.askText (terminal : Terminal) : Except PromptFault String × Terminal :=
  if terminal.isAttended then
    match nextText terminal.lines with
    | some (line, rest) => (.ok line, { terminal with lines := rest })
    | none => (.error .endOfInput, { terminal with lines := [] })
  -- Without a terminal nobody is asked, and the text is empty.
  else (.ok "", terminal)

def Terminal.askNumber (terminal : Terminal) (bound : Nat) : Except PromptFault (Fin bound) × Terminal :=
  if terminal.isAttended then
    let answer := nextNumber bound terminal.lines
    let terminal := { terminal with lines := answer.rest, refusals := terminal.refusals ++ answer.refusals }
    match answer.number with
    | some n => (.ok n, terminal)
    | none => (.error .endOfInput, terminal)
  else (.error .noTerminal, terminal)

end Catalog
