import Catalog.Domain.Composed
import Catalog.Domain.Direction
import Catalog.Domain.Joining
import Catalog.Domain.Mapping
import Catalog.Domain.Punycode

set_option autoImplicit false

namespace Catalog.Domain

structure Label where
  text : List Char
  written : List Char
  deriving DecidableEq, Repr

def codedMark : List Char := "xn--".toList

-- Writing and reading take long for long labels.
def writeLimit : Nat := 1000
def readLimit : Nat := 2000

def Label.ofDigits? (digits : List Char) : Option Label := do
  let text ← if digits.length ≤ readLimit then Punycode.decode? digits else none
  let isNeeded := text.any (!Punycode.isPlain ·)
  if isNeeded && text.all (use · == .allowed) && composed text == text then
    some ⟨text, codedMark ++ digits⟩
  else none

def Label.read? (label : List Char) : Option Label :=
  match codedMark.isPrefixOf? label with
  | some digits => Label.ofDigits? digits
  | none =>
    if label.all Punycode.isPlain then some ⟨label, label⟩
    else if label.length ≤ writeLimit then some ⟨label, codedMark ++ Punycode.encode label⟩
    else none

def isForbidden (c : Char) : Bool :=
  c.toNat ≤ 32 || c.toNat == 127 || "#/:<>?@[\\]^|%".toList.contains c

def Label.isFair (label : Label) : Bool :=
  !(label.text.head?.any isMark) && areJoinersFair label.text && !label.text.any isForbidden

def replaced? : List Char → Option (List Char)
  | [] => some []
  | c :: rest =>
    match use c with
    | .allowed => (replaced? rest).map (c :: ·)
    | .ignored => replaced? rest
    | .replaced text => (replaced? rest).map (text ++ ·)
    | .refused => none

def written? (name : List Char) : Option (List Char) := do
  let text ← replaced? name
  let labels ← (Text.splitAt '.' (composed text)).mapM Label.read?
  let isMixed := labels.any fun label => runsRightToLeft label.text
  if labels.all Label.isFair && (!isMixed || labels.all fun label => hasOneDirection label.text) then
    some (Text.joinWith '.' (labels.map Label.written))
  else none

end Catalog.Domain
