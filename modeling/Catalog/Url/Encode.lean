import Catalog.Text.Hex
import Catalog.Url.Form

set_option autoImplicit false

namespace Catalog.Url

def encodeChar (marks : List Char) (c : Char) : List Char :=
  if c.toNat < 32 || c.toNat ≥ 127 || marks.contains c then
    (String.utf8EncodeChar c).flatMap Form.percent
  else [c]

def encodeMarks (marks : List Char) (text : List Char) : String :=
  String.ofList (text.flatMap (encodeChar marks))

def fragmentMarks : List Char := [' ', '"', '<', '>', Char.ofNat 96]
def pathMarks : List Char := fragmentMarks ++ ['#', '?', '\x7b', '\x7d']
def userMarks : List Char := pathMarks ++ ['/', ':', ';', '=', '@', '[', '\\', ']', '^', '|']
def queryMarks : List Char := [' ', '"', '#', '<', '>']

def percentDecode : List Char → List UInt8
  | '%' :: a :: b :: rest =>
    match Text.hexValue? a, Text.hexValue? b with
    | some high, some low => UInt8.ofNat (high * 16 + low) :: percentDecode rest
    | _, _ => 37 :: percentDecode (a :: b :: rest)
  | c :: rest => String.utf8EncodeChar c ++ percentDecode rest
  | [] => []

end Catalog.Url
