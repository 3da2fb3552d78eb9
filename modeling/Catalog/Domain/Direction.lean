import Catalog.Domain.Mark

set_option autoImplicit false

namespace Catalog.Domain

inductive Direction where
  | leftToRight
  | rightToLeft
  | arabicLetter
  | arabicNumber
  | europeanNumber
  | separator
  | terminator
  | common
  | neutral
  | boundary
  | mark
  deriving DecidableEq, Repr

-- As of Unicode 17.
def rightToLeftRows : List String :=
  ["5BE-5F4 7C0-7F5 7FA-85E 10800-1091B 10920-10B35 10B40-10CFF 10D4A-10D4F 10D6F-10D8F",
   "10E80-10EB1 10F00-10F27 10F70-10FF6 1E800-1E95F"]

def arabicLetterRows : List String :=
  ["608 60B 60D 61B-64A 66D-6D5 6E5-6E6 6EE-6EF 6FA-7B1 860-8C9 FBB2-FBC2 FE73 10D00-10D23",
   "10EC2-10EC7 10F30-10F59 1EC71-1ED3D"]

def arabicNumberRows : List String :=
  ["660-669 66B-66C 10D30-10D49 10E60-10E7E"]

def europeanNumberRows : List String :=
  ["30-39 6F0-6F9 102E1-102FB"]

def separatorRows : List String :=
  ["2B 2D 2212"]

def terminatorRows : List String :=
  ["23-25 A2-A5 B0-B1 58F 609-60A 66A 9F2-9F3 9FB AF1 BF9 E3F 17DB 2030-2032 20A0-20C1 212E 2213",
   "A838-A839 11FDD-11FE0 1E2FF"]

def commonRows : List String :=
  ["2C 2E-2F 3A 60C 2044"]

def neutralRows : List String :=
  ["21-22 26-2A 3B-60 7B-7E A1 A6-AE B6-D7 F7 2B9-2BA 2C2-2CF 2D2-2ED 2EF-2FF 375 3F6 58A-58E",
   "606-607 60E-60F 6DE 6E9 7F6-7F9 BF3-BF8 BFA C78-C7E F3A-F3D 1390-1399 1400 169B-169C 17F0-180A",
   "1940-1945 19DE-19FF 2010-2027 2035-2043 2045-205E 2104-2129 213A-214D 218A-2211 2214-2335",
   "237B-2394 2396-26AB 26AD-27FF 2900-2BFF 2CE5-2CEA 2CF9-2CFF 2E00-3004 3008-3020 3030 3037",
   "303D-303F 30A0 30FB 31C0-31E5 4DC0-4DFF A490-A4C6 A60D-A60F A673-A67F A700-A721 A788 A828-A82B",
   "A874-A877 AB6A-AB6B FBC3-FE46 10101 10140-1018C 10190-101A0 1091F 10B39-10B3F 10D6E",
   "10ED0-10ED8 11052-11065 11660-1166C 11FD5-11FDC 11FE1-11FF1 16FE2 1CC00-1CEF0 1D1E9-1D245",
   "1D300-1D356 1EEF0-1F12F 1F16D-1F16F 1F1AD 1F260-1FBFA"]

def boundaryRows : List String :=
  ["0-8 E-1B 7F 200C-200D"]

-- All other characters run from left to right.
def directions : List (Direction × List (Nat × Nat)) :=
  [(.rightToLeft, Text.ranges rightToLeftRows), (.arabicLetter, Text.ranges arabicLetterRows),
   (.arabicNumber, Text.ranges arabicNumberRows), (.europeanNumber, Text.ranges europeanNumberRows),
   (.separator, Text.ranges separatorRows), (.terminator, Text.ranges terminatorRows),
   (.common, Text.ranges commonRows), (.neutral, Text.ranges neutralRows),
   (.boundary, Text.ranges boundaryRows)]

-- Marks with a direction of their own.
def directedMarks : List Nat := [0xCBF, 0xCC6, 0x11A07, 0x11A08, 0x11C3F]

def direction (c : Char) : Direction :=
  if isNonspacing c && !directedMarks.contains c.toNat then .mark
  else ((directions.find? fun entry => Text.within entry.2 c.toNat).map (·.1)).getD .leftToRight

def Direction.isRightward : Direction → Bool
  | .rightToLeft | .arabicLetter | .arabicNumber => true
  | _ => false

def runsRightToLeft (label : List Char) : Bool :=
  label.any fun c => (direction c).isRightward

def Direction.isPlain : Direction → Bool
  | .europeanNumber | .separator | .terminator | .common | .neutral | .boundary | .mark => true
  | _ => false

def hasOneDirection (label : List Char) : Bool :=
  let kinds := label.map direction
  let last := (kinds.reverse.dropWhile (· == .mark)).head?
  match kinds.head? with
  | none => true
  | some .leftToRight =>
    kinds.all (fun kind => kind == .leftToRight || kind.isPlain) &&
      (last == some .leftToRight || last == some .europeanNumber)
  | some first =>
    (first == .rightToLeft || first == .arabicLetter) &&
      kinds.all (fun kind => kind.isRightward || kind.isPlain) &&
      (last == some .europeanNumber || (last.map Direction.isRightward).getD false) &&
      -- Numbers of one kind only.
      !(kinds.contains .europeanNumber && kinds.contains .arabicNumber)

end Catalog.Domain
