import Catalog.Error

set_option autoImplicit false

namespace Catalog

structure Config where
  baseUrl : String
  timeout : Timeout
  cookie : Option String
  userAgent : String

def defaultBaseUrl : String := "http://hackerswithstyle.se/leet"

def defaultTimeoutSeconds : Nat := 50

def defaultUserAgent : String := "assembly64-cli/0.1.0"

def dropSlashes (text : List Char) : List Char :=
  (text.reverse.dropWhile (· == '/')).reverse

theorem dropSlashes_append (text : List Char) (count : Nat) :
    dropSlashes (text ++ List.replicate count '/') = dropSlashes text := by
  simp [dropSlashes]

theorem dropSlashes_dropSlashes (text : List Char) : dropSlashes (dropSlashes text) = dropSlashes text := by
  simp only [dropSlashes, List.reverse_reverse]
  congr 1
  induction text.reverse with
  | nil => rfl
  | cons c rest ih => by_cases slash : c = '/' <;> simp [slash, ih]

def Config.new (baseUrl : String) (timeout : Timeout) : Config where
  baseUrl := String.ofList (dropSlashes baseUrl.toList)
  timeout := timeout
  cookie := none
  userAgent := defaultUserAgent

def Config.withCookie (config : Config) (cookie : String) : Config :=
  { config with cookie := some cookie }

def Timeout.check (duration : Duration) : Except Error Timeout :=
  match Timeout.of? duration with
  | some timeout => .ok timeout
  | none => .error (.config .zeroTimeout)

end Catalog
