import Catalog.CommandLine.Arguments

set_option autoImplicit false

namespace Catalog.CommandLine

def programName : String := "assembly64"

def versionText : String := programName ++ " 0.1.0\n"

def Setting.purpose : Setting → String
  | .baseUrl => "Base URL of the Assembly64 service"
  | .timeout => "Per-request timeout in seconds (must be greater than zero)"
  | .cookie => "Session cookie sent with every request"
  | .name => "Game name to search for (prompted when omitted)"
  | .kind => "File type filter"
  | .category => "Category filter"
  | .outputDir => "Directory downloaded files are written to"
  | .verbose => "Increase output verbosity (-v for debug, -vv for trace)"
  | .quiet => "Suppress non-error log output"
  | .help => "Print help"
  | .version => "Print version"

def Setting.default? : Setting → Option String
  | .baseUrl => some defaultBaseUrl
  | .timeout => some (toString defaultTimeoutSeconds)
  | .kind => some "d64"
  | .category => some "games"
  | .outputDir => some "."
  | _ => none

def Environment.variable? (environment : Environment) : Setting → Option (String × String)
  | .baseUrl => some ("ASSEMBLY64_URL", environment.baseUrl.getD "")
  | .cookie => some ("ASSEMBLY64_COOKIE", environment.cookie.getD "")
  | _ => none

def purposeColumn : Nat := 33

def blanks (count : Nat) : String :=
  String.ofList (List.replicate count ' ')

def indented (column : Nat) (text : String) : String :=
  String.ofList (text.toList.flatMap fun c => if c = '\n' then '\n' :: List.replicate column ' ' else [c])

def strong (text : String) : String :=
  "\x1b[1m" ++ text ++ "\x1b[0m"

def Setting.helpLine (environment : Environment) (setting : Setting) : String :=
  let short :=
    match setting.short? with
    | some c => strong ("-" ++ String.ofList [c]) ++ ", "
    | none => "    "
  let names := "  " ++ short ++ strong ("--" ++ setting.long) ++ setting.valueText
  let variablePart :=
    match environment.variable? setting with
    | some (label, value) => " [env: " ++ label ++ "=" ++ value ++ "]"
    | none => ""
  let defaultPart :=
    match setting.default? with
    | some value => " [default: " ++ value ++ "]"
    | none => ""
  -- Every name takes six columns before its dashes.
  names ++ blanks (purposeColumn - (6 + setting.shown.length)) ++
    indented purposeColumn (setting.purpose ++ variablePart ++ defaultPart) ++ "\n"

-- A sequence that the value of a variable leaves open ends at the next name, which starts one of its own.
def helpText (environment : Environment) : String :=
  Text.plain ("Search the Assembly64 catalog and download the files of a release\n\nUsage: " ++ programName ++
    " [OPTIONS]\n\nOptions:\n" ++ String.join (Setting.all.map (·.helpLine environment)))

end Catalog.CommandLine
