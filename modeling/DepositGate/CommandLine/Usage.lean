import DepositGate.CommandLine.Arguments

/-!
# Usage

What the program says of itself and of arguments it does not understand.
-/

namespace DepositGate.CommandLine

def programName : String := "teller-http"

def versionText : String := programName ++ " 0.1.0\n"

def standardConfig : String := "config/default.toml"

def standardFilter : String := "teller_http=info,tower_http=info"

/-- How to call the program with some parts, or with any options if there are none. -/
def usageLine (parts : List String) : String :=
  let shown := if parts.isEmpty then "[OPTIONS]" else " ".intercalate parts
  "Usage: " ++ programName ++ " " ++ shown ++ "\n"

def alternatives : String :=
  let valued := Opt.all.filter (·.placeholder?.isSome)
  "<" ++ "|".intercalate (valued.map Opt.shown) ++ ">"

def helpLine (o : Opt) (purpose : String) : String :=
  let call := "  -" ++ o.letter.toString ++ ", " ++ o.shown
  call ++ "".pushn ' ' (31 - call.length) ++ purpose ++ "\n"

def helpText : String :=
  "Teller HTTP: deposit-binding API front door\n\n" ++ usageLine [] ++ "\nOptions:\n" ++
    helpLine .config ("Path to configuration file [default: " ++ standardConfig ++ "]") ++
    helpLine .logLevel "Log level filter (e.g., \"teller_http=debug,tower_http=info\")" ++
    helpLine .help "Print help" ++ helpLine .version "Print version"

def helpHint : String := "\nFor more information, try '--help'.\n"

def UsageFault.message : UsageFault → String
  | unexpected argument similar given =>
    let tip := match similar with
      | some o => "\n  tip: a similar argument exists: '--" ++ o.long ++ "'\n"
      | none => ""
    let shown := given ++ similar.toList.filter (!given.contains ·)
    "error: unexpected argument '" ++ argument ++ "' found\n" ++ tip ++ "\n" ++
      usageLine (shown.map Opt.shown) ++ helpHint
  | missingValue o =>
    "error: a value is required for '" ++ o.shown ++ "' but none was supplied\n" ++ helpHint
  | repeated o =>
    "error: the argument '" ++ o.shown ++ "' cannot be used multiple times\n\n" ++ usageLine [] ++
      helpHint
  | needlessValue value o others =>
    "error: unexpected value '" ++ value ++ "' for '" ++ o.shown ++
      "' found; no more were expected\n\n" ++
      usageLine (o.shown :: if others then [alternatives] else []) ++ helpHint

end DepositGate.CommandLine
