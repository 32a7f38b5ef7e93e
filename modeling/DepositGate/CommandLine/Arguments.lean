import DepositGate.Text.Similarity

/-!
# Arguments

What the command line asks for: help, the version, or a start with some options. Arguments are read from
left to right, and the first fault or request counts.
-/

namespace DepositGate.CommandLine

inductive Opt where
  | config
  | logLevel
  | help
  | version
deriving DecidableEq, Repr

namespace Opt

def all : List Opt := [config, logLevel, help, version]

def long : Opt → String
  | config => "config"
  | logLevel => "log-level"
  | help => "help"
  | version => "version"

def letter : Opt → Char
  | config => 'c'
  | logLevel => 'l'
  | help => 'h'
  | version => 'V'

def placeholder? : Opt → Option String
  | config => some "CONFIG"
  | logLevel => some "LOG_LEVEL"
  | help | version => none

def shown (o : Opt) : String :=
  match o.placeholder? with
  | some p => "--" ++ o.long ++ " <" ++ p ++ ">"
  | none => "--" ++ o.long

end Opt

inductive UsageFault where
  /-- There is no such argument, but perhaps a similar option; `given` are the options given before, if
  the argument looks like an option. -/
  | unexpected (argument : String) (similar : Option Opt) (given : List Opt)
  | missingValue (o : Opt)
  | repeated (o : Opt)
  /-- An option has a value and takes none; `others` says whether another one is given before. -/
  | needlessValue (value : String) (o : Opt) (others : Bool)
deriving DecidableEq, Repr

inductive Request where
  | help
  | version
  | start (config : Option String) (logLevel : Option String)
deriving DecidableEq, Repr

structure Reading where
  given : List (Opt × String)
  pending : Option (Opt × Option String)
deriving DecidableEq, Repr

namespace Reading

def opts (r : Reading) : List Opt :=
  r.given.map (·.1)

def give (o : Opt) (value : String) (r : Reading) : Except UsageFault Reading :=
  if r.opts.contains o then .error (.repeated o) else .ok { r with given := r.given ++ [(o, value)] }

def settle (r : Reading) : Except UsageFault Reading :=
  match r.pending with
  | none => .ok r
  | some (o, none) => .error (.missingValue o)
  | some (o, some value) => give o value { r with pending := none }

/-- The options that are settled once the last one is, as far as it can be. One that is given twice counts
as not given. -/
def settledOpts (r : Reading) : List Opt :=
  match r.settle with
  | .ok r => r.opts
  | .error (.repeated o) => r.opts.filter (· != o)
  | .error _ => r.opts

def value? (r : Reading) (o : Opt) : Option String :=
  (r.given.find? (·.1 == o)).map (·.2)

end Reading

inductive Step where
  | done (request : Request)
  | more (r : Reading)

def readOpt (o : Opt) (attached : Option String) (r : Reading) : Except UsageFault Step :=
  match o, attached with
  | .help, none => r.settle.map fun _ ↦ .done .help
  | .version, none => r.settle.map fun _ ↦ .done .version
  | .help, some value | .version, some value => .error (.needlessValue value o (!r.given.isEmpty))
  | _, some value => do
    let r ← r.settle
    (r.give o value).map .more
  | _, none => r.settle.map fun r ↦ .more { r with pending := some (o, none) }

/-- Names more similar than this are taken for slips. -/
def similarEnough : Float := 0.7

def readLong (body : List Char) (r : Reading) : Except UsageFault Step :=
  let name := body.takeWhile (· != '=')
  let attached := match body.drop name.length with
    | _ :: value => some (String.ofList value)
    | [] => none
  let name := String.ofList name
  match Opt.all.find? (·.long == name) with
  | some o => readOpt o attached r
  | none =>
    let similar := (Text.mostSimilar? similarEnough name (Opt.all.map Opt.long)).bind fun long ↦
      Opt.all.find? (·.long == long)
    .error (.unexpected ("--" ++ name) similar r.settledOpts)

/-- Reads letters behind one dash. What follows the letter of an option that takes a value is the value. -/
def readLetters : List Char → Reading → Except UsageFault Step
  | [], r => .ok (.more r)
  | c :: rest, r =>
    match Opt.all.find? (·.letter == c) with
    | none => .error (.unexpected (String.ofList ['-', c]) none [])
    | some o =>
      match o.placeholder?, rest with
      | none, _ => readOpt o none r
      | some _, [] => readOpt o none r
      | some _, '=' :: value => readOpt o (some (String.ofList value)) r
      | some _, value => readOpt o (some (String.ofList value)) r

/-- Reads an argument that is no option: the value of the last one, or out of place. -/
def readValue (value : String) (r : Reading) : Except UsageFault Step :=
  match r.pending with
  | some (o, none) => .ok (.more { r with pending := some (o, some value) })
  | _ => .error (.unexpected value none [])

def readArgument (argument : String) (r : Reading) : Except UsageFault Step :=
  match argument.toList with
  | '-' :: '-' :: body => readLong body r
  | '-' :: c :: letters => readLetters (c :: letters) r
  | _ => readValue argument r

/-- Reads the arguments that are left. Behind two dashes alone there are no options. -/
def readArguments (r : Reading) : List String → Except UsageFault Request
  | [] => r.settle.map fun r ↦ .start (r.value? .config) (r.value? .logLevel)
  | "--" :: arguments =>
    match arguments with
    | [] => r.settle.map fun r ↦ .start (r.value? .config) (r.value? .logLevel)
    | argument :: _ => .error (.unexpected argument none [])
  | argument :: arguments =>
    match readArgument argument r with
    | .error fault => .error fault
    | .ok (.done request) => .ok request
    | .ok (.more r) => readArguments r arguments

def Request.read (arguments : List String) : Except UsageFault Request :=
  readArguments ⟨[], none⟩ arguments

end DepositGate.CommandLine
