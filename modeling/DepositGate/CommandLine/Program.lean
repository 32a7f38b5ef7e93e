import DepositGate.CommandLine.Diagnosis
import DepositGate.CommandLine.Usage
import DepositGate.Lifecycle.Server
import DepositGate.Log.Filter

/-!
# The program

From the arguments to the exit code: the program reads its configuration, runs a server, and shuts it down
when a signal asks for it.
-/

namespace DepositGate.CommandLine

open Lifecycle (Environment Notice Server Signal)

structure World where
  arguments : List String
  readConfig : String → Except SystemFault (List UInt8)
  logVariable : Option String
  environment : Environment
  reloads : Nat
  signal : Option Signal

structure Ended where
  code : Nat
  stdout : String
  stderr : String
  jsonLog : Bool
  notices : List Notice

namespace World

def printed (text : String) : Ended := ⟨0, text, "", true, []⟩

def refused (fault : UsageFault) : Ended := ⟨2, "", fault.message, true, []⟩

def lastWords (diagnosis : String) : String :=
  "Error: " ++ diagnosis ++ "\n"

/-- What is said when the certificates of a server are loaded again; only those from files are. -/
def reloadNotices (storage : Tls.Storage) (places : List Lifecycle.Place) : List Notice :=
  places.flatMap fun place ↦
    match place.certificate with
    | some (.manual cert key) =>
      match storage.loadPair cert key with
      | .ok () => [.reloading, .reloaded cert key]
      | .error fault => [.reloading, .reloadFailed cert key fault]
    | _ => []

def signalled (w : World) (s : Server) : Server :=
  let reloads := (List.replicate w.reloads (reloadNotices w.environment.storage s.places)).flatten
  let s := { s with notices := s.notices ++ reloads }
  match w.signal with
  | some signal => Server.shutdown { s with notices := s.notices ++ [.signalled signal] }
  | none => s

def goesOn (s : Server) : Bool :=
  s.state.token.isSome

def serve (w : World) (filter : Log.Filter) (c : AppConfig) : Ended :=
  let ended (fault : Option Lifecycle.ServerFault) (notices : List Notice) : Ended :=
    let written := notices.filter fun n ↦ filter.admits n.scope n.event
    let (code, stderr) := match fault with
      | some fault => (1, lastWords fault.diagnosis)
      | none => (0, "")
    ⟨code, "", stderr, c.logFormat == "json", written⟩
  match Server.ofConfig w.environment c.http with
  | .error fault => ended (some fault) [.loaded c]
  | .ok server =>
    let server := Server.run { server with notices := [.loaded c] }
    if Lifecycle.hasLimiters c.http then
      let server := if goesOn server then w.signalled server else server
      ended (server.runFault? 0) server.notices
    else
      { ended none server.notices with
        code := 1
        stderr := lastWords Limiter.windowTooLong }

def filterWarnings (filter : String) : String :=
  String.join ((Log.Filter.misread filter).map fun (part, fault) ↦
    "ignoring `" ++ part ++ "`: " ++ fault.message ++ "\n")

def start (w : World) (config logLevel : Option String) : Ended :=
  match AppConfig.load (w.readConfig (config.getD standardConfig)) with
  | .error fault => ⟨1, "", lastWords fault.diagnosis, true, []⟩
  | .ok c =>
    let filter := (logLevel.or w.logVariable).getD standardFilter
    let ended := w.serve (.read filter) c
    { ended with stderr := filterWarnings filter ++ ended.stderr }

def run (w : World) : Ended :=
  match Request.read w.arguments with
  | .ok .help => printed helpText
  | .ok .version => printed versionText
  | .ok (.start config logLevel) => w.start config logLevel
  | .error fault => refused fault

end World

end DepositGate.CommandLine
