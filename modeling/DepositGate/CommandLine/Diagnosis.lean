import DepositGate.Config.Load
import DepositGate.Lifecycle.Basic
import DepositGate.Text.Quoted

/-!
# Diagnoses

The last words of a program that ends with a fault: the kind of the fault with its particulars, rather
than its wording.
-/

namespace DepositGate

def SystemFault.diagnosis (f : SystemFault) : String :=
  let kind := f.kind ++ ", message: " ++ Text.quoted f.message ++ " \x7d"
  match f.code with
  | some code => s!"Os \x7b code: {code}, kind: " ++ kind
  | none => "Error \x7b kind: " ++ kind

def ConfigFault.diagnosis : ConfigFault → String
  | noListenAddr => "NoListenAddr"
  | missingTlsMode => "MissingTlsMode"
  | partialCertPair => "PartialCertPair"
  | conflictingTlsModes => "ConflictingTlsModes"
  | tlsWithoutHttps => "TlsWithoutHttps"
  | invalidAddr field value =>
    "InvalidAddr \x7b field: " ++ Text.quoted field ++ ", value: " ++ Text.quoted value ++ " \x7d"
  | invalidThrottle => "InvalidThrottle"

def LoadFault.diagnosis : LoadFault → String
  | unreadable fault => "Io(" ++ fault.diagnosis ++ ")"
  | syntaxFault => "Parse(Error \x7b message: \"invalid TOML\" \x7d)"
  | mismatch m =>
    "Parse(Error \x7b message: " ++ Text.quoted (m.message Toml.recordFormat.float) ++ " \x7d)"
  | invalid fault => fault.diagnosis

namespace Lifecycle

def ServerFault.diagnosis : ServerFault → String
  | config fault => "Config(" ++ fault.diagnosis ++ ")"
  | alreadyRunning => "AlreadyRunning"
  | listener protocol fault =>
    let proto := match protocol with | .http => "Http" | .https => "Https"
    "Listener \x7b proto: " ++ proto ++ ", source: " ++ fault.diagnosis ++ " \x7d"
  | certificate fault => "TlsConfig(" ++ Text.quoted fault.message ++ ")"
  | brokenOff message => "Task(" ++ Text.quoted message ++ ")"

end Lifecycle

end DepositGate
