import DepositGate.Config.Decode
import DepositGate.SystemFault
import DepositGate.Text.Utf8
import DepositGate.Toml.Document

/-!
# Configuration files

The configuration in a TOML file, which is checked before it is used.
-/

namespace DepositGate

inductive LoadFault where
  | unreadable (fault : SystemFault)
  | syntaxFault
  | mismatch (m : Record.Mismatch)
  | invalid (fault : ConfigFault)

namespace Toml

/-- The layout of floating-point numbers in messages about TOML data: never with an exponent. -/
def floatLayout : Number.FloatLayout := ⟨none, "inf", "NaN"⟩

def recordFormat : Record.Format := ⟨true, Number.floatText floatLayout⟩

end Toml

namespace AppConfig

def ofBytes (bytes : List UInt8) : Except LoadFault AppConfig :=
  match Text.ofUtf8? bytes with
  | none => .error (.unreadable .notText)
  | some s =>
    match Toml.read? s with
    | none => .error .syntaxFault
    | some d =>
      match Record.record Toml.recordFormat (fields Toml.recordFormat) d with
      | .error m => .error (.mismatch m)
      | .ok c =>
        match c.http.validate with
        | .error f => .error (.invalid f)
        | .ok () => .ok c

def load (file : Except SystemFault (List UInt8)) : Except LoadFault AppConfig :=
  match file with
  | .error f => .error (.unreadable f)
  | .ok bytes => ofBytes bytes

end AppConfig

def readFailure (reason : String) : String :=
  "Failed to read config file: " ++ reason

end DepositGate
