import DepositGate.Json.Record

/-!
# Throttles

How many requests a client may make to a route in a window of time.
-/

namespace DepositGate

structure Throttle where
  max : Nat
  windowSecs : Nat
deriving DecidableEq, Repr

namespace Throttle

def standard : Throttle := ⟨60, 60⟩

/-- Reads a throttle; a missing field has its standard value. -/
def reader : Json.RecordReader (Option Nat × Option Nat) Throttle where
  name := "Throttle"
  empty := (none, none)
  member found name bytes := do
    match name with
    | "max" =>
      let (n, rest) ← Json.readField "max" found.1 Json.readNat64 bytes
      .ok ((some n, found.2), rest)
    | "window_secs" =>
      let (n, rest) ← Json.readField "window_secs" found.2 Json.readNat64 bytes
      .ok ((found.1, some n), rest)
    | _ => Json.skipMember found bytes
  finish found := .ok ⟨found.1.getD standard.max, found.2.getD standard.windowSecs⟩
  elements bytes := do
    let (max?, rest) ← Json.readElement Json.readNat64 true bytes
    let (windowSecs?, rest) ← Json.readElement Json.readNat64 false rest
    .ok (.ok ⟨max?.getD standard.max, windowSecs?.getD standard.windowSecs⟩, rest)
  fields := 2

def ofJson (bytes : List UInt8) : Except Json.Fault Throttle :=
  Json.readAll (Json.readRecord reader) bytes

end Throttle

end DepositGate
