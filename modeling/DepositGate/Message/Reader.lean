import DepositGate.Json.Record
import DepositGate.Message.Basic

/-!
# Reading messages

Readers of the messages from JSON texts. A request may leave out its fields, an answer none.
-/

namespace DepositGate

def Coin.readJson : Json.Reader Coin := fun bytes ↦
  (Json.readVariant (code btc) bytes).map fun ((), rest) ↦ (btc, rest)

/-- Reads a request; a missing field is empty. -/
def BindRequest.reader : Json.RecordReader (Option String × Option String) BindRequest where
  name := "BindRequest"
  empty := (none, none)
  member found name bytes := do
    match name with
    | "skyaddr" =>
      let (s, rest) ← Json.readField "skyaddr" found.1 Json.readText bytes
      .ok ((some s, found.2), rest)
    | "coin_type" =>
      let (s, rest) ← Json.readField "coin_type" found.2 Json.readText bytes
      .ok ((found.1, some s), rest)
    | _ => Json.skipMember found bytes
  finish found := .ok ⟨found.1.getD "", found.2.getD ""⟩
  elements bytes := do
    let (skyAddr?, rest) ← Json.readElement Json.readText true bytes
    let (coinCode?, rest) ← Json.readElement Json.readText false rest
    .ok (.ok ⟨skyAddr?.getD "", coinCode?.getD ""⟩, rest)
  fields := 2

def BindReply.reader : Json.RecordReader (Option String × Option Coin) BindReply where
  name := "BindResponse"
  empty := (none, none)
  member found name bytes := do
    match name with
    | "deposit_address" =>
      let (s, rest) ← Json.readField "deposit_address" found.1 Json.readText bytes
      .ok ((some s, found.2), rest)
    | "coin_type" =>
      let (c, rest) ← Json.readField "coin_type" found.2 Coin.readJson bytes
      .ok ((found.1, some c), rest)
    | _ => Json.skipMember found bytes
  finish found :=
    match found with
    | (none, _) => .error "deposit_address"
    | (_, none) => .error "coin_type"
    | (some s, some c) => .ok ⟨s, c⟩
  elements bytes := do
    match ← Json.readElement Json.readText true bytes with
    | (none, rest) => .ok (.error 0, rest)
    | (some s, rest) =>
      match ← Json.readElement Coin.readJson false rest with
      | (none, rest) => .ok (.error 1, rest)
      | (some c, rest) => .ok (.ok ⟨s, c⟩, rest)
  fields := 2

def DepositStatus.reader :
    Json.RecordReader (Option Nat × Option Int × Option String) DepositStatus where
  name := "DepositStatus"
  empty := (none, none, none)
  member found name bytes := do
    match found, name with
    | (seq?, updatedAt?, status?), "seq" =>
      let (n, rest) ← Json.readField "seq" seq? Json.readNat64 bytes
      .ok ((some n, updatedAt?, status?), rest)
    | (seq?, updatedAt?, status?), "updated_at" =>
      let (n, rest) ← Json.readField "updated_at" updatedAt? Json.readInt64 bytes
      .ok ((seq?, some n, status?), rest)
    | (seq?, updatedAt?, status?), "status" =>
      let (s, rest) ← Json.readField "status" status? Json.readText bytes
      .ok ((seq?, updatedAt?, some s), rest)
    | _, _ => Json.skipMember found bytes
  finish found :=
    match found with
    | (none, _, _) => .error "seq"
    | (_, none, _) => .error "updated_at"
    | (_, _, none) => .error "status"
    | (some seq, some updatedAt, some status) => .ok ⟨seq, updatedAt, status⟩
  elements bytes := do
    match ← Json.readElement Json.readNat64 true bytes with
    | (none, rest) => .ok (.error 0, rest)
    | (some seq, rest) =>
      match ← Json.readElement Json.readInt64 false rest with
      | (none, rest) => .ok (.error 1, rest)
      | (some updatedAt, rest) =>
        match ← Json.readElement Json.readText false rest with
        | (none, rest) => .ok (.error 2, rest)
        | (some status, rest) => .ok (.ok ⟨seq, updatedAt, status⟩, rest)
  fields := 3

def StatusReply.reader : Json.RecordReader (Option (List DepositStatus)) StatusReply where
  name := "StatusResponse"
  empty := none
  member found name bytes := do
    match name with
    | "statuses" =>
      let (statuses, rest) ←
        Json.readField "statuses" found (Json.readList (Json.readRecord DepositStatus.reader)) bytes
      .ok (some statuses, rest)
    | _ => Json.skipMember found bytes
  finish found :=
    match found with
    | none => .error "statuses"
    | some statuses => .ok ⟨statuses⟩
  elements bytes := do
    match ← Json.readElement (Json.readList (Json.readRecord DepositStatus.reader)) true bytes with
    | (none, rest) => .ok (.error 0, rest)
    | (some statuses, rest) => .ok (.ok ⟨statuses⟩, rest)
  fields := 1

def Coin.ofJson (bytes : List UInt8) : Except Json.Fault Coin :=
  Json.readAll Coin.readJson bytes

def BindRequest.ofJson (bytes : List UInt8) : Except Json.Fault BindRequest :=
  Json.readAll (Json.readRecord reader) bytes

def BindReply.ofJson (bytes : List UInt8) : Except Json.Fault BindReply :=
  Json.readAll (Json.readRecord reader) bytes

def DepositStatus.ofJson (bytes : List UInt8) : Except Json.Fault DepositStatus :=
  Json.readAll (Json.readRecord reader) bytes

def StatusReply.ofJson (bytes : List UInt8) : Except Json.Fault StatusReply :=
  Json.readAll (Json.readRecord reader) bytes

end DepositGate
