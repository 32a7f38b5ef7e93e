import DepositGate.Base58
import DepositGate.Digest.Sha256

/-!
# Sky addresses

A sky address is the base58 text of twenty-five bytes: a key of twenty bytes, a version byte, and the
first four bytes of the digest of the twenty-one before them.
-/

namespace DepositGate.SkyAddress

def keyLength : Nat := 20

def checksumLength : Nat := 4

def payloadLength : Nat := keyLength + 1 + checksumLength

def version : UInt8 := 0

inductive Fault where
  | encoding
  | length (found : Nat)
  | version (found : UInt8)
  | checksum
deriving DecidableEq, Repr

def Fault.message : Fault → String
  | .encoding => "invalid base58 encoding"
  | .length found => s!"invalid address length {found}"
  | .version found => s!"invalid address version {found.toNat}"
  | .checksum => "invalid address checksum"

def checksum (bytes : List UInt8) : List UInt8 :=
  (Digest.Sha256.hash bytes).take checksumLength

/-- The first fault of the bytes of an address: length, version, checksum. -/
def checkPayload (bytes : List UInt8) : Except Fault Unit :=
  if bytes.length ≠ payloadLength then .error (.length bytes.length)
  else
    let found := bytes.getD keyLength 0
    if found ≠ version then .error (.version found)
    else if checksum (bytes.take (keyLength + 1)) ≠ bytes.drop (keyLength + 1) then
      .error .checksum
    else .ok ()

def validate (address : String) : Except Fault Unit :=
  match Base58.decode? address with
  | none => .error .encoding
  | some bytes => checkPayload bytes

def ofKey (key : List UInt8) : String :=
  let body := key ++ [version]
  Base58.encode (body ++ checksum body)

end DepositGate.SkyAddress
