import DepositGate.Config.Basic
import DepositGate.SystemFault
import DepositGate.Tls.Key
import DepositGate.Tls.Pem

/-!
# Certificates

What the encrypted listener needs before it can start: a chain of certificates with its key from two
files, or a directory to keep provisioned ones in.
-/

namespace DepositGate.Tls

structure Storage where
  read : String → Except SystemFault (List UInt8)
  makeDirectory : String → Except SystemFault Unit

inductive CertificateFault where
  | unreadable (path : String) (fault : SystemFault)
  | malformed (fault : Pem.Fault)
  | keyNotSupported
  | unknownKeyForm
  | unusableKey
  | noCertificates
  | badCertificate
  | keyMismatch
  | noDirectory (path : String) (fault : SystemFault)
deriving DecidableEq, Repr

def loadFailure (reason : String) : String :=
  "Failed to load certificates: " ++ reason

def CertificateFault.message : CertificateFault → String
  | unreadable path fault =>
    loadFailure ("failed to read from file `" ++ path ++ "`: " ++ fault.describe)
  | malformed fault => loadFailure fault.message
  | keyNotSupported => loadFailure "private key format not supported"
  | unknownKeyForm => loadFailure "unknown or invalid key format"
  | unusableKey =>
    loadFailure "unexpected error: failed to parse private key as RSA, ECDSA, or EdDSA"
  | noCertificates => loadFailure "peer sent no certificates"
  | badCertificate => loadFailure "invalid peer certificate: BadEncoding"
  | keyMismatch => loadFailure "keys may not be consistent: KeyMismatch"
  | noDirectory path fault =>
    "Failed to create ACME cache directory '" ++ path ++ "': " ++ fault.describe

/-- Checks a chain and its key. The faults of the sections of the chain come first, then those of the key.
Of the chain only the first certificate is looked at, and the faults of the sections around the key do not
matter. -/
def checkPair (chain keys : List UInt8) : Except CertificateFault Unit :=
  match Pem.sections chain with
  | .error fault => .error (.malformed fault)
  | .ok sections =>
    match (Pem.soundSections keys).filter (·.kind.isSecret) with
    | [key] =>
      match Key.form? key.content with
      | none => .error .unknownKeyForm
      | some form =>
        match Key.public? form key.content, sections.find? (·.kind == .certificate) with
        | none, _ => .error .unusableKey
        | some _, none => .error .noCertificates
        | some publicKey, some certificate =>
          match certifiedKey? certificate.content with
          | none => .error .badCertificate
          | some certified => if publicKey.agrees certified then .ok () else .error .keyMismatch
    | _ => .error .keyNotSupported

def Storage.bytes (storage : Storage) (path : String) : Except CertificateFault (List UInt8) :=
  match storage.read path with
  | .ok bytes => .ok bytes
  | .error fault => .error (.unreadable path fault)

/-- Loads a chain and its key. Both files are read before they are looked at. -/
def Storage.loadPair (storage : Storage) (cert key : String) : Except CertificateFault Unit := do
  let chain ← storage.bytes cert
  let keys ← storage.bytes key
  checkPair chain keys

/-- Makes what a certificate needs. Provisioning itself goes on while the listener runs. -/
def Storage.prepare (storage : Storage) (cacheDir : String) (mode : TlsMode) :
    Except CertificateFault Unit :=
  match mode with
  | .manual cert key => storage.loadPair cert key
  | .automatic _ =>
    match storage.makeDirectory cacheDir with
    | .ok () => .ok ()
    | .error fault => .error (.noDirectory cacheDir fault)

end DepositGate.Tls
