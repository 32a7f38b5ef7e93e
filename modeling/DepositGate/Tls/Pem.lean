import DepositGate.Text.Base64
import DepositGate.Text.Quoted
import DepositGate.Text.Utf8

/-!
# Armoured files

A file with certificates or keys has sections, each between a line that opens it and one that closes it
with the same label. Inside is Base64. Lines outside of sections are passed over, and so are sections
with other labels than those known.
-/

namespace DepositGate.Tls.Pem

inductive Kind where
  | certificate
  | publicKey
  | rsaKey
  | key
  | ecKey
  | revocations
  | request
  | echConfig
deriving DecidableEq, Repr

def kinds : List (String × Kind) :=
  [("CERTIFICATE", .certificate), ("PUBLIC KEY", .publicKey), ("RSA PRIVATE KEY", .rsaKey),
    ("PRIVATE KEY", .key), ("EC PRIVATE KEY", .ecKey), ("X509 CRL", .revocations),
    ("CERTIFICATE REQUEST", .request), ("ECHCONFIG", .echConfig)]

def kind? (label : List UInt8) : Option Kind :=
  (kinds.find? fun (name, _) ↦ Text.utf8 name == label).map (·.2)

def Kind.isSecret : Kind → Bool
  | rsaKey | key | ecKey => true
  | _ => false

inductive Fault where
  | endMissing (label : List UInt8)
  | illegalStart (line : List UInt8)
  | encoding (fault : Text.Base64.Fault)
deriving DecidableEq, Repr

def Fault.message : Fault → String
  | endMissing label => "section end " ++ Text.quoted (Text.ofUtf8Lossy label) ++ " missing"
  | illegalStart line => "illegal section start: " ++ Text.quoted (Text.ofUtf8Lossy line)
  | encoding fault => fault.message

structure Section where
  kind : Kind
  content : List UInt8
deriving DecidableEq, Repr

/-! ## Lines -/

def endsLine (b : UInt8) : Bool :=
  b == 0x0A || b == 0x0D

def addToLines (b : UInt8) (lines : List (List UInt8)) : List (List UInt8) :=
  match lines with
  | line :: rest => if endsLine b then [b] :: line :: rest else (b :: line) :: rest
  | [] => [[b]]

def lines (bytes : List UInt8) : List (List UInt8) :=
  bytes.foldr addToLines []

def opening : List UInt8 := Text.utf8 "-----BEGIN "

def closing : List UInt8 := Text.utf8 "-----END "

def dashes : List UInt8 := List.replicate 5 0x2D

/-- Whether a byte may stand between and behind the dashes at the end of a line. -/
def isFiller (b : UInt8) : Bool :=
  endsLine b || b == 0x20

/-- The label of a line that opens a section, none if there are not five dashes at its end. -/
def label? (line : List UInt8) : Option (List UInt8) :=
  let ending := line.reverse.takeWhile fun b ↦ b == 0x2D || isFiller b
  let filler := (ending.reverse.takeWhile isFiller).length
  if ending.count 0x2D = 5 then
    some ((line.take (line.length - ending.length + filler)).drop opening.length)
  else none

def closes (label line : List UInt8) : Bool :=
  (closing ++ label ++ dashes).isPrefixOf line

/-! ## Sections -/

/-- The sections and faults of some lines, of which the first may lie in a section with a label. What the
section holds so far is in `seen`, also when a further line opens another one before it is closed. After a
fault the next line lies in no section. -/
def itemsFrom (label : Option (List UInt8)) (seen : List UInt8) :
    List (List UInt8) → List (Except Fault Section)
  | [] =>
    match label with
    | some l => [.error (.endMissing l)]
    | none => []
  | line :: rest =>
    if opening.isPrefixOf line then
      match label? line with
      | some l => itemsFrom (some l) seen rest
      | none => .error (.illegalStart line) :: itemsFrom none [] rest
    else
      match label with
      | none => itemsFrom none seen rest
      | some l =>
        if closes l line then
          match kind? l with
          | none => itemsFrom none [] rest
          | some kind =>
            let item := match Text.Base64.decode seen with
              | .ok content => .ok ⟨kind, content⟩
              | .error fault => .error (.encoding fault)
            item :: itemsFrom none [] rest
        else itemsFrom label (seen ++ line) rest

def items (bytes : List UInt8) : List (Except Fault Section) :=
  itemsFrom none [] (lines bytes)

def sections (bytes : List UInt8) : Except Fault (List Section) :=
  (items bytes).mapM id

def soundSections (bytes : List UInt8) : List Section :=
  (items bytes).filterMap Except.toOption

end DepositGate.Tls.Pem
