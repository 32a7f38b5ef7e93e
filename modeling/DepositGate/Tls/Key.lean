import DepositGate.Tls.Der

/-!
# Keys

Secret keys and the public keys that belong to them. A key is a sequence; a plain RSA or elliptic key has
its numbers in it, and a wrapped one names the algorithm first.
-/

namespace DepositGate.Tls

open Der (Element)

structure PublicKey where
  algorithm : List UInt8
  bits : Option (List UInt8)
deriving DecidableEq, Repr

def PublicKey.agrees (k l : PublicKey) : Bool :=
  k.algorithm == l.algorithm && (k.bits.isNone || l.bits.isNone || k.bits == l.bits)

namespace Key

inductive Form where
  | rsa
  | elliptic
  | wrapped
deriving DecidableEq, Repr

/-- The form of a key, seen from its first bytes. -/
def form? (key : List UInt8) : Option Form :=
  match key with
  | tag :: size :: _ =>
    let skipped := if size < 0x80 then 2 else 2 + (size.toNat - 0x80)
    if tag != Der.sequenceTag || key.length < skipped then none
    else
      match key.drop skipped with
      | 0x02 :: 0x01 :: version :: next :: _ =>
        if next == Der.sequenceTag then some .wrapped
        else if version == 0 && next == Der.integerTag then some .rsa
        else if version == 1 && next == Der.octetStringTag then some .elliptic
        else none
      | _ => none
  | _ => none

def rsaAlgorithm : List UInt8 :=
  [0x06, 0x09, 0x2A, 0x86, 0x48, 0x86, 0xF7, 0x0D, 0x01, 0x01, 0x01, 0x05, 0x00]

def curveAlgorithm : List UInt8 := [0x06, 0x07, 0x2A, 0x86, 0x48, 0xCE, 0x3D, 0x02, 0x01]

def curves : List (List UInt8 × Nat) :=
  [([0x2A, 0x86, 0x48, 0xCE, 0x3D, 0x03, 0x01, 0x07], 32), ([0x2B, 0x81, 0x04, 0x00, 0x22], 48),
    ([0x2B, 0x81, 0x04, 0x00, 0x23], 66)]

def twistedAlgorithm : List UInt8 := [0x06, 0x03, 0x2B, 0x65, 0x70]

def written (e : Element) : List UInt8 :=
  let n := e.content.length
  let size : List UInt8 :=
    if n < 0x80 then [n.toUInt8]
    else if n < 0x100 then [0x81, n.toUInt8]
    else [0x82, (n / 0x100).toUInt8, (n % 0x100).toUInt8]
  e.tag :: size ++ e.content

/-- Whether the numbers of an RSA key belong together: the modulus is the product of two primes, both
exponents undo each other, and what is written for speed is right. The modulus has 2048 to 8192 bits. -/
def rsaNumbersFit : List Nat → Bool
  | [version, modulus, exponent, secret, p, q, secretP, secretQ, inverse] =>
    version == 0 && modulus == p * q && exponent % 2 == 1 && 3 ≤ exponent && 1 < p && 1 < q &&
      2048 ≤ modulus.log2 + 1 && modulus.log2 + 1 ≤ 8192 &&
      exponent * secret % (p - 1) == 1 && exponent * secret % (q - 1) == 1 &&
      secretP == secret % (p - 1) && secretQ == secret % (q - 1) && inverse * q % p == 1
  | _ => false

def ofRsa? (key : List UInt8) : Option PublicKey := do
  let parts ← Der.sequence? key
  let numbers ← parts.mapM Element.nat?
  if !rsaNumbersFit numbers then none
  else
    let publicKey := ((parts.drop 1).take 2).flatMap written
    some ⟨rsaAlgorithm, some (written ⟨Der.sequenceTag, publicKey⟩)⟩

/-- The public key of an elliptic key, of which the curve may be named elsewhere. -/
def ofElliptic? (curve : Option (List UInt8)) (key : List UInt8) : Option PublicKey := do
  let parts ← Der.sequence? key
  match parts with
  | version :: secret :: rest =>
    let inner (n : UInt8) (tag : UInt8) : Option (List UInt8) :=
      (rest.find? (·.tag == Der.numberedTag n)).bind fun e ↦
        match Der.element? e.content with
        | some (e, []) => if e.tag == tag then some e.content else none
        | _ => none
    let name ← curve.or (inner 0 Der.objectTag)
    let (_, size) ← curves.find? (·.1 == name)
    if version.nat? == some 1 && secret.tag == Der.octetStringTag && secret.content.length = size then
      some ⟨curveAlgorithm ++ written ⟨Der.objectTag, name⟩,
        (inner 1 Der.bitStringTag).map (·.drop 1)⟩
    else none
  | _ => none

def ofWrapped? (key : List UInt8) : Option PublicKey := do
  let parts ← Der.sequence? key
  match parts with
  | version :: algorithm :: secret :: _ =>
    if 2 ≤ version.nat?.getD 2 || algorithm.tag != Der.sequenceTag ||
        secret.tag != Der.octetStringTag then none
    else if algorithm.content == rsaAlgorithm then ofRsa? secret.content
    else if algorithm.content == twistedAlgorithm then
      match Der.element? secret.content with
      | some (e, []) =>
        if e.tag == Der.octetStringTag && e.content.length = 32 then some ⟨twistedAlgorithm, none⟩
        else none
      | _ => none
    else
      match Der.elements? algorithm.content with
      | some [name, curve] =>
        if written name == curveAlgorithm && curve.tag == Der.objectTag then
          ofElliptic? (some curve.content) secret.content
        else none
      | _ => none
  | _ => none

def public? (form : Form) (key : List UInt8) : Option PublicKey :=
  match form with
  | .rsa => ofRsa? key
  | .elliptic => ofElliptic? none key
  | .wrapped => ofWrapped? key

end Key

/-! ## Certificates -/

def certificateVersion : Nat := 2

/-- The public key in a certificate: behind its version, number, algorithm, issuer, term and subject. -/
def certifiedKey? (certificate : List UInt8) : Option PublicKey := do
  match ← Der.sequence? certificate with
  | [body, algorithm, signature] =>
    if body.tag != Der.sequenceTag || algorithm.tag != Der.sequenceTag ||
        signature.tag != Der.bitStringTag then none
    else
      match ← Der.elements? body.content with
      | version :: number :: algorithm' :: issuer :: term :: subject :: key :: _ =>
        let version ← if version.tag == Der.numberedTag 0 then Der.element? version.content else none
        if version.1.nat? != some certificateVersion || number.tag != Der.integerTag ||
            algorithm' != algorithm || issuer.tag != Der.sequenceTag ||
            term.tag != Der.sequenceTag || subject.tag != Der.sequenceTag ||
            key.tag != Der.sequenceTag then none
        else
          match ← Der.elements? key.content with
          | [name, bits] =>
            if name.tag == Der.sequenceTag && bits.tag == Der.bitStringTag then
              some ⟨name.content, some (bits.content.drop 1)⟩
            else none
          | _ => none
      | _ => none
  | _ => none

end DepositGate.Tls
