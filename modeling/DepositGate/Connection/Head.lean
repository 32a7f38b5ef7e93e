import DepositGate.Text.Utf8

/-!
# Request heads

The end of a request head is an empty line. It is looked for in bytes that come in pieces, by keeping the
number of its bytes that have been matched so far. A connection that starts with the preface of the
multiplexing protocol has no heads.
-/

namespace DepositGate.Connection

def headEnd : List UInt8 := [0x0D, 0x0A, 0x0D, 0x0A]

def preface : List UInt8 := Text.utf8 "PRI * HTTP/2.0"

def matchByte (matched : Nat) (b : UInt8) : Nat :=
  if headEnd[matched]? = some b then matched + 1
  else if headEnd.head? = some b then 1
  else 0

/-- Looks for the end of a head, of which a number of bytes is matched already: none if it is found, or
else the number of its bytes matched then. -/
def scanHeadEnd (matched : Nat) : List UInt8 → Option Nat
  | [] => some matched
  | b :: bytes =>
    let matched := matchByte matched b
    if matched = headEnd.length then none else scanHeadEnd matched bytes

/-- Whether the first bytes of a connection look like the preface: at least four of them, and as many as
there are. -/
def isPreface (bytes : List UInt8) : Bool :=
  let n := min bytes.length preface.length
  4 ≤ n && bytes.take n == preface.take n

end DepositGate.Connection
