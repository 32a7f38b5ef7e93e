import DepositGate.Http.Message
import DepositGate.Text.Character
import DepositGate.Text.Pieces

/-!
# Content encodings

A client says which encodings it takes and how much it likes them. A response that is worth it is then
sent compressed. Compression changes the headers and leaves what the client has after undoing it.
-/

namespace DepositGate.Http

/-! ## What the client takes -/

inductive Encoding where
  | identity
  | gzip
deriving DecidableEq, Repr

namespace Encoding

def ofName? (name : String) : Option Encoding :=
  let lower := String.ofList (name.toList.map Char.toLower)
  if lower = "gzip" ∨ lower = "x-gzip" then some gzip
  else if lower = "identity" then some identity
  else none

/-- A weight in thousandths: `q=`, zero or one, and up to three places. -/
def weight? : List Char → Option Nat
  | q :: '=' :: whole :: rest =>
    if (q != 'q' && q != 'Q') || (whole != '0' && whole != '1') then none
    else
      let base := if whole == '1' then 1000 else 0
      match rest with
      | [] => some base
      | '.' :: places =>
        if places.length ≤ 3 ∧ places.all Char.isDigit then
          let padded := places ++ List.replicate (3 - places.length) '0'
          let weight := base + padded.foldl (fun n c ↦ 10 * n + (c.toNat - 48)) 0
          if weight ≤ 1000 then some weight else none
        else none
      | _ => none
  | _ => none

def entry? (cs : List Char) : Option (Encoding × Nat) := do
  let name := cs.takeWhile (· != ';')
  let encoding ← ofName? (String.ofList (Text.trim name))
  match cs.drop name.length with
  | [] => some (encoding, 1000)
  | _ :: weight => do some (encoding, ← weight? (Text.trim weight))

def entries (headers : Headers) : List (Encoding × Nat) :=
  (headers.all "accept-encoding").filter isVisible |>.flatMap fun value ↦
    (Text.pieces ',' value.toList).filterMap entry?

/-- The greatest weight of an encoding, zero if it is not taken. -/
def weightOf (encoding : Encoding) (entries : List (Encoding × Nat)) : Nat :=
  (entries.filter (·.1 == encoding)).foldl (fun best entry ↦ max best entry.2) 0

/-- The encoding that a client likes best; of two that it likes as much, compression. -/
def preferred (headers : Headers) : Encoding :=
  let entries := entries headers
  let compressed := weightOf gzip entries
  if 0 < compressed ∧ weightOf identity entries ≤ compressed then gzip else identity

end Encoding

/-! ## What is worth compressing -/

def minCompressedSize : Nat := 32

def lengthHeader? (headers : Headers) : Option Nat :=
  (headers.firstText? "content-length").bind String.toNat?

def Response.size? (r : Response) : Option Nat :=
  if r.body.sized then some r.body.content.length else lengthHeader? r.headers

/-- Whether a type of content is worth compressing: images are compressed already, save those made of
text, and streams are not to be held up. -/
def isCompressibleType (contentType : String) : Bool :=
  let starts (s : String) : Bool := s.toList.isPrefixOf contentType.toList
  !starts "application/grpc" && (contentType == "image/svg+xml" || !starts "image/") &&
    !starts "text/event-stream"

namespace Response

/-- Whether a response may be compressed. Ranges and what is compressed already are not. -/
def isCompressible (r : Response) : Bool :=
  !r.headers.has "content-encoding" && !r.headers.has "content-range" &&
    (match r.size? with | some size => decide (minCompressedSize ≤ size) | none => true) &&
    isCompressibleType ((r.headers.firstText? "content-type").getD "")

/-- The response in answer to a request with some headers. One that may be compressed says that it
depends on what the client takes. -/
def negotiated (requestHeaders : Headers) (r : Response) : Response :=
  if !r.isCompressible then r
  else
    let headers := r.headers ++ [("vary", "accept-encoding")]
    match Encoding.preferred requestHeaders with
    | .identity => { r with headers := headers }
    | .gzip =>
      let headers := (headers.erase "accept-ranges").erase "content-length"
      ⟨r.status, headers.set "content-encoding" "gzip", ⟨r.body.content, false⟩⟩

end Response

end DepositGate.Http
