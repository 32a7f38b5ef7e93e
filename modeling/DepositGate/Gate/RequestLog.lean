import DepositGate.Gate.Reply

/-!
# The log of a request

What is logged in the course of an answer lies in the span of the request, with what is known of the
request at that time. The end of a request is logged too, unless it takes too long.
-/

namespace DepositGate.Gate

open Http (Request Response)

/-- What an endpoint has to say in the course of an answer. -/
inductive Note where
  | known (name : String) (value : FieldValue)
  | happened (e : Event)
deriving DecidableEq, Repr

def Note.info (message : String) : Note :=
  .happened ⟨.info, message, [], []⟩

/-- What comes of a request to an endpoint; there is no answer if it takes too long. -/
structure Handled (σ : Type) where
  answer : Option (Except ApiError Datum)
  state : σ
  notes : List Note

def requestSpan (fields : Fields) : Span := ⟨"request", fields⟩

/-- The events of notes in the span of a request, and the fields known at the end. -/
def replay (fields : Fields) : List Note → List Event × Fields
  | [] => ([], fields)
  | .known name value :: notes => replay (fields ++ [(name, value)]) notes
  | .happened e :: notes =>
    let (events, fields') := replay fields notes
    (e.within (requestSpan fields) :: events, fields')

def initialFields (request : Request) : Fields :=
  [("method", .text request.method), ("path", .text request.uri.path)]

def answerResponse (answer : Except ApiError Datum) : Response :=
  match answer with
  | .ok d => jsonResponse 200 d
  | .error e => e.response

def closingNotes (answer : Except ApiError Datum) : List Note :=
  let status : FieldValue := .number (answerResponse answer).status
  let rejected := match answer with | .ok _ => [] | .error e => [.happened e.event]
  rejected ++ [.known "status" status,
    .happened ⟨.info, "Request completed", [("status", status)], []⟩]

def logged {σ : Type} (request : Request) (h : Handled σ) : Attempt σ :=
  let closing := match h.answer with | some answer => closingNotes answer | none => []
  let (events, _) := replay (initialFields request) (h.notes ++ closing)
  ⟨h.answer.map answerResponse, h.state, events⟩

end DepositGate.Gate
