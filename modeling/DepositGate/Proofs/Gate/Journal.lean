import DepositGate.Proofs.Gate.Course

/-!
# What is logged of a request

The entries of the log about a rejection and about the completion of a request, and what they tell as its
status. What an endpoint notes about them in the course of an answer is what the backend says, until the
answer is there: its closing notes tell the rejection, if it is one, and the completion.
-/

namespace DepositGate.Gate

open Http (Request Response)

variable {σ : Type} {g : Gate σ} {moment : Moment} {request : Request} {s : State σ}

/-! ## Entries of a kind -/

inductive Topic where
  | rejection
  | completion
deriving DecidableEq

def Topic.messages : Topic → List String
  | rejection => ["Request rejected", "Service call failed"]
  | completion => ["Request completed"]

def toldStatus (e : Event) : Option FieldValue :=
  e.fields.lookup "status"

/-- What the entries about a topic tell as the status. -/
def told (topic : Topic) (events : List Event) : List (Option FieldValue) :=
  (events.filter (·.message ∈ topic.messages)).map toldStatus

@[simp] theorem told_nil (topic : Topic) : told topic [] = [] := rfl

@[simp] theorem told_append (topic : Topic) (events events' : List Event) :
    told topic (events ++ events') = told topic events ++ told topic events' := by
  simp [told]

theorem told_cons (topic : Topic) (e : Event) (events : List Event) :
    told topic (e :: events) = told topic [e] ++ told topic events :=
  told_append topic [e] events

@[simp] theorem told_within (topic : Topic) (span : Span) (e : Event) :
    told topic [e.within span] = told topic [e] := by
  by_cases h : e.message ∈ topic.messages <;> simp [told, Event.within, toldStatus, h]

@[simp] theorem told_rejection_event (e : ApiError) :
    told .rejection [e.event] = [some (.number e.status)] := by
  cases e <;> rfl

@[simp] theorem told_completion_event (e : ApiError) : told .completion [e.event] = [] := by
  cases e <;> rfl

/-! ## Notes -/

def Note.event? : Note → Option Event
  | .known _ _ => none
  | .happened e => some e

def noted (topic : Topic) (notes : List Note) : List (Option FieldValue) :=
  told topic (notes.filterMap Note.event?)

@[simp] theorem noted_append (topic : Topic) (notes notes' : List Note) :
    noted topic (notes ++ notes') = noted topic notes ++ noted topic notes' := by
  simp [noted]

@[simp] theorem noted_map_happened (topic : Topic) (events : List Event) :
    noted topic (events.map .happened) = told topic events := by
  simp [noted, List.filterMap_map, Function.comp_def, Note.event?]

theorem told_replay (topic : Topic) (fields : Fields) (notes : List Note) :
    told topic (replay fields notes).1 = noted topic notes := by
  induction notes generalizing fields with
  | nil => rfl
  | cons note notes ih =>
      cases note with
      | known name value => exact ih (fields ++ [(name, value)])
      | happened e =>
          have htail := ih fields
          rw [replay, told_cons, told_within, htail]
          exact (told_cons topic e (notes.filterMap Note.event?)).symm

theorem told_logged (topic : Topic) (request : Request) (h : Handled σ) :
    told topic (logged request h).events = noted topic h.notes ++
      noted topic (match h.answer with | some answer => closingNotes answer | none => []) := by
  rw [← noted_append]
  exact told_replay topic (initialFields request) _

theorem noted_rejection_closing_ok (d : Datum) : noted .rejection (closingNotes (.ok d)) = [] := rfl

theorem noted_rejection_closing_error (e : ApiError) :
    noted .rejection (closingNotes (.error e)) = [some (.number e.status)] := by
  cases e <;> rfl

theorem noted_completion_closing (answer : Except ApiError Datum) :
    noted .completion (closingNotes answer) = [some (.number (answerResponse answer).status)] := by
  cases answer with
  | ok d => rfl
  | error e => cases e <;> rfl

/-! ## What is said in the course of an answer -/

/-- What the backend may say in the course of a request: nothing, or what the one call says that the
request asks for, until it is over or cut off. -/
inductive Says (g : Gate σ) (moment : Moment) (request : Request) (state : σ) : List Event → Prop where
  | nothing : Says g moment request state []
  | bind {m : BindRequest} (hpath : request.uri.path = "/api/bind")
      (hmessage : bindMessage request = .ok m) :
      Says g moment request state (g.endpoints.bindEnded moment m state).events
  | statuses {skyAddr : String} (hpath : request.uri.path = "/api/status")
      (haddress : lookupAddress request = .ok skyAddr) :
      Says g moment request state (g.endpoints.lookupEnded skyAddr state).events

theorem noted_bindCalling (topic : Topic) (m : BindRequest) : noted topic (bindCalling m) = [] := by
  cases topic <;> rfl

theorem noted_boundNotes (topic : Topic) (depositAddr : String) :
    noted topic (boundNotes depositAddr) = [] := by
  cases topic <;> rfl

theorem noted_lookupCalling (topic : Topic) (skyAddr : String) :
    noted topic (lookupCalling skyAddr) = [] := by
  cases topic <;> rfl

theorem noted_foundNotes (topic : Topic) (statuses : List DepositStatus) :
    noted topic (foundNotes statuses) = [] := by
  cases topic <;> rfl

/-- What an endpoint notes about rejections and completions is what the backend says about them. -/
theorem noted_bind (g : Gate σ) (moment : Moment) (hpath : request.uri.path = "/api/bind") (state : σ) :
    ∃ said, Says g moment request state said ∧
      ∀ topic, noted topic (g.endpoints.bind moment request state).notes = told topic said := by
  have houtcome := bindOutcome g.endpoints moment request state
  generalize g.endpoints.bind moment request state = h at houtcome
  cases houtcome with
  | unread | incomplete | unadmitted =>
      refine ⟨[], .nothing, fun topic ↦ ?_⟩
      cases topic <;> rfl
  | late hready hended | refused hready hended =>
      refine ⟨_, .bind hpath hready.message, fun topic ↦ ?_⟩
      simp [noted_bindCalling, hended]
  | bound hready hended =>
      refine ⟨_, .bind hpath hready.message, fun topic ↦ ?_⟩
      simp [noted_bindCalling, noted_boundNotes, hended]

theorem noted_lookup (g : Gate σ) (moment : Moment) (hpath : request.uri.path = "/api/status")
    (state : σ) :
    ∃ said, Says g moment request state said ∧
      ∀ topic, noted topic (g.endpoints.lookup moment request state).notes = told topic said := by
  have houtcome := lookupOutcome g.endpoints moment request state
  generalize g.endpoints.lookup moment request state = h at houtcome
  cases houtcome with
  | unread | unadmitted =>
      refine ⟨[], .nothing, fun topic ↦ ?_⟩
      cases topic <;> rfl
  | late hready hended | refused hready hended =>
      refine ⟨_, .statuses hpath hready.address, fun topic ↦ ?_⟩
      simp [noted_lookupCalling, hended]
  | found hready hended =>
      refine ⟨_, .statuses hpath hready.address, fun topic ↦ ?_⟩
      simp [noted_lookupCalling, noted_foundNotes, hended]

end DepositGate.Gate
