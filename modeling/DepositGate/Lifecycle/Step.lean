import DepositGate.Lifecycle.Basic

/-!
# Steps of a lifecycle

Each step is one section of a call that nothing interrupts, or the end of a listener. Calls in progress
take their steps in any order; `Reachable` holds the states to which that may lead.
-/

namespace DepositGate.Lifecycle

/-- A step. Steps of a run bear its number: it registers a listener, gets a certificate, has started all its
listeners, sees the end of one, sees the end of all, sees that its token is cancelled, asks the others to stop
after a fault, has seen them stop or stops them by force, and returns. `finish` is the end of a listener. -/
inductive Move where
  | run
  | shutdown
  | finishShutdown (s : Shutdown)
  | register (run : Nat)
  | prepare (run : Nat) (fault : Option Tls.CertificateFault)
  | promote (run : Nat)
  | finish (run task : Nat) (ending : Ending)
  | join (run task : Nat)
  | exhaust (run : Nat)
  | notice (run : Nat)
  | stopOthers (run : Nat)
  | drain (run : Nat)
  | close (run : Nat)
deriving DecidableEq, Repr

def Move.number? : Move → Option Nat
  | .run | .shutdown | .finishShutdown _ => none
  | .register n | .prepare n _ | .promote n | .finish n _ _ | .join n _ | .exhaust n | .notice n
  | .stopOthers n | .drain n | .close n => some n

def Run.started (place : Place) (places : List Place) (r : Run) : Run :=
  { r with tasks := r.tasks ++ [⟨place, none⟩], stage := .opening places }

/-- The run that returns without its listeners, which are stopped by force. -/
def Run.abandoned (fault : Option ServerFault) (r : Run) : Run :=
  { r with tasks := [], stage := .closing fault }

/-- The run that has seen the end of a listener. Only the end of a listener before the token is cancelled
counts as a fault; it cancels the token. -/
def Run.joined (task : Nat) (fault : Option ServerFault) (r : Run) : Run :=
  let r := { r with tasks := r.tasks.eraseIdx task }
  match fault with
  | some fault => if r.cancelled then r else { r with cancelled := true, stage := .failing fault }
  | none => r

namespace State

def put (s : State) (number : Nat) (r : Run) : State :=
  { s with runs := s.runs.set number r }

def startRun (places : List Place) (s : State) : State :=
  if s.phase.acceptsRun then
    { s with
      phase := .starting
      token := some s.runs.length
      listeners := []
      runs := s.runs ++ [⟨false, [], .opening places⟩] }
  else s

/-- A shutdown is called: it takes the token, cancels it, and takes the listeners to stop them. Without a
token it has no effect. -/
def startShutdown (s : State) : State :=
  match s.token with
  | none => s
  | some number =>
    { s with
      phase := .shuttingDown
      token := none
      listeners := []
      runs := s.runs.modify number fun r ↦ { r with cancelled := true }
      shutdowns := s.shutdowns ++ [⟨s.runs.length, s.listeners⟩]
      asked := s.asked ++ s.listeners }

/-- A shutdown returns. The phase is its own only if no run has been accepted in the meantime. -/
def finishShutdown (d : Shutdown) (s : State) : State :=
  { s with
    shutdowns := s.shutdowns.erase d
    phase := if d.accepted = s.runs.length ∧ s.phase = .shuttingDown then .idle else s.phase }

/-- A run returns. If no other one has been accepted in the meantime, the state tells its result, but a
shutdown in progress keeps the phase. -/
def close (number : Nat) (fault : Option ServerFault) (r : Run) (s : State) : State :=
  let s := s.put number { r with stage := .closed fault }
  if number + 1 = s.runs.length then
    match fault with
    | some _ => { s with phase := .failed, token := none, listeners := [] }
    | none =>
      if s.phase = .shuttingDown then s
      else { s with phase := .idle, token := none, listeners := [] }
  else s

def register (number : Nat) (place : Place) (places : List Place) (r : Run) (s : State) : State :=
  if s.token.isNone then s.put number (r.abandoned none)
  else
    let r' :=
      if place.certificate.isSome then { r with stage := .preparing place places }
      else r.started place places
    let listeners := s.listeners ++ [⟨number, place.protocol⟩]
    { s.put number r' with listeners := listeners }

def promote (number : Nat) (r : Run) (s : State) : State :=
  { s.put number { r with stage := .supervising } with
    phase := if s.phase = .starting then .running else s.phase }

def stepRun? (s : State) (number : Nat) (r : Run) (m : Move) : Option State :=
  match m, r.stage with
  | .register _, .opening (place :: places) => some (s.register number place places r)
  | .prepare _ none, .preparing place places => some (s.put number (r.started place places))
  | .prepare _ (some fault), .preparing _ _ =>
    some (s.put number (r.abandoned (some (.certificate fault))))
  | .promote _, .opening [] => some (s.promote number r)
  | .finish _ task ending, _ =>
    match r.tasks[task]? with
    | some ⟨place, none⟩ => some (s.put number { r with tasks := r.tasks.set task ⟨place, some ending⟩ })
    | _ => none
  | .join _ task, .supervising =>
    match r.tasks[task]? with
    | some ⟨place, some ending⟩ => some (s.put number (r.joined task (ending.fault? place.protocol)))
    | _ => none
  | .exhaust _, .supervising =>
    if r.tasks.isEmpty then some (s.put number { r with stage := .closing none }) else none
  | .notice _, .supervising =>
    if r.cancelled then some (s.put number { r with stage := .draining none }) else none
  | .stopOthers _, .failing fault =>
    let r' := { r with stage := .draining (some fault) }
    some { s.put number r' with asked := s.asked ++ s.listeners }
  | .drain _, .draining fault => some (s.put number (r.abandoned fault))
  | .close _, .closing fault => some (s.close number fault r)
  | _, _ => none

def step? (places : List Place) (s : State) (m : Move) : Option State :=
  match m.number? with
  | some number => s.runs[number]?.bind fun r ↦ s.stepRun? number r m
  | none =>
    match m with
    | .run => some (s.startRun places)
    | .shutdown => some s.startShutdown
    | .finishShutdown d => if d ∈ s.shutdowns then some (s.finishShutdown d) else none
    | _ => none

end State

inductive Reachable (places : List Place) : State → Prop where
  | initial : Reachable places .initial
  | step {s t : State} (m : Move) : Reachable places s → s.step? places m = some t →
      Reachable places t

end DepositGate.Lifecycle
