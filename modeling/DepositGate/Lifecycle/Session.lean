import DepositGate.Lifecycle.Server

/-!
# Sessions

What a caller does with a server, one command after another: runs it in the background, looks at it, shuts
it down and asks what came of the run.
-/

namespace DepositGate.Lifecycle

open Http (Protocol)

inductive Command where
  | run
  | runAgain
  | phase
  | listening (protocol : Protocol)
  | shutdown
  | join
deriving DecidableEq, Repr

inductive Answer where
  | done
  | fault (f : ServerFault)
  | noRun
  | phase (p : Phase)
  | listening (ip : Option Net.IpAddr)
deriving DecidableEq, Repr

/-- A server and the run in its background: the number of one that has been accepted, or why it has not. -/
structure Session where
  server : Server
  background : Option (Except ServerFault Nat)

namespace Session

def result (s : Server) : Except ServerFault Nat → Answer
  | .error fault => .fault fault
  | .ok number =>
    match s.runFault? number with
    | some fault => .fault fault
    | none => .done

def called (s : Server) : Except ServerFault Nat :=
  if s.acceptsRun then .ok s.state.runs.length else .error .alreadyRunning

def step (s : Session) : Command → Answer × Session
  | .run => (.done, ⟨s.server.run, some (called s.server)⟩)
  | .runAgain =>
    let server := s.server.run
    (result server (called s.server), { s with server })
  | .phase => (.phase s.server.state.phase, s)
  | .listening protocol => (.listening (s.server.listening? protocol), s)
  | .shutdown => (.done, { s with server := s.server.shutdown })
  | .join =>
    match s.background with
    | some called => (result s.server called, { s with background := none })
    | none => (.noRun, s)

def answers (s : Session) : List Command → List Answer
  | [] => []
  | c :: cs =>
    let (a, s) := s.step c
    a :: answers s cs

end Session

end DepositGate.Lifecycle
