import DepositGate.Http.Message
import DepositGate.Throttle.Limiter
import DepositGate.Tls.Certificates

/-!
# Lifecycles

A server is run and shut down by any number of callers at once. What they share is a phase, the token of
the run that a shutdown would cancel, and the registered listeners. A run has a number, its place in the
order in which runs have been accepted; so has its token. The calls in progress belong to the state, so
that their steps can take turns in any order.
-/

namespace DepositGate.Lifecycle

open Http (Protocol)

inductive ServerFault where
  | config (fault : ConfigFault)
  | alreadyRunning
  | listener (protocol : Protocol) (fault : SystemFault)
  | certificate (fault : Tls.CertificateFault)
  | brokenOff (message : String)
deriving DecidableEq, Repr

def ServerFault.message : ServerFault → String
  | config fault => fault.serverMessage
  | alreadyRunning => "HTTP service is already running"
  | listener protocol fault => protocol.name ++ " serve failed: " ++ fault.describe
  | certificate fault => "Failed to load TLS configuration: " ++ fault.message
  | brokenOff message => "Listener task failed: " ++ message

inductive Phase where
  | idle
  | starting
  | running
  | shuttingDown
  | failed
deriving DecidableEq, Repr

def Phase.name : Phase → String
  | idle => "Idle"
  | starting => "Starting"
  | running => "Running"
  | shuttingDown => "ShuttingDown"
  | failed => "Failed"

def Phase.acceptsRun (p : Phase) : Bool :=
  p == idle || p == failed

structure Place where
  protocol : Protocol
  addr : Net.SocketAddr
  certificate : Option TlsMode
deriving DecidableEq, Repr

def places (c : ServerConfig) : Except ConfigFault (List Place) := do
  let http ← c.httpSocketAddr
  let https ← c.httpsSocketAddr
  let plain : List Place := http.toList.map (⟨.http, ·, none⟩)
  match https, c.tlsMode with
  | some addr, some mode => .ok (plain ++ [⟨.https, addr, some mode⟩])
  | _, _ => .ok plain

/-- Whether the limiters of a configuration can be made, which a run does before anything else. Where they
cannot, the run breaks off: it takes no more steps and does not return. -/
def hasLimiters (c : ServerConfig) : Bool :=
  (Limiter.ofThrottle? c.throttle).isSome

structure Listener where
  run : Nat
  protocol : Protocol
deriving DecidableEq, Repr

inductive Ending where
  | stopped
  | failed (fault : SystemFault)
  | brokenOff (message : String)
deriving DecidableEq, Repr

/-- The fault of an ending, if it is one. -/
def Ending.fault? (protocol : Protocol) : Ending → Option ServerFault
  | stopped => none
  | failed fault => some (.listener protocol fault)
  | brokenOff message => some (.brokenOff message)

/-- A listener at work, or one that has ended and waits for its run to notice. -/
structure Task where
  place : Place
  ending : Option Ending
deriving DecidableEq, Repr

/-- How far a run has got: it has listeners to start, waits for a certificate, waits for its listeners, has to
stop the others after a fault, waits for them to stop, has to give account of itself, or has returned. -/
inductive Stage where
  | opening (places : List Place)
  | preparing (place : Place) (places : List Place)
  | supervising
  | failing (fault : ServerFault)
  | draining (fault : Option ServerFault)
  | closing (fault : Option ServerFault)
  | closed (fault : Option ServerFault)
deriving DecidableEq, Repr

structure Run where
  cancelled : Bool
  tasks : List Task
  stage : Stage
deriving DecidableEq, Repr

structure Shutdown where
  /-- The number of runs that had been accepted when it began. -/
  accepted : Nat
  listeners : List Listener
deriving DecidableEq, Repr

/-- What the calls of a server share, with the calls in progress. `token` is the run that a shutdown would
cancel, and `asked` are the listeners that have been asked to stop. -/
structure State where
  phase : Phase
  token : Option Nat
  listeners : List Listener
  runs : List Run
  shutdowns : List Shutdown
  asked : List Listener
deriving DecidableEq, Repr

def State.initial : State := ⟨.idle, none, [], [], [], []⟩

end DepositGate.Lifecycle
