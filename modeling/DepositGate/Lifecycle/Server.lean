import DepositGate.Lifecycle.Notice

/-!
# Servers

A server takes the steps of its calls in one fixed order: a run goes on until it waits for something to
happen, and what its surroundings hold in store for it happens at once.
-/

namespace DepositGate.Lifecycle

open Http (Protocol)

structure Environment where
  storage : Tls.Storage
  bindFault : Net.SocketAddr → Option SystemFault

structure Server where
  config : ServerConfig
  places : List Place
  environment : Environment
  state : State
  notices : List Notice

namespace Server

def ofConfig (environment : Environment) (c : ServerConfig) : Except ServerFault Server :=
  match c.validate, Lifecycle.places c with
  | .ok (), .ok places => .ok ⟨c, places, environment, .initial, []⟩
  | .error fault, _ | _, .error fault => .error (.config fault)

def perform (s : Server) (m : Move) : Server :=
  match s.state.step? s.places m with
  | some state => { s with state, notices := s.notices ++ s.state.notices s.config m }
  | none => s

def ending? (s : Server) (number : Nat) (t : Task) : Option Ending :=
  match s.environment.bindFault t.place.addr with
  | some fault => some (.failed fault)
  | none => if s.state.asked.contains ⟨number, t.place.protocol⟩ then some .stopped else none

def supervision? (s : Server) (number : Nat) (r : Run) : Option Move :=
  if r.cancelled then some (.notice number)
  else if r.tasks.isEmpty then some (.exhaust number)
  else
    match r.tasks.findIdx? (·.ending.isSome) with
    | some task => some (.join number task)
    | none =>
      (List.range r.tasks.length).findSome? fun task ↦
        (r.tasks[task]?.bind (s.ending? number)).map (.finish number task ·)

def certificateFault? (s : Server) (place : Place) : Option Tls.CertificateFault :=
  place.certificate.bind fun mode ↦
    match s.environment.storage.prepare s.config.acmeCacheDir mode with
    | .ok () => none
    | .error fault => some fault

/-- The next step of a run, if it does not wait. -/
def runMove? (s : Server) (number : Nat) (r : Run) : Option Move :=
  match r.stage with
  | .opening (_ :: _) => some (.register number)
  | .opening [] => some (.promote number)
  | .preparing place _ => some (.prepare number (s.certificateFault? place))
  | .supervising => s.supervision? number r
  | .failing _ => some (.stopOthers number)
  | .draining _ => some (.drain number)
  | .closing _ => some (.close number)
  | .closed _ => none

/-- The next step, if not all runs wait or have broken off. -/
def nextMove? (s : Server) : Option Move :=
  if hasLimiters s.config then
    (List.range s.state.runs.length).findSome? fun number ↦
      s.state.runs[number]?.bind (s.runMove? number)
  else none

def advance : Nat → Server → Server
  | 0, s => s
  | n + 1, s =>
    match s.nextMove? with
    | some m => advance n (s.perform m)
    | none => s

/-- Takes steps until all runs wait. A run takes two to start a listener, two to see it end, and no more
than six others. -/
def settle (s : Server) : Server :=
  s.advance (s.state.runs.length * (4 * s.places.length + 6))

def acceptsRun (s : Server) : Bool :=
  s.state.phase.acceptsRun

def run (s : Server) : Server :=
  (s.perform .run).settle

def shutdown (s : Server) : Server :=
  let s := (s.perform .shutdown).settle
  (s.state.shutdowns.foldl (fun s d ↦ s.perform (.finishShutdown d)) s).settle

def runFault? (s : Server) (number : Nat) : Option ServerFault :=
  match s.state.runs[number]? with
  | some ⟨_, _, .closed fault⟩ => fault
  | _ => none

def listening? (s : Server) (protocol : Protocol) : Option Net.IpAddr := do
  let listener ← s.state.listeners.find? (·.protocol == protocol)
  let place ← s.places.find? (·.protocol == listener.protocol)
  if (s.environment.bindFault place.addr).isSome then none else some place.addr.ip

end Server

end DepositGate.Lifecycle
