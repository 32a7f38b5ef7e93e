import DepositGate.Lifecycle.Step
import DepositGate.Log

/-!
# Notices

What the program says of itself: what it has loaded, how its listeners come and go, and which signals it
gets. A notice is an entry of the log with a scope, by which the log can be filtered.
-/

namespace DepositGate.Lifecycle

open Http (Protocol)

inductive Signal where
  | interrupt
  | terminate
deriving DecidableEq, Repr

def Signal.name : Signal → String
  | interrupt => "Ctrl+C"
  | terminate => "SIGTERM"

inductive Notice where
  | loaded (c : AppConfig)
  | serviceStart
  | configured (c : ServerConfig)
  | starting (place : Place)
  | provisioning (host cacheDir : String) (production : Bool)
  | staging
  | listenerStopped (protocol : Protocol)
  | listenerFailed (protocol : Protocol) (fault : SystemFault)
  | listenerBrokenOff (message : String)
  | stopping (protocol : Protocol)
  | stopped (protocol : Protocol)
  | nothingToStop
  | serviceClosed
  | signalled (signal : Signal)
  | reloading
  | reloaded (cert key : String)
  | reloadFailed (cert key : String) (fault : Tls.CertificateFault)
deriving DecidableEq, Repr

namespace Notice

def scope : Notice → String
  | loaded _ => "teller_http"
  | provisioning _ _ _ | staging => "teller_http::http::tls"
  | signalled _ | reloading | reloaded _ _ | reloadFailed _ _ _ => "teller_http::http::shutdown"
  | _ => "teller_http::http::server"

def level : Notice → Level
  | staging | nothingToStop => .warn
  | listenerFailed _ _ | listenerBrokenOff _ | reloadFailed _ _ _ => .error
  | _ => .info

def message : Notice → String
  | loaded _ => "Loaded configuration"
  | serviceStart => "HTTP service start"
  | configured _ => "Configured"
  | starting place =>
    match place.certificate with
    | none => "Starting listener"
    | some (.manual _ _) => "Starting listener (manual certs)"
    | some (.automatic _) => "Starting listener (ACME)"
  | provisioning _ _ _ => "Using ACME certificates"
  | staging =>
    "Using Let's Encrypt staging environment - certificates will NOT be trusted by browsers. " ++
      "Set acme_production = true for production use."
  | listenerStopped _ => "Listener stopped"
  | listenerFailed _ _ => "Listener failed"
  | listenerBrokenOff _ => "Listener task failed"
  | stopping _ => "Shutting down server"
  | stopped _ => "Server stopped"
  | nothingToStop => "Shutdown called without an active run"
  | serviceClosed => "HTTP service closed"
  | signalled signal => "Received " ++ signal.name ++ ", initiating graceful shutdown"
  | reloading => "Received SIGHUP, reloading TLS certificates"
  | reloaded _ _ => "TLS certificates reloaded successfully"
  | reloadFailed _ _ _ => "Failed to reload TLS certificates"

def fields : Notice → Fields
  | loaded c =>
    [("http_addr", .text c.http.httpAddr), ("https_addr", .text c.http.httpsAddr),
      ("start_at", .text c.http.startAt.display), ("throttle_max", .number c.http.throttle.max),
      ("throttle_window_secs", .number c.http.throttle.windowSecs),
      ("deposit_addresses", .number c.depositAddresses.length)]
  | configured c =>
    [("http_addr", .text c.httpAddr), ("https_addr", .text c.httpsAddr),
      ("auto_tls_host", .text c.autoTlsHost)]
  | starting place =>
    let source : Fields := match place.certificate with
      | none => []
      | some (.manual cert key) => [("cert", .text cert), ("key", .text key)]
      | some (.automatic host) => [("host", .text host)]
    [("proto", .text place.protocol.name), ("addr", .text place.addr.toText)] ++ source
  | provisioning host cacheDir production =>
    [("host", .text host), ("cache", .text cacheDir),
      ("environment", .text (if production then "production" else "staging"))]
  | listenerStopped protocol | stopped protocol => [("proto", .text protocol.name)]
  | stopping protocol => [("proto", .text protocol.name), ("timeout", .text "5s")]
  | listenerFailed protocol fault =>
    [("proto", .text protocol.name), ("error", .text fault.describe)]
  | listenerBrokenOff message => [("error", .text message)]
  | reloaded cert key => [("cert", .text cert), ("key", .text key)]
  | reloadFailed cert key fault =>
    [("error", .text fault.message), ("cert", .text cert), ("key", .text key)]
  | _ => []

def event (n : Notice) : Event := ⟨n.level, n.message, n.fields, []⟩

end Notice

def startNotices (c : ServerConfig) (place : Place) : List Notice :=
  let provision := match place.certificate with
    | some (.automatic host) =>
      .provisioning host c.acmeCacheDir c.acmeProduction :: if c.acmeProduction then [] else [.staging]
    | _ => []
  .starting place :: provision

def joinNotices (cancelled : Bool) (protocol : Protocol) : Ending → List Notice
  | .stopped => [.listenerStopped protocol]
  | .failed fault => if cancelled then [] else [.listenerFailed protocol fault]
  | .brokenOff message => if cancelled then [] else [.listenerBrokenOff message]

def runNotices (c : ServerConfig) (s : State) (r : Run) (m : Move) : List Notice :=
  match m, r.stage with
  | .register _, .opening (place :: _) => if s.token.isNone then [] else startNotices c place
  | .join _ task, .supervising =>
    match r.tasks[task]? with
    | some ⟨place, some ending⟩ => joinNotices r.cancelled place.protocol ending
    | _ => []
  | .close _, .closing _ => [.serviceClosed]
  | _, _ => []

def State.notices (c : ServerConfig) (s : State) (m : Move) : List Notice :=
  match m with
  | .run =>
    if s.phase.acceptsRun then .serviceStart :: if hasLimiters c then [.configured c] else [] else []
  | .shutdown =>
    if s.token.isNone then [.nothingToStop] else s.listeners.map fun l ↦ .stopping l.protocol
  | .finishShutdown d => d.listeners.map fun l ↦ .stopped l.protocol
  | _ =>
    match m.number?.bind (s.runs[·]?) with
    | some r => runNotices c s r m
    | none => []

end DepositGate.Lifecycle
