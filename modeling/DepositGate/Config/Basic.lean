import DepositGate.Net.SocketAddr
import DepositGate.Text.Quoted
import DepositGate.Throttle.Basic
import DepositGate.Time.Instant

/-!
# Configurations

What the gate is told: where to listen, how to come by a certificate, what to serve and when to open. A
configuration is checked once, before anything listens.
-/

namespace DepositGate

/-- The configuration of the listeners. An empty text counts as none. -/
structure ServerConfig where
  httpAddr : String
  httpsAddr : String
  staticDir : String
  startAt : Time.Instant
  autoTlsHost : String
  tlsCert : String
  tlsKey : String
  acmeCacheDir : String
  acmeEmail : Option String
  acmeProduction : Bool
  throttle : Throttle
deriving DecidableEq, Repr

structure AppConfig where
  http : ServerConfig
  depositAddresses : List String
  /-- How the log is written: `json`, or anything else for plain text. -/
  logFormat : String
deriving DecidableEq, Repr

inductive TlsMode where
  | automatic (host : String)
  | manual (cert key : String)
deriving DecidableEq, Repr

inductive ConfigFault where
  | noListenAddr
  | missingTlsMode
  | partialCertPair
  | conflictingTlsModes
  | tlsWithoutHttps
  | invalidAddr (field value : String)
  | invalidThrottle
deriving DecidableEq, Repr

def ConfigFault.message : ConfigFault → String
  | noListenAddr => "at least one of http_addr, https_addr must be set"
  | missingTlsMode =>
    "when https_addr is set, either auto_tls_host or both tls_cert and tls_key must be set"
  | partialCertPair => "tls_cert and tls_key must be set or unset together"
  | conflictingTlsModes => "either use auto_tls_host or both tls_cert and tls_key"
  | tlsWithoutHttps => "auto_tls_host, tls_cert or tls_key is set but https_addr is not"
  | invalidAddr field value => s!"invalid {field} " ++ Text.quoted value ++ ": expected host:port"
  | invalidThrottle => "throttle max and window_secs must be greater than zero"

def ConfigFault.serverMessage (f : ConfigFault) : String :=
  "Invalid configuration: " ++ f.message

namespace ServerConfig

def parseAddr (field value : String) : Except ConfigFault Net.SocketAddr :=
  match Net.SocketAddr.read? value with
  | some addr => .ok addr
  | none => .error (.invalidAddr field value)

def optionalAddr (field value : String) : Except ConfigFault (Option Net.SocketAddr) :=
  if value.isEmpty then .ok none else (parseAddr field value).map some

def httpSocketAddr (c : ServerConfig) : Except ConfigFault (Option Net.SocketAddr) :=
  optionalAddr "http_addr" c.httpAddr

def httpsSocketAddr (c : ServerConfig) : Except ConfigFault (Option Net.SocketAddr) :=
  optionalAddr "https_addr" c.httpsAddr

def tlsMode (c : ServerConfig) : Option TlsMode :=
  if c.httpsAddr.isEmpty then none
  else if !c.autoTlsHost.isEmpty then some (.automatic c.autoTlsHost)
  else some (.manual c.tlsCert c.tlsKey)

/-- Checks the places to listen and the sources of certificates against each other. The first fault
counts. -/
def validate (c : ServerConfig) : Except ConfigFault Unit := do
  let hasHttp := !c.httpAddr.isEmpty
  let hasHttps := !c.httpsAddr.isEmpty
  let hasAuto := !c.autoTlsHost.isEmpty
  let hasCert := !c.tlsCert.isEmpty
  let hasKey := !c.tlsKey.isEmpty
  if !hasHttp && !hasHttps then .error .noListenAddr
  if hasHttps && !hasAuto && !(hasCert && hasKey) then .error .missingTlsMode
  if hasCert != hasKey then .error .partialCertPair
  if hasAuto && (hasCert || hasKey) then .error .conflictingTlsModes
  if !hasHttps && (hasAuto || hasCert || hasKey) then .error .tlsWithoutHttps
  let _ ← c.httpSocketAddr
  let _ ← c.httpsSocketAddr
  if c.throttle.max = 0 ∨ c.throttle.windowSecs = 0 then .error .invalidThrottle

end ServerConfig

end DepositGate
