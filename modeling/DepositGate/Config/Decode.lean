import DepositGate.Config.Basic
import DepositGate.Record.Decode

/-!
# Reading configurations from data

The fields of configurations with their names and standard values. The instant of opening and the
configuration of the listeners must be given.
-/

namespace DepositGate

def Throttle.fields : Record.Fields Throttle where
  name := "Throttle"
  fields := ["max", "window_secs"]
  required := []
  empty := standard
  set t name d :=
    match name with
    | "max" => (Record.nat64 d).map fun n ↦ { t with max := n }
    | "window_secs" => (Record.nat64 d).map fun n ↦ { t with windowSecs := n }
    | _ => .ok t

/-- The configuration before its first field. -/
def ServerConfig.standard : ServerConfig where
  httpAddr := ""
  httpsAddr := ""
  staticDir := "web/build"
  startAt := ⟨0, 0⟩
  autoTlsHost := ""
  tlsCert := ""
  tlsKey := ""
  acmeCacheDir := "cert-cache"
  acmeEmail := none
  acmeProduction := true
  throttle := Throttle.standard

def ServerConfig.fields (format : Record.Format) : Record.Fields ServerConfig where
  name := "ServerConfig"
  fields := ["http_addr", "https_addr", "static_dir", "start_at", "auto_tls_host", "tls_cert",
    "tls_key", "acme_cache_dir", "acme_email", "acme_production", "throttle"]
  required := ["start_at"]
  empty := standard
  set c name d :=
    match name with
    | "http_addr" => (Record.text d).map fun s ↦ { c with httpAddr := s }
    | "https_addr" => (Record.text d).map fun s ↦ { c with httpsAddr := s }
    | "static_dir" => (Record.text d).map fun s ↦ { c with staticDir := s }
    | "start_at" => (Record.instant d).map fun t ↦ { c with startAt := t }
    | "auto_tls_host" => (Record.text d).map fun s ↦ { c with autoTlsHost := s }
    | "tls_cert" => (Record.text d).map fun s ↦ { c with tlsCert := s }
    | "tls_key" => (Record.text d).map fun s ↦ { c with tlsKey := s }
    | "acme_cache_dir" => (Record.text d).map fun s ↦ { c with acmeCacheDir := s }
    | "acme_email" => (Record.optionalText d).map fun s ↦ { c with acmeEmail := s }
    | "acme_production" => (Record.bool d).map fun b ↦ { c with acmeProduction := b }
    | "throttle" =>
      (Record.record format Throttle.fields d).map fun t ↦ { c with throttle := t }
    | _ => .ok c

def AppConfig.depositFields : Record.Fields (List String) where
  name := "DepositConfig"
  fields := ["btc_addresses"]
  required := []
  empty := []
  set addresses name d :=
    match name with
    | "btc_addresses" => Record.texts d
    | _ => .ok addresses

def AppConfig.loggingFields : Record.Fields String where
  name := "LoggingConfig"
  fields := ["format"]
  required := []
  empty := "text"
  set format name d :=
    match name with
    | "format" => Record.text d
    | _ => .ok format

def AppConfig.fields (format : Record.Format) : Record.Fields AppConfig where
  name := "AppConfig"
  fields := ["http", "deposit", "logging"]
  required := ["http"]
  empty := ⟨ServerConfig.standard, depositFields.empty, loggingFields.empty⟩
  set c name d :=
    match name with
    | "http" =>
      (Record.record format (ServerConfig.fields format) d).map fun http ↦ { c with http := http }
    | "deposit" =>
      (Record.record format depositFields d).map fun l ↦ { c with depositAddresses := l }
    | "logging" => (Record.record format loggingFields d).map fun s ↦ { c with logFormat := s }
    | _ => .ok c

def Json.recordFormat : Record.Format := ⟨false, Number.floatText Json.floatLayout⟩

def ServerConfig.ofJson (d : Datum) : Except Record.Mismatch ServerConfig :=
  Record.record Json.recordFormat (fields Json.recordFormat) d

end DepositGate
