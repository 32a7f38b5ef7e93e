import DepositGate.CommandLine.Program
import DepositGate.Deposit.Pool
import DepositGate.Gate.Router
import DepositGate.Log.Line
import Std.Async.Signal
import Std.Http
import Std.Time

/-!
# The command line

The program with the files, signals and sockets of the system. It speaks plain HTTP only, so that an
encrypted listener fails to start.
-/

namespace DepositGate.CommandLine

open Lifecycle (Environment Notice Place)

def systemFault : IO.Error → SystemFault
  | .noFileOrDirectory .. => .notFound
  | .permissionDenied .. => .permissionDenied
  | .inappropriateType .. => .isADirectory
  | .resourceBusy .. => .addrInUse
  | e => ⟨none, "Other", toString e⟩

def readFile (path : String) : IO (Except SystemFault (List UInt8)) := do
  try
    let bytes ← IO.FS.readBinFile path
    pure (.ok bytes.toList)
  catch e => pure (.error (systemFault e))

def now : IO Time.Instant := do
  let t := (← Std.Time.Timestamp.now).val
  pure ⟨t.second.val, t.nano.val.toNat⟩

structure Journal where
  filter : Log.Filter
  json : Bool

def Journal.write (j : Journal) (scope : String) (e : Event) : IO Unit := do
  if j.filter.admits scope e then
    let time ← now
    IO.println (if j.json then Log.jsonLine time scope e else Log.plainLine time scope e)
    (← IO.getStdout).flush

def Journal.notify (j : Journal) (notices : List Notice) : IO Unit :=
  notices.forM fun n ↦ j.write n.scope n.event

/-! ## Requests -/

/-- The files of a site that a request may be about: the one it names and the index file there. -/
def siteFor (directory : String) (started : Int) (request : Http.Request) : IO (Option Site.Tree) := do
  let names := (Site.requestedPath? request.uri.path).getD []
  let mut files : List (String × List UInt8) := []
  for path in [names, names ++ [Site.indexName]] do
    let path := "/".intercalate path
    if let .ok bytes ← readFile (directory ++ "/" ++ path) then files := (path, bytes) :: files
  pure (some (.ofFiles started files))

/-- A request as the gate takes it. Bodies are sent as they are, so no encoding is accepted. -/
def requestOf (request : Std.Http.Request Std.Http.Body.Stream) (body : ByteArray) : Http.Request where
  method := toString request.line.method
  uri := .ofString (toString request.line.uri)
  headers := Http.Headers.erase
    (request.line.headers.toList.map fun (name, value) ↦ (name.value, value.value)) "accept-encoding"
  body := body.toList
  peer := (request.extensions.get Std.Http.Server.RemoteAddr).bind fun peer ↦
    Net.SocketAddr.read? (toString peer)
  protocol := some .http

def responseOf (r : Http.Response) : Std.Async.Async (Std.Http.Response Std.Http.Body.Any) := do
  let status := (Std.Http.Status.ofCode none r.status.toUInt16).getD .internalServerError
  let headers := (r.headers.filter (·.1 != "content-length")).foldl
    (fun headers (name, value) ↦ (headers.insert? name value).getD headers) Std.Http.Headers.empty
  let body ← Std.Http.Body.Full.ofByteArray ⟨r.body.content.toArray⟩
  pure { line := { status, headers }, body := .ofBody body }

structure Desk where
  gate : Gate Pool
  state : IO.Ref (Gate.State Pool)
  directory : String
  started : Int
  journal : Journal

def Desk.answer (d : Desk) (request : Http.Request) : IO Http.Response := do
  let time ← now
  let gate := { d.gate with site := ← siteFor d.directory d.started request }
  let reply ← d.state.modifyGet fun state ↦
    let reply := gate.reply ⟨time, time.seconds⟩ request state
    (reply, reply.state)
  reply.events.forM (d.journal.write "teller_http::routes")
  pure reply.response

instance : Std.Http.Server.Handler Desk where
  onRequest d request := do
    let body : ByteArray ← request.body.readAll
    responseOf (← d.answer (requestOf request body))

/-! ## Listeners -/

def socketAddress (addr : Net.SocketAddr) : Std.Net.SocketAddress :=
  match addr.ip with
  | .v4 bytes => .v4 ⟨⟨(Vector.ofFn fun i : Fin 4 ↦ (bytes.getD i 0).toUInt8)⟩, addr.port.toUInt16⟩
  | .v6 groups => .v6 ⟨⟨(Vector.ofFn fun i : Fin 8 ↦ (groups.getD i 0).toUInt16)⟩, addr.port.toUInt16⟩

def listen (d : Desk) (place : Place) : IO (Except SystemFault Std.Http.Server) := do
  match place.protocol with
  | .https => pure (.error .notImplemented)
  | .http =>
    try
      let server ← (Std.Http.Server.serve (socketAddress place.addr) d).block
      pure (.ok server)
    catch e => pure (.error (systemFault e))

def waitForSignal : IO Lifecycle.Signal := do
  let interrupt ← (← Std.Async.Signal.Waiter.mk .sigint false).wait
  let terminate ← (← Std.Async.Signal.Waiter.mk .sigterm false).wait
  IO.waitAny
    [Task.map (fun _ ↦ Lifecycle.Signal.interrupt) interrupt,
      Task.map (fun _ ↦ Lifecycle.Signal.terminate) terminate]

/-! ## The program -/

def serve (filter : String) (c : AppConfig) : IO UInt32 := do
  let journal : Journal := ⟨.read filter, c.logFormat == "json"⟩
  IO.eprint (World.filterWarnings filter)
  let cert ← readFile c.http.tlsCert
  let key ← readFile c.http.tlsKey
  let some start := Gate.State.initial? c.http.throttle (Pool.ofList c.depositAddresses)
    | IO.eprint (World.lastWords Limiter.windowTooLong); return 1
  let gate := Gate.ofConfig c.http Pool.backend SkyAddress.validate none
  let desk : Desk := ⟨gate, ← IO.mkRef start, c.http.staticDir, (← now).seconds, journal⟩
  let places := (Lifecycle.places c.http).toOption.getD []
  let listeners ← places.mapM fun place ↦ do pure (place, ← listen desk place)
  let environment : Environment :=
    { storage := ⟨fun path ↦ if path == c.http.tlsCert then cert else key, fun _ ↦ .ok ()⟩
      bindFault := fun addr ↦ listeners.findSome? fun (place, listener) ↦
        match listener with
        | .error fault => if place.addr == addr then some fault else none
        | .ok _ => none }
  match Lifecycle.Server.ofConfig environment c.http with
  | .error fault => IO.eprint (World.lastWords fault.diagnosis); pure 1
  | .ok server =>
    let server := Lifecycle.Server.run { server with notices := [.loaded c] }
    journal.notify server.notices
    if World.goesOn server then
      let signal ← waitForSignal
      journal.notify [.signalled signal]
      for (_, listener) in listeners do
        if let .ok listener := listener then listener.shutdown.block
      journal.notify (Lifecycle.Server.shutdown { server with notices := [] }).notices
    match server.runFault? 0 with
    | some fault => IO.eprint (World.lastWords fault.diagnosis); pure 1
    | none => pure 0

def report (ended : Ended) : IO UInt32 := do
  IO.print ended.stdout
  IO.eprint ended.stderr
  pure ended.code.toUInt32

def carryOut (arguments : List String) : IO UInt32 := do
  match Request.read arguments with
  | .ok (.start config logLevel) =>
    match AppConfig.load (← readFile (config.getD standardConfig)) with
    | .ok c => serve ((logLevel.or (← IO.getEnv "RUST_LOG")).getD standardFilter) c
    | .error fault => report ⟨1, "", World.lastWords fault.diagnosis, true, []⟩
  | .ok .help => report (World.printed helpText)
  | .ok .version => report (World.printed versionText)
  | .error fault => report (World.refused fault)

end DepositGate.CommandLine

def main (arguments : List String) : IO UInt32 :=
  DepositGate.CommandLine.carryOut arguments
