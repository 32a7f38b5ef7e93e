import DepositGate.Connection.Head

/-!
# Deadlines of a connection

A connection is closed when its client is too slow. While a head comes in, it must be complete within
the read timeout; the answer must be written within the write timeout of the head; between requests the
client may wait for the idle timeout. A multiplexed connection may wait for the idle timeout without
traffic, and a write that makes no progress for the write timeout fails. Times are in milliseconds.
-/

namespace DepositGate.Connection

/-- How long a client may take: for a head or the handshake, for taking an answer from the end of the head on,
and between two requests. -/
structure Timeouts where
  read : Nat
  write : Nat
  idle : Nat
deriving DecidableEq, Repr

def Timeouts.standard : Timeouts := ⟨10000, 60000, 120000⟩

inductive Activity where
  | handshake
  | read
  | write
deriving DecidableEq, Repr

def Activity.name : Activity → String
  | handshake => "handshake"
  | read => "read"
  | write => "write"

inductive Fault where
  | timedOut (activity : Activity)
  | brokenPipe
  | reset
deriving DecidableEq, Repr

def Fault.message : Fault → String
  | timedOut activity => "connection " ++ activity.name ++ " timed out"
  | brokenPipe => "broken pipe"
  | reset => "handshake failed"

inductive Attempt (α : Type) where
  | pending
  | ready (a : α)
  | failed (f : Fault)
deriving DecidableEq, Repr

/-- Where a connection stands: a head comes in since a time, of whose end some bytes are matched; a head is in
and its answer not begun; nothing has been read since the last write; or it is multiplexed. -/
inductive Stage where
  | head (since matched : Nat)
  | busy
  | idle (since : Nat)
  | multiplexed (lastActivity : Nat)
deriving DecidableEq, Repr

/-- What the deadlines of a connection depend on. An answer must be written by `response`, and a write outside
an answer must have made progress by `stall`. -/
structure Deadlines where
  stage : Stage
  firstRead : Bool
  response : Option Nat
  stall : Option Nat
deriving DecidableEq, Repr

namespace Deadlines

def accepted (now : Nat) : Deadlines :=
  ⟨.head now 0, true, none, none⟩

def readDeadline (t : Timeouts) (d : Deadlines) : Option Nat :=
  match d.stage with
  | .head since _ => some (since + t.read)
  | .busy => none
  | .idle since => some (since + t.idle)
  | .multiplexed lastActivity => some (lastActivity + t.idle)

/-- Looks for the end of a head that has come in since a time. -/
def scan (t : Timeouts) (now since matched : Nat) (bytes : List UInt8) (d : Deadlines) : Deadlines :=
  match scanHeadEnd matched bytes with
  | none => { d with stage := .busy, response := some (now + t.write) }
  | some matched => { d with stage := .head since matched }

def onRead (t : Timeouts) (now : Nat) (bytes : List UInt8) (d : Deadlines) : Deadlines :=
  let later := { d with firstRead := false }
  if d.firstRead && isPreface bytes then { later with stage := .multiplexed now }
  else
    match d.stage with
    | .head since matched => later.scan t now since matched bytes
    | .idle _ => { later with response := none }.scan t now now 0 bytes
    | .busy => later
    | .multiplexed _ => { later with stage := .multiplexed now }

def onWrite (now : Nat) (d : Deadlines) : Deadlines :=
  match d.stage with
  | .multiplexed _ => { d with stall := none, stage := .multiplexed now }
  | _ => { d with stall := none, stage := .idle now }

/-- When a write that waits fails. Outside an answer it is the write timeout after the first wait. -/
def writeDeadline (t : Timeouts) (now : Nat) (d : Deadlines) : Nat :=
  d.response.getD (d.stall.getD (now + t.write))

def onBlocked (t : Timeouts) (now : Nat) (d : Deadlines) : Deadlines :=
  match d.response with
  | some _ => d
  | none => { d with stall := some (d.writeDeadline t now) }

/-- An attempt to read, given what comes of it without deadlines. -/
def read (t : Timeouts) (now : Nat) (inner : Attempt (List UInt8)) (d : Deadlines) :
    Attempt (List UInt8) × Deadlines :=
  match inner with
  | .ready bytes => (inner, if bytes.isEmpty then d else d.onRead t now bytes)
  | .pending =>
    match d.readDeadline t with
    | some deadline => (if deadline ≤ now then .failed (.timedOut .read) else .pending, d)
    | none => (.pending, d)
  | .failed _ => (inner, d)

def blocked {α : Type} (t : Timeouts) (now : Nat) (d : Deadlines) : Attempt α × Deadlines :=
  (if d.writeDeadline t now ≤ now then .failed (.timedOut .write) else .pending, d.onBlocked t now)

/-- An attempt to write, given what comes of it without deadlines: the number of bytes taken. -/
def write (t : Timeouts) (now : Nat) (inner : Attempt Nat) (d : Deadlines) :
    Attempt Nat × Deadlines :=
  match inner with
  | .ready n => (inner, if 0 < n then d.onWrite now else d)
  | .pending => d.blocked t now
  | .failed _ => (inner, d)

/-- An attempt to flush or to end the writing, given what comes of it without deadlines. -/
def settle (t : Timeouts) (now : Nat) (inner : Attempt Unit) (d : Deadlines) :
    Attempt Unit × Deadlines :=
  match inner with
  | .pending => d.blocked t now
  | _ => (inner, d)

end Deadlines

/-- Accepts a connection whose handshake takes a number of milliseconds and may fail then. The result is
the time at which it is accepted. -/
def handshake (t : Timeouts) (duration : Nat) (fails : Bool) : Except Fault Nat :=
  if t.read < duration then .error (.timedOut .handshake)
  else if fails then .error .reset
  else .ok duration

end DepositGate.Connection
