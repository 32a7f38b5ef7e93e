import DepositGate.Connection.Deadline

/-!
# Connections in memory

Two pipes of limited capacity between a client and the server's end of a connection, which keeps
deadlines by a clock that moves only as it is told.
-/

namespace DepositGate.Connection

/-! ## Pipes -/

structure Pipe where
  capacity : Nat
  bytes : List UInt8
  closed : Bool
deriving DecidableEq, Repr

namespace Pipe

def empty (capacity : Nat) : Pipe := ⟨capacity, [], false⟩

/-- Takes up to `n` bytes out. What is in the pipe can be read even if it is closed. -/
def read (n : Nat) (p : Pipe) : Attempt (List UInt8) × Pipe :=
  if !p.bytes.isEmpty then (.ready (p.bytes.take n), { p with bytes := p.bytes.drop n })
  else if p.closed then (.ready [], p)
  else (.pending, p)

def write (bytes : List UInt8) (p : Pipe) : Attempt Nat × Pipe :=
  let room := p.capacity - p.bytes.length
  if p.closed then (.failed .brokenPipe, p)
  else if room = 0 then (.pending, p)
  else (.ready (min bytes.length room), { p with bytes := p.bytes ++ bytes.take room })

def close (p : Pipe) : Pipe := { p with closed := true }

end Pipe

/-! ## Both ends -/

structure Duplex where
  now : Nat
  toServer : Pipe
  toClient : Pipe
  clientGone : Bool
  deadlines : Deadlines
deriving DecidableEq, Repr

inductive Action where
  | advance (ms : Nat)
  | clientWrite (bytes : List UInt8)
  | clientRead (n : Nat)
  | clientClose
  | read (n : Nat)
  | write (bytes : List UInt8)
  | flush
  | shutdown
deriving DecidableEq, Repr

inductive Outcome where
  | done
  | gone
  | data (a : Attempt (List UInt8))
  | wrote (a : Attempt Nat)
  | settled (a : Attempt Unit)
deriving DecidableEq, Repr

namespace Duplex

def accepted (capacity now : Nat) : Duplex :=
  ⟨now, .empty capacity, .empty capacity, false, .accepted now⟩

def step (t : Timeouts) (d : Duplex) : Action → Outcome × Duplex
  | .advance ms => (.done, { d with now := d.now + ms })
  | .clientWrite bytes =>
    if d.clientGone then (.gone, d)
    else
      let (a, pipe) := d.toServer.write bytes
      (.wrote a, { d with toServer := pipe })
  | .clientRead n =>
    if d.clientGone then (.gone, d)
    else
      let (a, pipe) := d.toClient.read n
      (.data a, { d with toClient := pipe })
  | .clientClose =>
    (.done, { d with clientGone := true, toServer := d.toServer.close, toClient := d.toClient.close })
  | .read n =>
    let (inner, pipe) := d.toServer.read n
    let (a, deadlines) := d.deadlines.read t d.now inner
    (.data a, { d with toServer := pipe, deadlines := deadlines })
  | .write bytes =>
    let (inner, pipe) := d.toClient.write bytes
    let (a, deadlines) := d.deadlines.write t d.now inner
    (.wrote a, { d with toClient := pipe, deadlines := deadlines })
  | .flush =>
    let (a, deadlines) := d.deadlines.settle t d.now (.ready ())
    (.settled a, { d with deadlines := deadlines })
  | .shutdown =>
    let (a, deadlines) := d.deadlines.settle t d.now (.ready ())
    (.settled a, { d with toClient := d.toClient.close, deadlines := deadlines })

def run (t : Timeouts) (d : Duplex) : List Action → List Outcome
  | [] => []
  | action :: actions =>
    let (outcome, d) := d.step t action
    outcome :: run t d actions

end Duplex

end DepositGate.Connection
