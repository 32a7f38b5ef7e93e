import DepositGate.Deposit.Backend

/-!
# Address pools

A backend that hands out the deposit addresses of a list in their order, one to each sky address.
-/

namespace DepositGate

structure Binding where
  skyAddr : String
  depositAddr : String
  seq : Nat
  boundAt : Int
deriving DecidableEq, Repr

/-- Deposit addresses: the free ones in the order in which they will be handed out, and those bound. -/
structure Pool where
  free : List String
  bindings : List Binding
  nextSeq : Nat
deriving DecidableEq, Repr

namespace Pool

def ofList (addresses : List String) : Pool :=
  ⟨addresses, [], 0⟩

def available (p : Pool) : Nat :=
  p.free.length

def bindingsOf (p : Pool) (skyAddr : String) : List Binding :=
  p.bindings.filter (·.skyAddr == skyAddr)

def binding? (p : Pool) (skyAddr : String) : Option Binding :=
  (p.bindingsOf skyAddr).getLast?

def waiting : String := "waiting_deposit"

def boundEvent (b : Binding) : Event :=
  ⟨.debug, "Bound deposit address",
    [("sky_addr", .text b.skyAddr), ("deposit_addr", .text b.depositAddr), ("seq", .number b.seq)], []⟩

/-- Binds a sky address to the next free address, unless it is bound already. -/
def bind (skyAddr : String) (second : Int) (p : Pool) : Called Pool String :=
  match p.binding? skyAddr with
  | some b => .atOnce (.ok b.depositAddr) p []
  | none =>
    match p.free with
    | [] => .atOnce (.error .noDepositAddress) p []
    | addr :: free =>
      let b : Binding := ⟨skyAddr, addr, p.nextSeq, second⟩
      .atOnce (.ok addr) ⟨free, p.bindings ++ [b], p.nextSeq + 1⟩ [boundEvent b]

def statuses (skyAddr : String) (p : Pool) : Called Pool (List DepositStatus) :=
  .atOnce (.ok ((p.bindingsOf skyAddr).map fun b ↦ ⟨b.seq, b.boundAt, waiting⟩)) p []

def backend : Backend Pool where
  bind := bind
  statuses := statuses

end Pool

end DepositGate
