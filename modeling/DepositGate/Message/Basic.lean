import DepositGate.Coin
import DepositGate.Record.Datum

/-!
# Messages

What clients send to bind an address and what they get: deposit addresses and the statuses of deposits,
as data too.
-/

namespace DepositGate

structure DepositStatus where
  seq : Nat
  updatedAt : Int
  status : String
deriving DecidableEq, Repr

structure BindRequest where
  skyAddr : String
  coinCode : String
deriving DecidableEq, Repr

structure BindReply where
  depositAddress : String
  coin : Coin
deriving DecidableEq, Repr

structure StatusReply where
  statuses : List DepositStatus
deriving DecidableEq, Repr

def Coin.toDatum (c : Coin) : Datum :=
  .text c.code

def DepositStatus.toDatum (s : DepositStatus) : Datum :=
  .table [("seq", .int s.seq), ("updated_at", .int s.updatedAt), ("status", .text s.status)]

def BindRequest.toDatum (r : BindRequest) : Datum :=
  .table [("skyaddr", .text r.skyAddr), ("coin_type", .text r.coinCode)]

def BindReply.toDatum (r : BindReply) : Datum :=
  .table [("deposit_address", .text r.depositAddress), ("coin_type", r.coin.toDatum)]

def StatusReply.toDatum (r : StatusReply) : Datum :=
  .table [("statuses", .list (r.statuses.map DepositStatus.toDatum))]

end DepositGate
