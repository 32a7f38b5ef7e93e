import DepositGate.Text.Quoted

/-!
# Coins

The coins for which deposit addresses are handed out.
-/

namespace DepositGate

inductive Coin where
  | btc
deriving DecidableEq, Repr

namespace Coin

def code : Coin → String
  | btc => "BTC"

def ofCode? (s : String) : Option Coin :=
  if s = code btc then some btc else none

theorem ofCode?_eq_some_iff {s : String} {c : Coin} : ofCode? s = some c ↔ s = code c := by
  cases c
  simp [ofCode?]

def unsupportedMessage (s : String) : String :=
  "unsupported coin type " ++ Text.quoted s

end Coin

end DepositGate
