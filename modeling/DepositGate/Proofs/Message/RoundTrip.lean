import DepositGate.Message.Reader
import DepositGate.Proofs.Json.Data

/-!
# Answers that are read back

The answers to clients are read back from their JSON texts: a deposit address of any characters, and lists of
deposit statuses of any length, in their order and with numbers up to the greatest of 64 bits.
-/

namespace DepositGate

open Json (Reads Opens encode encodeText)

/-! ## Coins and deposit addresses -/

theorem reads_coin (c : Coin) : Reads Coin.readJson (encode c.toDatum) c := by
  intro rest hrest
  cases c
  have hname : Json.readVariantName (Coin.code .btc) (encodeText (Coin.code .btc) ++ rest) = .ok ((), rest) := by
    rw [Json.readVariantName, Json.readTextAs_encodeText]
    rfl
  have hvariant : Json.readVariant (Coin.code .btc) (encodeText (Coin.code .btc) ++ rest) = .ok ((), rest) := by
    rw [← hname]
    rfl
  rw [Coin.readJson, Coin.toDatum, encode, hvariant]
  rfl

theorem BindReply.reads (r : BindReply) :
    Reads (Json.readRecord BindReply.reader) (encode r.toDatum) r := by
  have haddress : Reads (BindReply.reader.member (none, none) "deposit_address")
      (0x3A :: encode (.text r.depositAddress)) (some r.depositAddress, none) :=
    (Json.readField_none "deposit_address" (Json.reads_encodeText r.depositAddress)).map (some ·, none)
  have hcoin : Reads (BindReply.reader.member (some r.depositAddress, none) "coin_type")
      (0x3A :: encode r.coin.toDatum) (some r.depositAddress, some r.coin) :=
    (Json.readField_none "coin_type" (reads_coin r.coin)).map (some r.depositAddress, some ·)
  rw [BindReply.toDatum, Json.encode_table]
  exact Json.reads_record (.cons haddress (.cons hcoin (.nil _))) rfl

theorem BindReply.ofJson_encode (r : BindReply) : BindReply.ofJson (encode r.toDatum) = .ok r :=
  Json.readAll_of_reads r.reads

/-! ## Deposit statuses -/

/-- A status whose numbers have 64 bits: the first without a sign, the second with one. -/
structure DepositStatus.Fits (s : DepositStatus) : Prop where
  seq_le : s.seq ≤ 0xffffffffffffffff
  le_updatedAt : -0x8000000000000000 ≤ s.updatedAt
  updatedAt_le : s.updatedAt ≤ 0x7fffffffffffffff

theorem DepositStatus.reads {s : DepositStatus} (hs : s.Fits) :
    Reads (Json.readRecord DepositStatus.reader) (encode s.toDatum) s := by
  have hseq : Reads (DepositStatus.reader.member (none, none, none) "seq")
      (0x3A :: encode (.int s.seq)) (some s.seq, none, none) :=
    (Json.readField_none "seq" fun _ hrest ↦ Json.readNat64_toString hs.seq_le hrest).map (some ·, none, none)
  have hupdatedAt : Reads (DepositStatus.reader.member (some s.seq, none, none) "updated_at")
      (0x3A :: encode (.int s.updatedAt)) (some s.seq, some s.updatedAt, none) :=
    (Json.readField_none "updated_at" fun _ hrest ↦
      Json.readInt64_toString hs.le_updatedAt hs.updatedAt_le hrest).map (some s.seq, some ·, none)
  have hstatus : Reads (DepositStatus.reader.member (some s.seq, some s.updatedAt, none) "status")
      (0x3A :: encode (.text s.status)) (some s.seq, some s.updatedAt, some s.status) :=
    (Json.readField_none "status" (Json.reads_encodeText s.status)).map (some s.seq, some s.updatedAt, some ·)
  rw [DepositStatus.toDatum, Json.encode_table]
  exact Json.reads_record (.cons hseq (.cons hupdatedAt (.cons hstatus (.nil _)))) rfl

theorem opens_encode_toDatum (s : DepositStatus) : Opens (encode s.toDatum) := by
  rw [DepositStatus.toDatum, Json.encode_table]
  exact ⟨0x7B, _, rfl, by decide, by decide⟩

/-- Statuses are read back in their order, however many there are. -/
theorem reads_statuses {statuses : List DepositStatus} (hfits : ∀ s ∈ statuses, s.Fits) :
    Reads (Json.readList (Json.readRecord DepositStatus.reader))
      (encode (.list (statuses.map DepositStatus.toDatum))) statuses := by
  rw [Json.encode_list, List.map_map]
  apply Json.reads_list
  · intro text htext
    obtain ⟨s, -, rfl⟩ := List.mem_map.mp htext
    exact opens_encode_toDatum s
  · induction statuses with
    | nil => exact .nil
    | cons s statuses ih =>
        obtain ⟨hs, hrest⟩ := List.forall_mem_cons.mp hfits
        exact .cons (DepositStatus.reads hs) (ih hrest)

theorem StatusReply.reads {r : StatusReply} (hfits : ∀ s ∈ r.statuses, s.Fits) :
    Reads (Json.readRecord StatusReply.reader) (encode r.toDatum) r := by
  have hstatuses : Reads (StatusReply.reader.member none "statuses")
      (0x3A :: encode (.list (r.statuses.map DepositStatus.toDatum))) (some r.statuses) :=
    (Json.readField_none "statuses" (reads_statuses hfits)).map some
  rw [StatusReply.toDatum, Json.encode_table]
  exact Json.reads_record (.cons hstatuses (.nil _)) rfl

theorem StatusReply.ofJson_encode {r : StatusReply} (hfits : ∀ s ∈ r.statuses, s.Fits) :
    StatusReply.ofJson (encode r.toDatum) = .ok r :=
  Json.readAll_of_reads (StatusReply.reads hfits)

end DepositGate
