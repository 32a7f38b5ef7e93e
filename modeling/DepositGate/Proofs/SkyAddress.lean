import Mathlib.Data.Set.Function
import DepositGate.SkyAddress
import DepositGate.Proofs.Base58

/-!
# Sky addresses and their keys

The texts that are accepted as sky addresses are the addresses of keys and no others, and no key has two
of them: `validate_eq_ok_iff_exists_key`. A client cannot have a second deposit address for its key by
another spelling of its sky address. What is wrong with a text that is not accepted follows from the bytes
for which it stands, if there are any: `faults_by_payload`.
-/

namespace DepositGate.SkyAddress

variable {bytes key : List UInt8} {address : String}

def payload (key : List UInt8) : List UInt8 :=
  key ++ [version] ++ checksum (key ++ [version])

theorem length_checksum (bytes : List UInt8) : (checksum bytes).length = checksumLength := by
  rw [checksum, List.length_take, Digest.Sha256.length_hash]
  rfl

theorem ofKey_eq_encode_payload (key : List UInt8) : ofKey key = Base58.encode (payload key) := rfl

theorem take_payload (hkey : key.length = keyLength) : (payload key).take keyLength = key := by
  rw [payload, List.append_assoc, ← hkey]
  exact List.take_left

/-! ## Checks -/

theorem checkPayload_eq_ok_iff :
    checkPayload bytes = .ok () ↔ bytes.length = payloadLength ∧ bytes[keyLength]? = some version ∧
      checksum (bytes.take (keyLength + 1)) = bytes.drop (keyLength + 1) := by
  unfold checkPayload
  by_cases hlength : bytes.length = payloadLength
  · have hlt : keyLength < bytes.length := by
      rw [hlength]
      decide
    rw [if_neg (not_not.mpr hlength), List.getElem?_eq_getElem hlt, List.getD_eq_getElem bytes 0 hlt]
    by_cases hversion : bytes[keyLength] = version
    · by_cases hsum : checksum (bytes.take (keyLength + 1)) = bytes.drop (keyLength + 1) <;>
        simp [hlength, hversion, hsum]
    · simp [hversion]
  · simp [hlength]

/-- The bytes that pass are those of keys: the checksum leaves nothing to choose behind the key. -/
theorem checkPayload_eq_ok_iff_exists_key :
    checkPayload bytes = .ok () ↔ ∃ key, key.length = keyLength ∧ payload key = bytes := by
  rw [checkPayload_eq_ok_iff]
  constructor
  · rintro ⟨hlength, hversion, hsum⟩
    have hbody : bytes.take keyLength ++ [version] = bytes.take (keyLength + 1) := by
      rw [List.take_add_one, hversion]
      rfl
    refine ⟨bytes.take keyLength, ?_, ?_⟩
    · rw [List.length_take, hlength]
      rfl
    · rw [payload, hbody, hsum, List.take_append_drop]
  · rintro ⟨key, hkey, rfl⟩
    have hbody : (key ++ [version]).length = keyLength + 1 := by
      rw [List.length_append, hkey]
      rfl
    refine ⟨?_, ?_, ?_⟩
    · rw [payload, List.length_append, hbody, length_checksum]
      rfl
    · rw [payload, List.append_assoc, List.getElem?_append_right hkey.le, hkey, Nat.sub_self]
      rfl
    · rw [payload, ← hbody, List.take_left, List.drop_left]

theorem validate_eq_ok_iff_decode :
    validate address = .ok () ↔
      ∃ bytes, Base58.decode? address = some bytes ∧ checkPayload bytes = .ok () := by
  unfold validate
  cases hdecode : Base58.decode? address with
  | none => simp
  | some bytes => simp

/-! ## Keys -/

def keyOf (address : String) : List UInt8 :=
  ((Base58.decode? address).getD []).take keyLength

theorem keyOf_ofKey (hkey : key.length = keyLength) : keyOf (ofKey key) = key := by
  rw [keyOf, ofKey_eq_encode_payload, Base58.decode?_encode, Option.getD_some, take_payload hkey]

theorem validate_eq_ok_iff :
    validate address = .ok () ↔ ∃ key, key.length = keyLength ∧ address = ofKey key := by
  rw [validate_eq_ok_iff_decode]
  constructor
  · rintro ⟨bytes, hdecode, hcheck⟩
    obtain ⟨key, hkey, rfl⟩ := checkPayload_eq_ok_iff_exists_key.mp hcheck
    exact ⟨key, hkey, (Base58.decode?_eq_some_iff.mp hdecode).symm⟩
  · rintro ⟨key, hkey, rfl⟩
    exact ⟨payload key, Base58.decode?_encode _, checkPayload_eq_ok_iff_exists_key.mpr ⟨key, hkey, rfl⟩⟩

/-- A text is accepted exactly if it is the address of a key. No two keys have the same address, and no
two texts that are accepted stand for the same key. -/
theorem validate_eq_ok_iff_exists_key :
    (∀ address, validate address = .ok () ↔ ∃ key, key.length = keyLength ∧ address = ofKey key) ∧
      Set.InjOn ofKey {key | key.length = keyLength} ∧
      Set.InjOn keyOf {address | validate address = .ok ()} := by
  refine ⟨fun address ↦ validate_eq_ok_iff, ?_, ?_⟩
  · intro key hkey other hother heq
    rw [← keyOf_ofKey hkey, heq, keyOf_ofKey hother]
  · intro address haddress other hother heq
    obtain ⟨key, hkey, rfl⟩ := validate_eq_ok_iff.mp haddress
    obtain ⟨key', hkey', rfl⟩ := validate_eq_ok_iff.mp hother
    rw [keyOf_ofKey hkey, keyOf_ofKey hkey'] at heq
    rw [heq]

/-! ## Faults -/

theorem checkPayload_of_length_ne (h : bytes.length ≠ 25) :
    checkPayload bytes = .error (.length bytes.length) :=
  if_pos h

theorem checkPayload_of_length_eq (h : bytes.length = 25) :
    checkPayload bytes =
      if bytes[20] ≠ 0 then .error (.version bytes[20])
      else if (Digest.Sha256.hash (bytes.take 21)).take 4 ≠ bytes.drop 21 then .error .checksum
      else .ok () := by
  have hversion : bytes[20] = bytes.getD 20 0 := (List.getD_eq_getElem bytes 0 (by omega)).symm
  rw [hversion]
  exact if_neg (not_not.mpr h)

theorem validate_encode (bytes : List UInt8) :
    validate (Base58.encode bytes) = checkPayload bytes := by
  rw [validate, Base58.decode?_encode]

theorem checkPayload_ne_encoding (bytes : List UInt8) : checkPayload bytes ≠ .error .encoding := by
  intro hfault
  by_cases hlength : bytes.length = 25
  · rw [checkPayload_of_length_eq hlength] at hfault
    split_ifs at hfault <;> cases hfault
  · rw [checkPayload_of_length_ne hlength] at hfault
    cases hfault

theorem validate_eq_encoding_iff :
    validate address = .error .encoding ↔ ∃ c ∈ address.toList, c ∉ Base58.alphabet := by
  rw [← Base58.decode?_eq_none_iff, validate]
  cases Base58.decode? address with
  | none => simp
  | some bytes => simpa using checkPayload_ne_encoding bytes

/-- The text of any bytes is told what is wrong with them, in this order: their number, the version byte
behind the key, the checksum behind that. No other fault can come of a text that stands for bytes, and a text
stands for none exactly if a character of it is no digit. -/
theorem faults_by_payload :
    (∀ bytes : List UInt8,
      (validate (Base58.encode bytes) =
        if h : bytes.length = 25 then
          if bytes[20] ≠ 0 then .error (.version bytes[20])
          else if (Digest.Sha256.hash (bytes.take 21)).take 4 ≠ bytes.drop 21 then .error .checksum
          else .ok ()
        else .error (.length bytes.length)) ∧
      validate (Base58.encode bytes) ≠ .error .encoding) ∧
    ∀ address, validate address = .error .encoding ↔ ∃ c ∈ address.toList, c ∉ Base58.alphabet := by
  refine ⟨fun bytes ↦ ?_, fun address ↦ validate_eq_encoding_iff⟩
  rw [validate_encode]
  refine ⟨?_, checkPayload_ne_encoding bytes⟩
  by_cases hlength : bytes.length = 25
  · rw [dif_pos hlength]
    exact checkPayload_of_length_eq hlength
  · rw [dif_neg hlength]
    exact checkPayload_of_length_ne hlength

/-- Leading zeros count, and the number of bytes is looked at first. -/
example : validate (Base58.encode [0, 0, 9]) = .error (.length 3) := by
  decide +kernel

end DepositGate.SkyAddress
