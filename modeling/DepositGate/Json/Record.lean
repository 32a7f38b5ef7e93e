import DepositGate.Json.Reader

/-!
# Reading records from JSON

Readers for texts and numbers of a given type, and for lists and records. A record is read from an
object, whose unknown members are passed over, or from an array of its fields in order. A mismatch is
placed behind the value; one of a whole record is placed behind an attempt to close it.
-/

namespace DepositGate.Json

/-- The fault of a value of another type than the expected one; `bytes` starts at the value. Lists and
objects are not read. -/
def wrongType (expected : String) (bytes : List UInt8) : Fault :=
  let typed (found : Record.Found) (rest : List UInt8) : Fault :=
    .before rest (.mismatch (.type found expected))
  let word (tail : String) (found : Record.Found) (rest : List UInt8) : Fault :=
    match readWord (Text.utf8 tail) rest with
    | .ok rest => typed found rest
    | .error f => f
  match bytes with
  | [] => .next [] .expectedValue
  | b :: rest =>
    if b == 0x6E then word "ull" .null rest
    else if b == 0x74 then word "rue" (.bool true) rest
    else if b == 0x66 then word "alse" (.bool false) rest
    else if b == 0x2D || isDigit b then
      match readNumeral bytes with
      | .ok (.int n, rest) => typed (.int n) rest
      | .ok (.float x, rest) => typed (.float x) rest
      | .error f => f
    else if b == 0x22 then
      match readString rest with
      | .ok (s, rest) => typed (.text s) rest
      | .error f => f
    else if b == 0x5B then typed .list bytes
    else if b == 0x7B then typed .table bytes
    else .next bytes .expectedValue

def readTextAs (expected : String) : Reader String := fun bytes ↦
  match skipBlanks bytes with
  | [] => .error (.next [] .endInValue)
  | 0x22 :: rest => readString rest
  | bytes => .error (wrongType expected bytes)

def readText : Reader String :=
  readTextAs "a string"

def readInteger (expected : String) (least greatest : Int) : Reader Int := fun bytes ↦
  match skipBlanks bytes with
  | [] => .error (.next [] .endInValue)
  | b :: rest =>
    if b == 0x2D || isDigit b then
      match readNumeral (b :: rest) with
      | .error f => .error f
      | .ok (.float x, rest) => .error (.before rest (.mismatch (.type (.float x) expected)))
      | .ok (.int n, rest) =>
        if least ≤ n ∧ n ≤ greatest then .ok (n, rest)
        else .error (.before rest (.mismatch (.value (.int n) expected)))
    else .error (wrongType expected (b :: rest))

def readNat64 : Reader Nat := fun bytes ↦
  (readInteger "u64" 0 0xffffffffffffffff bytes).map fun (n, rest) ↦ (n.toNat, rest)

def readInt64 : Reader Int :=
  readInteger "i64" (-0x8000000000000000) 0x7fffffffffffffff

def readUnit : Reader Unit := fun bytes ↦
  match skipBlanks bytes with
  | [] => .error (.next [] .endInValue)
  | 0x6E :: rest => (readWord (Text.utf8 "ull") rest).map fun rest ↦ ((), rest)
  | bytes => .error (wrongType "unit" bytes)

def readColon (bytes : List UInt8) : Except Fault (List UInt8) :=
  match skipBlanks bytes with
  | [] => .error (.next [] .endInObject)
  | 0x3A :: rest => .ok rest
  | bytes => .error (.next bytes .expectedColon)

/-! ## Lists -/

/-- The bytes at which the next element of an array starts, none if the array ends first. -/
def nextElement (first : Bool) (bytes : List UInt8) : Except Fault (Option (List UInt8)) :=
  match skipBlanks bytes with
  | [] => .error (.next [] .endInArray)
  | b :: rest =>
    if b == 0x5D then .ok none
    else if first then .ok (some (b :: rest))
    else if b == 0x2C then
      match skipBlanks rest with
      | [] => .error (.next [] .endInValue)
      | c :: more =>
        if c == 0x5D then .error (.next (c :: more) .trailingComma) else .ok (some (c :: more))
    else .error (.next (b :: rest) .expectedCommaOrBracket)

def readElement {α : Type} (item : Reader α) (first : Bool) : Reader (Option α) := fun bytes ↦ do
  match ← nextElement first bytes with
  | none => .ok (none, bytes)
  | some start =>
    let (a, rest) ← item start
    .ok (some a, rest)

/-- Reads elements up to the end of an array, behind those in `seen` (latest first). Every turn takes
a byte at least. -/
def readElements {α : Type} (item : Reader α) : (fuel : Nat) → (seen : List α) → Reader (List α)
  | 0, _, _ => .error (.next [] .endInArray)
  | fuel + 1, seen, bytes =>
    match readElement item seen.isEmpty bytes with
    | .error f => .error f
    | .ok (none, rest) => .ok (seen.reverse, rest)
    | .ok (some a, rest) => readElements item fuel (a :: seen) rest

def closeArray (bytes : List UInt8) : Except Fault (List UInt8) :=
  match skipBlanks bytes with
  | [] => .error (.next [] .endInArray)
  | 0x5D :: rest => .ok rest
  | 0x2C :: rest =>
    match skipBlanks rest with
    | 0x5D :: more => .error (.next (0x5D :: more) .trailingComma)
    | more => .error (.next more .trailingCharacters)
  | bytes => .error (.next bytes .trailingCharacters)

def afterArray (bytes : List UInt8) : List UInt8 :=
  match skipBlanks bytes with
  | 0x5D :: rest => rest
  | 0x2C :: rest => skipBlanks rest
  | bytes => bytes

def readList {α : Type} (item : Reader α) : Reader (List α) := fun bytes ↦ do
  match skipBlanks bytes with
  | [] => .error (.next [] .endInValue)
  | 0x5B :: rest =>
    let (items, rest) ← readElements item (rest.length + 1) [] rest
    let rest ← closeArray rest
    .ok (items, rest)
  | bytes => .error (wrongType "a sequence" bytes)

/-! ## Objects -/

/-- The bytes at which the next member of an object starts, behind the opening quote of its name, none
if the object ends first. -/
def nextMember (first : Bool) (bytes : List UInt8) : Except Fault (Option (List UInt8)) :=
  let named (bytes : List UInt8) : Except Fault (Option (List UInt8)) :=
    match bytes with
    | [] => .error (.next [] .endInValue)
    | 0x22 :: rest => .ok (some rest)
    | 0x7D :: rest => .error (.next (0x7D :: rest) .trailingComma)
    | bytes => .error (.next bytes .keyNotString)
  match skipBlanks bytes with
  | [] => .error (.next [] .endInObject)
  | b :: rest =>
    if b == 0x7D then .ok none
    else if first then named (b :: rest)
    else if b == 0x2C then named (skipBlanks rest)
    else .error (.next (b :: rest) .expectedCommaOrBrace)

/-- Reads members up to the end of an object. `member` reads what follows a name into the record so
far. Every turn takes a byte at least. -/
def readMembers {σ : Type} (member : σ → String → Reader σ) : (fuel : Nat) → (first : Bool) → σ →
    Reader σ
  | 0, _, _, _ => .error (.next [] .endInObject)
  | fuel + 1, first, record, bytes =>
    match nextMember first bytes with
    | .error f => .error f
    | .ok none => .ok (record, bytes)
    | .ok (some name) =>
      match readString name with
      | .error f => .error f
      | .ok (name, rest) =>
        match member record name rest with
        | .error f => .error f
        | .ok (record, rest) => readMembers member fuel false record rest

def closeObject (bytes : List UInt8) : Except Fault (List UInt8) :=
  match skipBlanks bytes with
  | [] => .error (.next [] .endInObject)
  | 0x7D :: rest => .ok rest
  | 0x2C :: rest => .error (.next (0x2C :: rest) .trailingComma)
  | bytes => .error (.next bytes .trailingCharacters)

def afterObject (bytes : List UInt8) : List UInt8 :=
  match skipBlanks bytes with
  | 0x7D :: rest => rest
  | bytes => bytes

def readField {α : Type} (name : String) (present : Option α) (value : Reader α) : Reader α :=
  fun bytes ↦
    if present.isSome then .error (.before (afterObject bytes) (.mismatch (.repeated name)))
    else do
      let rest ← readColon bytes
      value rest

def skipMember {σ : Type} (record : σ) : Reader σ := fun bytes ↦ do
  let rest ← readColon bytes
  let rest ← skipValue rest
  .ok (record, rest)

/-! ## Records -/

structure RecordReader (σ α : Type) where
  name : String
  empty : σ
  member : σ → String → Reader σ
  finish : σ → Except String α
  /-- Reads the fields of the array form; a missing required field is given by its number. -/
  elements : List UInt8 → Except Fault (Except Nat α × List UInt8)
  fields : Nat

def readRecord {σ α : Type} (r : RecordReader σ α) : Reader α := fun bytes ↦ do
  match skipBlanks bytes with
  | [] => .error (.next [] .endInValue)
  | 0x7B :: rest =>
    let (record, rest) ← readMembers r.member (rest.length + 1) true r.empty rest
    match r.finish record with
    | .error field => .error (.before (afterObject rest) (.mismatch (.missing field)))
    | .ok a =>
      let rest ← closeObject rest
      .ok (a, rest)
  | 0x5B :: rest =>
    let (record, rest) ← r.elements rest
    match record with
    | .error n =>
      .error (.before (afterArray rest)
        (.mismatch (.length n (Record.lengthExpectation r.name r.fields))))
    | .ok a =>
      let rest ← closeArray rest
      .ok (a, rest)
  | bytes => .error (wrongType (Record.recordExpectation r.name) bytes)

def readVariantName (known : String) : Reader Unit := fun bytes ↦ do
  let (name, rest) ← readTextAs "variant identifier" bytes
  if name = known then .ok ((), rest)
  else .error (.before rest (.mismatch (.unknown name known)))

/-- Reads a name of a known set of a single name: the name itself, or an object with the name for its
only member and nothing for its value. -/
def readVariant (known : String) : Reader Unit := fun bytes ↦ do
  match skipBlanks bytes with
  | [] => .error (.next [] .endInValue)
  | 0x22 :: rest => readVariantName known (0x22 :: rest)
  | 0x7B :: rest =>
    let ((), rest) ← readVariantName known rest
    let rest ← readColon rest
    let ((), rest) ← readUnit rest
    match skipBlanks rest with
    | 0x7D :: rest => .ok ((), rest)
    | [] => .error (.before [] .endInObject)
    | rest => .error (.before rest .expectedValue)
  | bytes => .error (.next bytes .expectedValue)

def readAll {α : Type} (reader : Reader α) (bytes : List UInt8) : Except Fault α := do
  let (a, rest) ← reader bytes
  match skipBlanks rest with
  | [] => .ok a
  | rest => .error (.next rest .trailingCharacters)

end DepositGate.Json
