/-!
# Socket addresses

An address of the Internet protocol, in version 4 or 6, and a port. Addresses of version 6 are read in
every usual form and written in the canonical one: lower-case digits without leading zeros, the longest
run of at least two zero groups left out, and a mapped address of version 4 with its own digits.
-/

namespace DepositGate.Net

/-- An address of the Internet protocol: four bytes, or eight groups of sixteen bits. -/
inductive IpAddr where
  | v4 (bytes : List Nat)
  | v6 (groups : List Nat)
deriving DecidableEq, Repr

structure SocketAddr where
  ip : IpAddr
  /-- The scope of an address of version 6, zero for none. -/
  scope : Nat
  port : Nat
deriving DecidableEq, Repr

/-! ## Writing -/

def joined (separator : List Char) : List (List Char) → List Char
  | [] => []
  | [part] => part
  | part :: parts => part ++ separator ++ joined separator parts

def v4Chars (bytes : List Nat) : List Char :=
  joined ['.'] (bytes.map (Nat.toDigits 10))

def zeroRun (groups : List Nat) : Nat :=
  (groups.takeWhile (· == 0)).length

def longestZeroRun (groups : List Nat) : Nat × Nat :=
  (List.range groups.length).foldl
    (fun best start ↦
      let run := zeroRun (groups.drop start)
      if best.2 < run then (start, run) else best)
    (0, 0)

def v6Chars (groups : List Nat) : List Char :=
  let hex (groups : List Nat) : List Char := joined [':'] (groups.map (Nat.toDigits 16))
  match groups with
  | [0, 0, 0, 0, 0, 0xFFFF, high, low] =>
    "::ffff:".toList ++ v4Chars [high / 256, high % 256, low / 256, low % 256]
  | _ =>
    let (start, run) := longestZeroRun groups
    if 1 < run then hex (groups.take start) ++ [':', ':'] ++ hex (groups.drop (start + run))
    else hex groups

def IpAddr.toText : IpAddr → String
  | v4 bytes => String.ofList (v4Chars bytes)
  | v6 groups => String.ofList (v6Chars groups)

def SocketAddr.toText (a : SocketAddr) : String :=
  match a.ip with
  | .v4 _ => a.ip.toText ++ s!":{a.port}"
  | .v6 _ =>
    let scope := if a.scope = 0 then "" else s!"%{a.scope}"
    "[" ++ a.ip.toText ++ scope ++ s!"]:{a.port}"

/-! ## Reading -/

def digitValue? (base : Nat) (c : Char) : Option Nat :=
  let value? :=
    if '0' ≤ c ∧ c ≤ '9' then some (c.toNat - 48)
    else if 'a' ≤ c ∧ c ≤ 'f' then some (c.toNat - 87)
    else if 'A' ≤ c ∧ c ≤ 'F' then some (c.toNat - 55)
    else none
  value?.filter (· < base)

def readNumber? (base greatest : Nat) (cs : List Char) : Option (Nat × List Char) :=
  let digits := cs.takeWhile fun c ↦ (digitValue? base c).isSome
  let n := digits.foldl (fun n c ↦ n * base + (digitValue? base c).getD 0) 0
  if digits.isEmpty ∨ greatest < n then none else some (n, cs.drop digits.length)

def readChar? (c : Char) : List Char → Option (List Char)
  | d :: rest => if d = c then some rest else none
  | [] => none

/-- A byte of an address of version 4: at most three digits, and no zero before another one. -/
def readByte? (cs : List Char) : Option (Nat × List Char) :=
  match readNumber? 10 255 cs with
  | some (n, rest) =>
    let width := cs.length - rest.length
    if 3 < width ∨ (1 < width ∧ cs.head? = some '0') then none else some (n, rest)
  | none => none

def readV4? (cs : List Char) : Option (List Nat × List Char) := do
  let (a, rest) ← readByte? cs
  let (b, rest) ← readByte? (← readChar? '.' rest)
  let (c, rest) ← readByte? (← readChar? '.' rest)
  let (d, rest) ← readByte? (← readChar? '.' rest)
  pure ([a, b, c, d], rest)

/-- A group of an address of version 6: at most four digits. -/
def readGroup? (cs : List Char) : Option (Nat × List Char) :=
  match readNumber? 16 0xFFFF cs with
  | some (n, rest) => if 4 < cs.length - rest.length then none else some (n, rest)
  | none => none

/-- Up to `room` groups with colons between them, the last two of which may be written as an address of
version 4. `inside` says that a colon comes first. The result also says whether they were. -/
def readGroups (room : Nat) (inside : Bool) (cs : List Char) : List Nat × Bool × List Char :=
  let start? := if inside then readChar? ':' cs else some cs
  match room, start? with
  | room + 1, some start =>
    match if 0 < room then readV4? start else none with
    | some ([a, b, c, d], rest) => ([a * 256 + b, c * 256 + d], true, rest)
    | _ =>
      match readGroup? start with
      | some (group, rest) =>
        let (groups, mapped, rest) := readGroups room true rest
        (group :: groups, mapped, rest)
      | none => ([], false, cs)
  | _, _ => ([], false, cs)

/-- The groups of an address of version 6. Two colons stand for one group of zeros at least. -/
def readV6? (cs : List Char) : Option (List Nat × List Char) := do
  let (head, mapped, rest) := readGroups 8 false cs
  if head.length = 8 then return (head, rest)
  if mapped then none
  let rest ← readChar? ':' rest
  let rest ← readChar? ':' rest
  let (tail, _, rest) := readGroups (7 - head.length) false rest
  pure (head ++ List.replicate (8 - head.length - tail.length) 0 ++ tail, rest)

def readPort? (cs : List Char) : Option Nat := do
  let (port, rest) ← readNumber? 10 0xFFFF (← readChar? ':' cs)
  if rest.isEmpty then some port else none

/-- Reads an address with a port. An address of version 6 stands in brackets and may have a scope. -/
def SocketAddr.read? (s : String) : Option SocketAddr :=
  match s.toList with
  | '[' :: rest => do
    let (groups, rest) ← readV6? rest
    let (scope, rest) ←
      match rest with
      | '%' :: rest => readNumber? 10 0xFFFFFFFF rest
      | _ => some (0, rest)
    let port ← readPort? (← readChar? ']' rest)
    pure ⟨.v6 groups, scope, port⟩
  | cs => do
    let (bytes, rest) ← readV4? cs
    let port ← readPort? rest
    pure ⟨.v4 bytes, 0, port⟩

end DepositGate.Net
