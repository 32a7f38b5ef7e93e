import DepositGate.Number.Decimal
import DepositGate.Record.Datum
import DepositGate.Text.Hex
import DepositGate.Time.Instant

/-!
# TOML keys and values

Readers for the keys and values of TOML texts, over characters. A reader returns what is left, and none
where the text does not fit. A table inside braces must not give a key twice.
-/

namespace DepositGate.Toml

abbrev Reader (α : Type) := List Char → Option (α × List Char)

/-! ## Blanks and comments -/

def isBlank (c : Char) : Bool :=
  c == ' ' || c == '\t'

def skipBlanks (cs : List Char) : List Char :=
  cs.dropWhile isBlank

/-- Whether a character may stand in a comment or a text of one line. -/
def isPrintable (c : Char) : Bool :=
  c == '\t' || (0x20 ≤ c.toNat && c.toNat != 0x7F)

def newline? : List Char → Option (List Char)
  | '\n' :: rest => some rest
  | '\r' :: '\n' :: rest => some rest
  | _ => none

def skipComment : List Char → List Char
  | '#' :: rest => rest.dropWhile isPrintable
  | cs => cs

def lineEnd? (cs : List Char) : Option (List Char) :=
  match skipComment (skipBlanks cs) with
  | [] => some []
  | rest => newline? rest

def skipLines : (fuel : Nat) → List Char → List Char
  | 0, cs => cs
  | fuel + 1, cs =>
    let rest := skipComment (skipBlanks cs)
    match newline? rest with
    | some next => skipLines fuel next
    | none => rest

def word? : (word : List Char) → List Char → Option (List Char)
  | [], rest => some rest
  | _ :: _, [] => none
  | w :: word, c :: rest => if w = c then word? word rest else none

/-! ## Texts -/

def codePoint? (width : Nat) (cs : List Char) : Option (Char × List Char) := do
  let digits := cs.take width
  let values ← digits.mapM Text.hexValue?
  let n := values.foldl (fun n v ↦ 16 * n + v) 0
  if values.length = width ∧ n.isValidChar then some (Char.ofNat n, cs.drop width) else none

def escape? : Reader Char
  | 'b' :: rest => some ('\x08', rest)
  | 't' :: rest => some ('\t', rest)
  | 'n' :: rest => some ('\n', rest)
  | 'f' :: rest => some ('\x0c', rest)
  | 'r' :: rest => some ('\r', rest)
  | '"' :: rest => some ('"', rest)
  | '\\' :: rest => some ('\\', rest)
  | 'u' :: rest => codePoint? 4 rest
  | 'U' :: rest => codePoint? 8 rest
  | _ => none

def basicText? : (fuel : Nat) → (seen : List Char) → Reader String
  | 0, _, _ => none
  | fuel + 1, seen, cs =>
    match cs with
    | [] => none
    | '"' :: rest => some (String.ofList seen.reverse, rest)
    | '\\' :: rest =>
      match escape? rest with
      | some (c, rest) => basicText? fuel (c :: seen) rest
      | none => none
    | c :: rest => if isPrintable c then basicText? fuel (c :: seen) rest else none

def literalText? (cs : List Char) : Option (String × List Char) :=
  let body := cs.takeWhile fun c ↦ c != '\'' && isPrintable c
  match cs.drop body.length with
  | '\'' :: rest => some (String.ofList body, rest)
  | _ => none

/-- The characters behind an escaped line end: blanks up to the end of the line, and all blanks and line
ends after it. -/
def escapedLineEnd? (fuel : Nat) (cs : List Char) : Option (List Char) :=
  let rec skip : (fuel : Nat) → List Char → List Char
    | 0, cs => cs
    | fuel + 1, cs =>
      let rest := skipBlanks cs
      match newline? rest with
      | some next => skip fuel next
      | none => rest
  (newline? (skipBlanks cs)).map (skip fuel)

/-- The number of quotes at the front of a text, five at most: two may belong to the text. -/
def quoteRun (quote : Char) (cs : List Char) : Nat :=
  ((cs.take 5).takeWhile (· == quote)).length

def multilineText? (quote : Char) : (fuel : Nat) → (seen : List Char) → Reader String
  | 0, _, _ => none
  | fuel + 1, seen, cs =>
    let run := quoteRun quote cs
    if 3 ≤ run then
      some (String.ofList (List.replicate (run - 3) quote ++ seen).reverse, cs.drop run)
    else
      match newline? cs with
      | some rest => multilineText? quote fuel ('\n' :: seen) rest
      | none =>
        match cs with
        | [] => none
        | c :: rest =>
          if c = '\\' ∧ quote = '"' then
            match escapedLineEnd? fuel rest with
            | some rest => multilineText? quote fuel seen rest
            | none =>
              match escape? rest with
              | some (e, rest) => multilineText? quote fuel (e :: seen) rest
              | none => none
          else if isPrintable c then multilineText? quote fuel (c :: seen) rest
          else none

/-- A text of any of the four kinds. A line end right behind three opening quotes is not part of it. -/
def text? (cs : List Char) : Option (String × List Char) :=
  let multiline (quote : Char) (rest : List Char) : Option (String × List Char) :=
    multilineText? quote (rest.length + 1) [] ((newline? rest).getD rest)
  match cs with
  | '"' :: '"' :: '"' :: rest => multiline '"' rest
  | '\'' :: '\'' :: '\'' :: rest => multiline '\'' rest
  | '"' :: rest => basicText? (rest.length + 1) [] rest
  | '\'' :: rest => literalText? rest
  | _ => none

/-! ## Keys -/

def isBareKeyChar (c : Char) : Bool :=
  ('a' ≤ c && c ≤ 'z') || ('A' ≤ c && c ≤ 'Z') || ('0' ≤ c && c ≤ '9') || c == '_' || c == '-'

def keyPart? (cs : List Char) : Option (String × List Char) :=
  match cs with
  | '"' :: rest => basicText? (rest.length + 1) [] rest
  | '\'' :: rest => literalText? rest
  | _ =>
    let bare := cs.takeWhile isBareKeyChar
    if bare.isEmpty then none else some (String.ofList bare, cs.drop bare.length)

def keyParts? : (fuel : Nat) → Reader (List String)
  | 0, _ => none
  | fuel + 1, cs => do
    let (part, rest) ← keyPart? (skipBlanks cs)
    match skipBlanks rest with
    | '.' :: rest =>
      let (parts, rest) ← keyParts? fuel rest
      pure (part :: parts, rest)
    | rest => pure ([part], rest)

/-- Keys have fewer parts, and arrays and tables lie less deep inside one another. -/
def maxDepth : Nat := 80

def key? : Reader (List String) :=
  keyParts? (maxDepth - 1)

/-! ## Numbers and dates -/

def isDigit (c : Char) : Bool :=
  '0' ≤ c && c ≤ '9'

/-- Digits in a base of at most sixteen, of which single underscores may stand between two. -/
def digits? (base : Nat) (cs : List Char) : Option (List Nat × List Char) :=
  let value? (c : Char) : Option Nat := (Text.hexValue? c).filter (· < base)
  let run := cs.takeWhile fun c ↦ c == '_' || (value? c).isSome
  let well : Bool :=
    !run.isEmpty && run.head? != some '_' && run.getLast? != some '_' &&
      !(run.zip (run.drop 1)).contains ('_', '_')
  if well then some (run.filterMap value?, cs.drop run.length) else none

def digitsValue (base : Nat) (digits : List Nat) : Nat :=
  digits.foldl (fun n d ↦ base * n + d) 0

def integer? (n : Int) : Option Datum :=
  if -0x8000000000000000 ≤ n ∧ n ≤ 0x7fffffffffffffff then some (.int n) else none

def twoDigits? (least greatest : Nat) : Reader Nat
  | a :: b :: rest =>
    let n := digitsValue 10 [a.toNat - 48, b.toNat - 48]
    if isDigit a && isDigit b && least ≤ n && n ≤ greatest then some (n, rest) else none
  | _ => none

/-- A time of day behind the hour. -/
def clock? (cs : List Char) : Option (List Char) := do
  let (_, rest) ← twoDigits? 0 59 (← word? [':'] cs)
  let (_, rest) ← twoDigits? 0 60 (← word? [':'] rest)
  match rest with
  | '.' :: places =>
    let after := places.dropWhile isDigit
    if after.length = places.length then none else some after
  | _ => some rest

def offset? (cs : List Char) : Option (List Char) :=
  match cs with
  | [] => some []
  | c :: rest =>
    if c = 'Z' ∨ c = 'z' then some rest
    else if c = '+' ∨ c = '-' then do
      let (_, rest) ← twoDigits? 0 23 rest
      let (_, rest) ← twoDigits? 0 59 (← word? [':'] rest)
      some rest
    else some cs

/-- The name under which a date or a time stands in the table by which it is shown. -/
def dateKey : String := "$__toml_private_datetime"

def dateDatum (cs rest : List Char) : Datum :=
  .table [(dateKey, .text (String.ofList (cs.take (cs.length - rest.length))))]

def date? (year : Nat) (cs : List Char) : Option (List Char) := do
  let (month, rest) ← twoDigits? 1 12 cs
  let (_, rest) ← twoDigits? 1 (Time.daysInMonth year month) (← word? ['-'] rest)
  match rest with
  | c :: time =>
    if c = 'T' ∨ c = 't' ∨ c = ' ' then
      match twoDigits? 0 23 time with
      | some (_, ':' :: clock) => offset? (← clock? (':' :: clock))
      | _ => some rest
    else some rest
  | [] => some []

/-- A decimal integer or a floating-point number, behind its sign. Only zero starts with a zero. -/
def decimal? (negative : Bool) (cs : List Char) : Option (Datum × List Char) := do
  let (whole, rest) ← digits? 10 cs
  if whole.head? = some 0 ∧ 1 < whole.length then none
  let sign : Int := if negative then -1 else 1
  let (places, afterPlaces, pointed) ←
    match rest with
    | '.' :: rest => (digits? 10 rest).map fun (places, rest) ↦ (places, rest, true)
    | _ => some ([], rest, false)
  let (exponent, rest, scaled) ←
    match afterPlaces with
    | e :: rest =>
      if e = 'e' ∨ e = 'E' then
        let (down, rest) :=
          match rest with
          | '-' :: rest => (true, rest)
          | '+' :: rest => (false, rest)
          | rest => (false, rest)
        (digits? 10 rest).map fun (ds, rest) ↦
          ((if down then -(digitsValue 10 ds : Int) else (digitsValue 10 ds : Int)), rest, true)
      else some (0, afterPlaces, false)
    | [] => some (0, [], false)
  if pointed ∨ scaled then
    let x := Number.nearestFloat (digitsValue 10 (whole ++ places)) (exponent - places.length)
    if x.isInf ∧ !negative then none
    else some (.float (if negative then -x else x), rest)
  else do
    let d ← integer? (sign * digitsValue 10 whole)
    some (d, rest)

def special? (negative : Bool) (cs : List Char) : Option (Datum × List Char) :=
  match word? "inf".toList cs, word? "nan".toList cs with
  | some rest, _ => some (.float (if negative then -1.0 / 0.0 else 1.0 / 0.0), rest)
  | _, some rest => some (.float (0.0 / 0.0), rest)
  | _, _ => none

def numberOrDate? (cs : List Char) : Option (Datum × List Char) :=
  let based (base : Nat) (rest : List Char) : Option (Datum × List Char) := do
    let (ds, rest) ← digits? base rest
    let d ← integer? (digitsValue base ds)
    some (d, rest)
  match cs with
  | '+' :: rest => (special? false rest).orElse fun _ ↦ decimal? false rest
  | '-' :: rest => (special? true rest).orElse fun _ ↦ decimal? true rest
  | '0' :: 'x' :: rest => based 16 rest
  | '0' :: 'o' :: rest => based 8 rest
  | '0' :: 'b' :: rest => based 2 rest
  | a :: b :: ':' :: rest =>
    if isDigit a ∧ isDigit b then do
      let (_, _) ← twoDigits? 0 23 [a, b]
      let rest ← clock? (':' :: rest)
      some (dateDatum cs rest, rest)
    else none
  | a :: b :: c :: d :: '-' :: rest =>
    if [a, b, c, d].all isDigit then do
      let rest ← date? (digitsValue 10 ([a, b, c, d].map fun c ↦ c.toNat - 48)) rest
      some (dateDatum cs rest, rest)
    else decimal? false cs
  | _ => decimal? false cs

/-! ## Tables inside braces -/

inductive Inline where
  | value (d : Datum)
  /-- A table made by dotted keys. -/
  | opened (members : List (String × Inline))

def insertInline? : (path : List String) → Datum → List (String × Inline) →
    Option (List (String × Inline))
  | [], _, _ => none
  | [name], d, members =>
    if members.any (·.1 == name) then none else some (members ++ [(name, .value d)])
  | name :: path, d, members =>
    match members.find? (·.1 == name) with
    | none => do
      let inner ← insertInline? path d []
      some (members ++ [(name, .opened inner)])
    | some (_, .value _) => none
    | some (_, .opened inner) => do
      let inner ← insertInline? path d inner
      some (members.map fun (n, v) ↦ if n == name then (n, .opened inner) else (n, v))

mutual

def Inline.toDatum : Inline → Datum
  | .value d => d
  | .opened members => .table (inlineMembers members)

def inlineMembers : List (String × Inline) → List (String × Datum)
  | [] => []
  | (name, v) :: members => (name, v.toDatum) :: inlineMembers members

end

/-! ## Values -/

def items? (value : Reader Datum) : (fuel : Nat) → (seen : List Datum) → Reader (List Datum)
  | 0, _, _ => none
  | fuel + 1, seen, cs =>
    match skipLines cs.length cs with
    | ']' :: rest => some (seen.reverse, rest)
    | start => do
      let (d, rest) ← value start
      match skipLines rest.length rest with
      | ',' :: rest => items? value fuel (d :: seen) rest
      | ']' :: rest => some ((d :: seen).reverse, rest)
      | _ => none

def members? (value : Reader Datum) : (fuel : Nat) → List (String × Inline) →
    Reader (List (String × Inline))
  | 0, _, _ => none
  | fuel + 1, members, cs => do
    let (path, rest) ← key? cs
    let (d, rest) ← value (skipBlanks (← word? ['='] rest))
    let members ← insertInline? path d members
    match skipBlanks rest with
    | ',' :: rest => members? value fuel members rest
    | '}' :: rest => some (members, rest)
    | _ => none

/-- A value in which arrays and tables lie less than `depth` deep inside one another. -/
def value? : (depth : Nat) → Reader Datum
  | 0, _ => none
  | depth + 1, cs =>
    match cs with
    | '[' :: rest =>
      if depth = 0 then none
      else (items? (value? depth) (rest.length + 1) [] rest).map fun (items, rest) ↦ (.list items, rest)
    | '{' :: rest =>
      if depth = 0 then none
      else
        match skipBlanks rest with
        | '}' :: rest => some (.table [], rest)
        | rest =>
          (members? (value? depth) (rest.length + 1) [] rest).map fun (members, rest) ↦
            (.table (inlineMembers members), rest)
    | c :: _ =>
      if c = '"' ∨ c = '\'' then (text? cs).map fun (s, rest) ↦ (.text s, rest)
      else if c = 't' then (word? "true".toList cs).map fun rest ↦ (.bool true, rest)
      else if c = 'f' then (word? "false".toList cs).map fun rest ↦ (.bool false, rest)
      else if c = 'i' ∨ c = 'n' then special? false cs
      else numberOrDate? cs
    | [] => none

end DepositGate.Toml
