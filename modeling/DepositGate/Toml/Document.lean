import DepositGate.Toml.Value

/-!
# TOML documents

A document is a sequence of lines: keys with values, and headers that say to which table the lines after
them belong. A table is given by one header only; tables on the way to it come into being by
themselves, and may get a header later.
-/

namespace DepositGate.Toml

/-! ## Tables in the making -/

mutual

inductive Node where
  | value (d : Datum)
  | table (t : Table)
  | tables (ts : List Table)

inductive Table where
  /-- A table is `implicit` as long as no header gives it, and `dotted` if dotted keys made it. -/
  | mk (implicit dotted : Bool) (entries : List (String × Node))

end

namespace Table

def implicit : Table → Bool
  | mk implicit _ _ => implicit

def dotted : Table → Bool
  | mk _ dotted _ => dotted

def entries : Table → List (String × Node)
  | mk _ _ entries => entries

def withEntries (t : Table) (entries : List (String × Node)) : Table :=
  mk t.implicit t.dotted entries

def entry? (t : Table) (name : String) : Option Node :=
  (t.entries.find? (·.1 == name)).map (·.2)

def put (t : Table) (name : String) (node : Node) : Table :=
  if t.entries.any (·.1 == name) then
    t.withEntries (t.entries.map fun (n, held) ↦ if n == name then (n, node) else (n, held))
  else t.withEntries (t.entries ++ [(name, node)])

def erase (t : Table) (name : String) : Table :=
  t.withEntries (t.entries.filter (·.1 != name))

/-- Changes the table at the end of a path, of a repeated header the last one. Tables that are missing
on the way come into being. By dotted keys no table with a header is entered. -/
def changeAt? {α : Type} (byDots : Bool) (change : Table → Option (α × Table)) :
    (path : List String) → Table → Option (α × Table)
  | [], t => change t
  | name :: path, t =>
    match (t.entry? name).getD (.table (mk true byDots [])) with
    | .value _ => none
    | .tables ts =>
      match ts.getLast? with
      | none => none
      | some last => do
        let (a, last) ← changeAt? byDots change path last
        some (a, t.put name (.tables (ts.dropLast ++ [last])))
    | .table inner =>
      if byDots ∧ !inner.implicit then none
      else do
        let (a, inner) ← changeAt? byDots change path inner
        some (a, t.put name (.table inner))

/-- Adds a value under a dotted key. The last table on the way must be the table itself or one that
dotted keys made. -/
def insert? (path : List String) (d : Datum) (t : Table) : Option Table :=
  match path.getLast? with
  | none => none
  | some name =>
    let way := path.dropLast
    let add (t : Table) : Option (Unit × Table) :=
      if t.dotted == way.isEmpty ∨ (t.entry? name).isSome then none
      else some ((), t.put name (.value d))
    (changeAt? true add way t).map (·.2)

end Table

mutual

def Node.toDatum : Node → Datum
  | .value d => d
  | .table t => t.toDatum
  | .tables ts => .list (tableList ts)

def Table.toDatum : Table → Datum
  | .mk _ _ entries => .table (entryList entries)

def tableList : List Table → List Datum
  | [] => []
  | t :: ts => t.toDatum :: tableList ts

def entryList : List (String × Node) → List (String × Datum)
  | [] => []
  | (name, node) :: entries => (name, node.toDatum) :: entryList entries

end

/-! ## Lines -/

structure Draft where
  root : Table
  current : Table
  path : List String
  repeats : Bool

namespace Draft

def emptyTable : Table := .mk false false []

def empty : Draft := ⟨emptyTable, emptyTable, [], false⟩

def settle? (d : Draft) : Option Table :=
  match d.path.getLast? with
  | none => some d.current
  | some name =>
    let add (parent : Table) : Option (Unit × Table) :=
      if d.repeats then
        match (parent.entry? name).getD (.tables []) with
        | .tables ts => some ((), parent.put name (.tables (ts ++ [d.current])))
        | _ => none
      else if (parent.entry? name).isSome then none
      else some ((), parent.put name (.table d.current))
    (d.root.changeAt? false add d.path.dropLast).map (·.2)

/-- Starts the table of a header. A table that has come into being by itself keeps its entries. -/
def start? (d : Draft) (path : List String) (repeats : Bool) : Option Draft := do
  let name ← path.getLast?
  let root ← d.settle?
  let find (parent : Table) : Option (Table × Table) :=
    match parent.entry? name, repeats with
    | none, _ => some (emptyTable, parent)
    | some (.tables _), true => some (emptyTable, parent)
    | some (.table t), false =>
      if t.implicit ∧ !t.dotted then some (.mk false false t.entries, parent.erase name) else none
    | _, _ => none
  let (current, root) ← root.changeAt? false find path.dropLast
  pure ⟨root, current, path, repeats⟩

/-- Adds a value to the current table. -/
def insert? (d : Draft) (path : List String) (value : Datum) : Option Draft :=
  (d.current.insert? path value).map fun current ↦ { d with current := current }

end Draft

def header? (d : Draft) (cs : List Char) : Option (Draft × List Char) :=
  match cs with
  | '[' :: rest => do
    let (path, rest) ← key? rest
    let rest ← word? [']', ']'] rest
    pure (← d.start? path true, rest)
  | rest => do
    let (path, rest) ← key? rest
    let rest ← word? [']'] rest
    pure (← d.start? path false, rest)

def assignment? (d : Draft) (cs : List Char) : Option (Draft × List Char) := do
  let (path, rest) ← key? cs
  let (value, rest) ← value? maxDepth (skipBlanks (← word? ['='] rest))
  pure (← d.insert? path value, rest)

def lines? : (fuel : Nat) → Draft → List Char → Option Draft
  | 0, _, _ => none
  | fuel + 1, d, cs =>
    match skipLines cs.length cs with
    | [] => some d
    | '[' :: rest => do
      let (d, rest) ← header? d rest
      lines? fuel d (← lineEnd? rest)
    | start => do
      let (d, rest) ← assignment? d start
      lines? fuel d (← lineEnd? rest)

/-- The data of a document, which may start with a byte order mark. -/
def read? (s : String) : Option Datum := do
  let cs := s.toList
  let cs := if cs.head? = some '\uFEFF' then cs.drop 1 else cs
  let d ← lines? (cs.length + 1) .empty cs
  let root ← d.settle?
  pure root.toDatum

end DepositGate.Toml
