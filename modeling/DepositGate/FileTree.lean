import DepositGate.SystemFault
import DepositGate.Text.Pieces

/-!
# File trees

Files and directories, with the directory from which paths start, and what comes of reading a file or of
making directories there. A path is a text of names with slashes between them.
-/

namespace DepositGate

inductive FileNode where
  | file (content : List UInt8)
  /-- A directory, and what keeps others from being made in it. -/
  | directory (closed : Option SystemFault)
deriving DecidableEq, Repr

structure FileTree where
  nodes : List (List String × FileNode)
  current : List String
deriving DecidableEq, Repr

namespace FileTree

def nameLimit : Nat := 255

/-- The least number of bytes that are too many for a path. -/
def pathLimit : Nat := 4096

/-- What the names lead to. What lies above something is a directory. -/
def node? (t : FileTree) (names : List String) : Option FileNode :=
  match t.nodes.find? (·.1 == names) with
  | some (_, node) => some node
  | none =>
    if names.isEmpty || t.nodes.any fun (place, _) ↦ names.isPrefixOf place then some (.directory none)
    else none

def isDirectory (t : FileTree) (names : List String) : Bool :=
  match t.node? names with
  | some (.directory _) => true
  | _ => false

/-- Goes on from somewhere by a name. No name and a single point stay there, two points lead up. -/
def enter (t : FileTree) (here : List String) (name : String) : Except SystemFault (List String) :=
  if !t.isDirectory here then .error .notADirectory
  else if name.isEmpty || name == "." then .ok here
  else if name == ".." then .ok here.dropLast
  else if nameLimit < name.utf8ByteSize then .error .nameTooLong
  else if (t.node? (here ++ [name])).isSome then .ok (here ++ [name])
  else .error .notFound

def walk (t : FileTree) (here : List String) : List String → Except SystemFault (List String)
  | [] => .ok here
  | name :: names =>
    match t.enter here name with
    | .ok here => t.walk here names
    | .error fault => .error fault

/-- Where a path starts: at the root if a slash is in front. -/
def start (t : FileTree) (path : String) : List String :=
  if path.toList.head? = some '/' then [] else t.current

def names (path : String) : List String :=
  (Text.pieces '/' path.toList).map String.ofList

def pathFault? (path : String) : Option SystemFault :=
  if path.toList.any (·.toNat == 0) then some .unusableName
  else if pathLimit ≤ path.utf8ByteSize then some .nameTooLong
  else none

def resolve (t : FileTree) (path : String) : Except SystemFault (List String) :=
  match pathFault? path with
  | some fault => .error fault
  | none => if path.isEmpty then .error .notFound else t.walk (t.start path) (names path)

def read (t : FileTree) (path : String) : Except SystemFault (List UInt8) :=
  match t.resolve path with
  | .error fault => .error fault
  | .ok place =>
    match t.node? place with
    | some (.file content) => .ok content
    | _ => .error .isADirectory

def makeFault? (t : FileTree) (here : List String) (names : List String) : Option SystemFault :=
  match names.getLast? with
  | none => some .fileExists
  | some last =>
    match t.walk here names.dropLast with
    | .error fault => some fault
    | .ok above =>
      match t.enter above last with
      | .ok _ => some .fileExists
      | .error .notFound =>
        match t.node? above with
        | some (.directory closed) => closed
        | _ => some .notADirectory
      | .error fault => some fault

/-- Makes the directories that some names lead to, where they are not there. If one of those above is
missing, they are made first. -/
def makeAll (t : FileTree) (here : List String) (names : List String) : Except SystemFault Unit :=
  let there := match t.walk here names with
    | .ok place => t.isDirectory place
    | .error _ => false
  if names.isEmpty || there then .ok ()
  else
    match t.makeFault? here names with
    | none => .ok ()
    | some fault =>
      if fault != .notFound || (t.walk here names.dropLast).toBool then .error fault
      else
        match t.makeAll here names.dropLast with
        | .error fault => .error fault
        | .ok () =>
          if (names.getLast?.map fun n ↦ decide (nameLimit < n.utf8ByteSize)).getD false then
            .error .nameTooLong
          else .ok ()
termination_by names.length
decreasing_by cases names <;> simp_all

def makeDirectory (t : FileTree) (path : String) : Except SystemFault Unit :=
  match pathFault? path with
  | some fault => .error fault
  | none => t.makeAll (t.start path) ((names path).filter fun name ↦ !name.isEmpty && name != ".")

end FileTree

end DepositGate
