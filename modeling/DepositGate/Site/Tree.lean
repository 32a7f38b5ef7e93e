import DepositGate.Text.Pieces

/-!
# Directory trees

The files of a site, by the names on the way to them, with one time of their last change. A way that
goes on behind a file leads nowhere.
-/

namespace DepositGate.Site

structure File where
  path : List String
  content : List UInt8
deriving DecidableEq, Repr

structure Tree where
  /-- The files, of several with one path the last one. -/
  files : List File
  modified : Int
deriving DecidableEq, Repr

/-- The names on a way with slashes between them; empty ones and single points lead on the spot. -/
def names (path : String) : List String :=
  ((Text.pieces '/' path.toList).map String.ofList).filter fun name ↦
    !name.isEmpty && name != "."

namespace Tree

def ofFiles (modified : Int) (files : List (String × List UInt8)) : Tree :=
  ⟨files.map fun (path, content) ↦ ⟨names path, content⟩, modified⟩

def file? (t : Tree) (path : List String) : Option File :=
  t.files.reverse.find? (·.path == path)

def isDirectory (t : Tree) (path : List String) : Bool :=
  path.isEmpty || t.files.any fun f ↦ path.isPrefixOf f.path && path.length < f.path.length

end Tree

end DepositGate.Site
