/-!
# Request targets

The target of a request is a path with a query, an asterisk, an authority alone, or an absolute address
with a scheme. A fragment is not part of it.
-/

namespace DepositGate.Http

/-- A request target: the scheme and authority of an absolute address, or an authority that stands alone, and
the path and query as they are written. The usual schemes are in lower case. -/
structure Uri where
  scheme : Option String
  authority : Option String
  target : String
deriving DecidableEq, Repr

namespace Uri

def http : String := "http"

def https : String := "https"

/-- A path and query, or an authority alone. -/
def ofRelative (cs : List Char) : Uri :=
  if cs.head? = some '/' ∨ cs = ['*'] then ⟨none, none, String.ofList cs⟩
  else ⟨none, some (String.ofList cs), ""⟩

/-- Reads a target that is well formed. The scheme ends at the first `://` before any other mark. -/
def ofString (s : String) : Uri :=
  let cs := s.toList.takeWhile (· != '#')
  let scheme := cs.takeWhile fun c ↦ c != ':' && c != '/' && c != '?'
  match cs.drop scheme.length with
  | ':' :: '/' :: '/' :: rest =>
    let name := String.ofList scheme
    let lower := String.ofList (scheme.map Char.toLower)
    let authority := rest.takeWhile fun c ↦ c != '/' && c != '?'
    ⟨some (if lower = http ∨ lower = https then lower else name), some (String.ofList authority),
      String.ofList (rest.drop authority.length)⟩
  | _ => ofRelative cs

/-- The path; an absolute address without one has the root, and an authority alone has none. -/
def path (u : Uri) : String :=
  if u.target.isEmpty && u.scheme.isNone then ""
  else
    let path := u.target.toList.takeWhile (· != '?')
    if path.isEmpty then "/" else String.ofList path

def query (u : Uri) : Option String :=
  match u.target.toList.dropWhile (· != '?') with
  | _ :: query => some (String.ofList query)
  | [] => none

def pathAndQuery (u : Uri) : Option String :=
  if u.scheme.isSome || u.authority.isNone then
    some (if u.target.isEmpty then "/" else u.target)
  else none

def queryText (query : Option String) : String :=
  match query with
  | some query => "?" ++ query
  | none => ""

def toText (u : Uri) : String :=
  let scheme := match u.scheme with | some scheme => scheme ++ "://" | none => ""
  scheme ++ u.authority.getD "" ++ u.path ++ queryText u.query

/-- The target of the directory of the same name. There is none of an authority that stands alone, since
a path behind it would need a scheme in front. -/
def withSlash? (u : Uri) : Option Uri :=
  if u.authority.isSome && u.scheme.isNone then none
  else
    match u.pathAndQuery with
    | none => some { u with target := "/" }
    | some _ => some { u with target := u.path ++ "/" ++ queryText u.query }

end Uri

end DepositGate.Http
