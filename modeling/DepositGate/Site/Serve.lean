import DepositGate.Http.Date
import DepositGate.Http.Encoding
import DepositGate.Http.Form
import DepositGate.Http.MediaType
import DepositGate.Http.Range
import DepositGate.Site.Tree
import DepositGate.Text.Utf8

/-!
# Serving a site

The answer to a request for a file: the file or a range of it, a hint that it has not changed, a way to
the directory of the name, or why there is nothing.
-/

namespace DepositGate.Site

open Http (Response Request Headers)

def maxNameLength : Nat := 255

def maxPathLength : Nat := 4095

def indexName : String := "index.html"

/-- The names on the way that a path asks for. A path that leads upwards, that starts anew behind its
first slashes or that is not UTF-8 asks for nothing. -/
def requestedPath? (path : String) : Option (List String) := do
  let relative := path.toList.dropWhile (· == '/')
  let decoded ← Text.ofUtf8? (Http.Form.percentDecode (Text.utf8 (String.ofList relative)))
  let found := names decoded
  if decoded.toList.head? = some '/' ∨ found.contains ".." then none else some found

inductive Target where
  | file (modified : Int) (f : File)
  | directory
  | missing
  | unnameable
  | tooLong

def isLongName (name : String) : Bool :=
  maxNameLength < name.utf8ByteSize

def pathLength (path : List String) : Nat :=
  path.foldl (fun n name ↦ n + name.utf8ByteSize + 1) 0

/-- What the way leads to where there is no file at its end. A name that is too long is noticed if the
way leads to a directory up to there. -/
def absent (site : Option Tree) (path : List String) : Target :=
  let before := path.takeWhile (!isLongName ·)
  if path.any (·.toList.contains '\x00') then .unnameable
  else if maxPathLength < pathLength path then .tooLong
  else
    match site with
    | some t => if before.length < path.length ∧ t.isDirectory before then .tooLong else .missing
    | none => .missing

def target (site : Option Tree) (slash : Bool) (path : List String) : Target :=
  match site with
  | none => absent none path
  | some t =>
    if t.isDirectory path && !slash then .directory
    else
      let path := if t.isDirectory path then path ++ [indexName] else path
      match t.file? path with
      | some f => .file t.modified f
      | none => absent site path

/-- The answer that what a client knows of a file already makes unnecessary: it must not have changed
after a time, or is sent only if it has. Dates that cannot be read do not count. -/
def condition? (headers : Headers) (modified : Int) : Option Response :=
  let date? (name : String) : Option Int := (headers.first? name).bind Http.Date.read?
  let changed := match date? "if-unmodified-since" with
    | some since => decide (since < modified)
    | none => false
  let known := match date? "if-modified-since" with
    | some since => decide (modified ≤ since)
    | none => false
  if changed then some (.bare 412 []) else if known then some (.bare 304 []) else none

/-- The answer with a file or a range of it. Only one range is served at a time. -/
def fileResponse (request : Request) (modified : Int) (f : File) : Response :=
  let size := f.content.length
  let contents (bytes : List UInt8) : Http.Body :=
    if request.method = "HEAD" then .empty else ⟨bytes, false⟩
  let headers : Headers :=
    [("content-type", Http.mediaType (f.path.getLastD "")), ("accept-ranges", "bytes"),
      ("last-modified", Http.Date.write modified)]
  let unsatisfied (text : String) : Response :=
    ⟨416, headers ++ [("content-range", s!"bytes */{size}")], ⟨Text.utf8 text, true⟩⟩
  match request.headers.firstText? "range" with
  | none =>
    ⟨200, headers ++ [("content-length", toString size)], contents f.content⟩
  | some asked =>
    match (Http.RangeSpec.read? asked).bind (Http.RangeSpec.resolve? size) with
    | none => unsatisfied ""
    | some [(start, last)] =>
      let length := if size = 0 then 0 else last - start + 1
      ⟨206, headers ++ [("content-range", s!"bytes {start}-{last}/{size}"),
          ("content-length", toString length)],
        contents ((f.content.drop start).take length)⟩
    | some _ => unsatisfied "Cannot serve multipart range requests"

def serve (site : Option Tree) (request : Request) : Response :=
  if request.method ≠ "GET" ∧ request.method ≠ "HEAD" then .bare 405 [("allow", "GET,HEAD")]
  else
    match requestedPath? request.uri.path with
    | none => .bare 404 []
    | some path =>
      match target site (request.uri.path.toList.getLast? == some '/') path with
      | .directory =>
        match request.uri.withSlash? with
        | some uri => .bare 307 [("location", uri.toText)]
        | none => .bare 500 []
      | .missing => .bare 404 []
      | .unnameable => .bare (if request.method = "HEAD" then 500 else 404) []
      | .tooLong => .bare 500 []
      | .file modified f =>
        (condition? request.headers modified).getD (fileResponse request modified f)

def respond (site : Option Tree) (request : Request) : Response :=
  (serve site request).negotiated request.headers

end DepositGate.Site
