import FormScaffold.Naming

/-!
# Paths

A path is kept as the segments between its slashes, just as it was written: an empty segment comes
from a slash at an end or from two slashes in a row.  An absolute path begins with an empty segment
and has another one.
-/

namespace FormScaffold

structure Path where
  segments : List String
deriving DecidableEq, Repr

namespace Path

def ofString (s : String) : Path := ⟨pathSegments s⟩

def text (path : Path) : String := "/".intercalate path.segments

def isAbsolute (path : Path) : Bool :=
  match path.segments with
  | "" :: _ :: _ => true
  | _ => false

def isEmpty (path : Path) : Bool := path.segments = [""] || path.segments.isEmpty

/-- The segments without an empty one at the end. -/
def dropSlash (segments : List String) : List String :=
  if segments.getLast? = some "" then segments.dropLast else segments

/-- The path that `part` denotes, seen from a directory. -/
def join (base part : Path) : Path :=
  if part.isAbsolute then part else ⟨dropSlash base.segments ++ part.segments⟩

/-- A segment that names nothing, behind another one. -/
def isIdle (segment : String) : Bool := segment = "" || segment = "."

/-- The segments without those at the end that name nothing.  The first one always stays. -/
def dropIdle : List String → List String
  | [] => []
  | first :: rest => first :: (rest.reverse.dropWhile isIdle).reverse

/-- The path with an empty first segment for the root. -/
def ofDirectory (segments : List String) : Path :=
  if segments = [""] then ⟨["", ""]⟩ else ⟨segments⟩

/-- The directory that a path is in; the root and the empty path are in none. -/
def parent? (path : Path) : Option Path :=
  match dropIdle path.segments with
  | [] | [""] => none
  | [_] => some ⟨[""]⟩
  | first :: rest => some (ofDirectory (dropIdle (first :: rest.dropLast)))

/-- The last segment, if it is a name. -/
def fileName? (path : Path) : Option String :=
  match (dropIdle path.segments).getLast? with
  | none | some "" | some "." | some ".." => none
  | some name => some name

/-- What stands behind the last dot of the file name, if something stands before it. -/
def extension? (path : Path) : Option String := do
  let name ← path.fileName?
  let (stem, extension) ← Text.cutLast (· = '.') name.toList
  if stem.isEmpty then none else some (String.ofList extension)

/-- The path of another file in the same directory. -/
def sibling (path : Path) (name : String) : Path :=
  (path.parent?.getD ⟨[""]⟩).join ⟨[name]⟩

/-- The directories above a path, up to a number of them. -/
def ancestorsUpTo : Nat → Path → List Path
  | 0, _ => []
  | count + 1, path =>
    match path.parent? with
    | none => []
    | some parent => parent :: ancestorsUpTo count parent

/-- The directories above a path, the nearest first. -/
def ancestors (path : Path) : List Path := ancestorsUpTo path.segments.length path

end Path

end FormScaffold
