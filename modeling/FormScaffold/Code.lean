import FormScaffold.Text.Split

/-!
# Generated source as a tree

Source is put together as a tree of lines and written out once.  Indentation belongs to the tree,
so a part is built without knowing where it will stand.  A gap asks for an empty line: gaps in a
row count once, and no text begins or ends with one.
-/

namespace FormScaffold

/-- A piece of source. -/
inductive Code where
  | empty
  | line (text : String)
  | gap
  | seq (parts : List Code)
  | indent (inner : Code)
deriving Repr, BEq, Inhabited

namespace Code

/-- An opening line, the indented body and a closing line. -/
def block (opening : String) (body : Code) (closing : String) : Code :=
  seq [line opening, indent body, line closing]

/-- The piece if the condition holds, else nothing. -/
def when (condition : Bool) (piece : Code) : Code := if condition then piece else empty

/-- The lines of a text as they are, with a gap for each line that is blank. -/
def verbatim (text : String) : Code :=
  seq ((Text.lines text).map fun l => if Text.AllBlank l then gap else line l)

/-- A line moved in by two spaces for each level. -/
def indented (depth : Nat) (text : String) : String :=
  String.ofList (List.replicate (2 * depth) ' ') ++ text

/-- The lines with a gap after them: one empty line, unless there is one already or there is
nothing to separate.  The last line comes first. -/
def addGap : List String → List String
  | [] => []
  | last :: before => if last = "" then last :: before else "" :: last :: before

mutual

/-- The lines after those of a piece have been added at a depth.  The last line comes first. -/
def emit (depth : Nat) (written : List String) : Code → List String
  | empty => written
  | line text => indented depth text :: written
  | gap => addGap written
  | seq parts => emitAll depth written parts
  | indent inner => emit (depth + 1) written inner

/-- The lines after those of several pieces have been added. -/
def emitAll (depth : Nat) (written : List String) : List Code → List String
  | [] => written
  | part :: parts => emitAll depth (emit depth written part) parts

end

/-- The lines of a piece, without empty lines at the end. -/
def toLines (code : Code) : List String :=
  ((emit 0 [] code).dropWhile (· = "")).reverse

/-- The text of a piece: its lines, and a line feed at the end. -/
def render (code : Code) : String := "\n".intercalate code.toLines ++ "\n"

end Code

end FormScaffold
