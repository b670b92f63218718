import FormScaffold.Text.Blank

/-!
# Cutting texts into pieces

A text is cut at every separator (`split`), at the first one (`cutFirst`), at the last one
(`cutLast`), at white space (`words`) or at line ends (`lines`).
-/

namespace FormScaffold.Text

/-- The pieces between the separators, one more than there are separators. -/
def split (sep : Char → Bool) : List Char → List (List Char)
  | [] => [[]]
  | c :: cs =>
    if sep c then [] :: split sep cs
    else match split sep cs with
      | [] => [[c]]
      | piece :: pieces => (c :: piece) :: pieces

/-- What stands before and after the first separator. -/
def cutFirst (sep : Char → Bool) : List Char → Option (List Char × List Char)
  | [] => none
  | c :: cs =>
    if sep c then some ([], cs)
    else (cutFirst sep cs).map fun (before, after) => (c :: before, after)

/-- What stands before and after the last separator. -/
def cutLast (sep : Char → Bool) : List Char → Option (List Char × List Char)
  | [] => none
  | c :: cs =>
    match cutLast sep cs with
    | some (before, after) => some (c :: before, after)
    | none => if sep c then some ([], cs) else none

/-- The non-empty pieces between white space. -/
def words (s : String) : List String :=
  ((split isBlank s.toList).filter fun piece => !piece.isEmpty).map String.ofList

/-- A line without the carriage return of a two-character line end. -/
def dropReturn (line : List Char) : List Char :=
  if line.getLast? = some '\r' then line.dropLast else line

/-- The lines among the pieces between line feeds.  A piece that a line feed ends loses one
carriage return at its end; the last piece is a line only if it is not empty. -/
def endLines : List (List Char) → List (List Char)
  | [] => []
  | [last] => if last.isEmpty then [] else [last]
  | piece :: pieces => dropReturn piece :: endLines pieces

/-- The lines of a text. -/
def lines (s : String) : List String := (endLines (split (· == '\n') s.toList)).map String.ofList

/-- Whether `needle` stands somewhere in the text. -/
def occursIn (needle : List Char) : List Char → Bool
  | [] => needle.isEmpty
  | c :: cs => needle.isPrefixOf (c :: cs) || occursIn needle cs

/-- Whether the text contains the other one. -/
def contains (s needle : String) : Bool := occursIn needle.toList s.toList

end FormScaffold.Text
