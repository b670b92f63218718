/-!
# The order of lists and texts

Lists are ordered by the first place where they differ, and a list comes before those that go on
from it.  Texts are ordered like that by the numbers of their characters.
-/

namespace FormScaffold.Text

/-- Compares by the first difference, and then by length. -/
def compareLists {α : Type} (compare : α → α → Ordering) : List α → List α → Ordering
  | [], [] => .eq
  | [], _ :: _ => .lt
  | _ :: _, [] => .gt
  | a :: as, b :: bs => (compare a b).then (compareLists compare as bs)

/-- Compares texts by their characters. -/
def compareChars : List Char → List Char → Ordering :=
  compareLists fun c d => compare c.toNat d.toNat

end FormScaffold.Text
