import FormScaffold.Text.Unseen

/-!
# Texts shown in messages

A text is shown between double quotes.  Characters that would not be seen are shown by their code
point in braces.
-/

namespace FormScaffold.Text

/-- How a character is shown. -/
def showChar (c : Char) : String :=
  match c with
  | '\x00' => "\\0"
  | '\t' => "\\t"
  | '\r' => "\\r"
  | '\n' => "\\n"
  | '\\' => "\\\\"
  | '\x22' => "\\\""
  | _ =>
    if isUnseen c then "\\u\x7b" ++ String.ofList (Nat.toDigits 16 c.toNat) ++ "\x7d"
    else String.singleton c

/-- A text as a message shows it. -/
def shown (s : String) : String := "\"" ++ String.join (s.toList.map showChar) ++ "\""

end FormScaffold.Text
