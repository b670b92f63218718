import FormScaffold.Code
import FormScaffold.Form.Basic
import FormScaffold.Text.Quoted

/-!
# Markup of fields, buttons and links
-/

namespace FormScaffold

open Quoted (attributeValue braced childText literal)

/-- The input element of a field. -/
def Field.control (field : Field) : String :=
  (match field.type with
    | .textarea => "<Textarea"
    | type => "<Input type=\"" ++ type.name ++ "\"") ++
    " placeholder=" ++ attributeValue field.placeholder ++ " " ++ braced "...field" ++ " />"

/-- A labelled input that is bound to the state of the form. -/
def Field.markup (field : Field) : Code :=
  .seq
    [ .line "<FormField",
      .indent (.seq
        [ .line ("control=" ++ braced "form.control"),
          .line ("name=\"" ++ field.name ++ "\""),
          .line "render=\x7b(\x7b field \x7d) => (",
          .indent (.block "<FormItem>"
            (.seq
              [ .line ("<FormLabel>" ++ childText field.label ++ "</FormLabel>"),
                .block "<FormControl>" (.line field.control) "</FormControl>",
                .line "<FormMessage />" ])
            "</FormItem>"),
          .line ")\x7d" ]),
      .line "/>" ]

/-- The text of the submit button while a submission is under way. -/
def submittingText : String := "Submitting..."

/-- A button.  Only the submit button submits, and only it can show that a submission is under
way. -/
def Button.markup (button : Button) (submits loadingState : Bool) : Code :=
  let opening := "<Button type=\"" ++ (if submits then "submit" else "button") ++
    "\" variant=\"" ++ button.variant.name ++ "\""
  if submits && loadingState then
    .block (opening ++ " disabled=" ++ braced "isSubmitting" ++ ">")
      (.line (braced ("isSubmitting ? " ++ literal submittingText ++ " : " ++
        literal button.text)))
      "</Button>"
  else .block (opening ++ ">") (.line (childText button.text)) "</Button>"

/-- A link. -/
def Link.markup (link : Link) : Code :=
  .line ("<Link href=" ++ attributeValue link.target ++
    " className=\"text-sm text-blue-600 hover:underline\">" ++ childText link.text ++ "</Link>")

end FormScaffold
