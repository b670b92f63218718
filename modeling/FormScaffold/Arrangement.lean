import FormScaffold.Code
import FormScaffold.Form.Basic
import FormScaffold.Text.Quoted
import FormScaffold.Text.Split

/-!
# Arranging the parts of a form

The fields, the buttons and the link of a form are put into one of three layouts, and the class
names of the container are collected.
-/

namespace FormScaffold

/-- The parts of a form that a layout arranges. -/
structure Parts where
  title : String
  fields : List Code
  buttons : List Code
  link : Option Code

namespace Parts

def cardDescription : String := "Please fill out the form below"

/-- The buttons and the link behind them. -/
def actions (parts : Parts) : List Code := parts.buttons ++ [parts.link.getD .empty]

def cardHeader (parts : Parts) : Code :=
  .block "<CardHeader>"
    (.seq
      [ .line ("<CardTitle>" ++ Quoted.childText parts.title ++ "</CardTitle>"),
        .line ("<CardDescription>" ++ cardDescription ++ "</CardDescription>") ])
    "</CardHeader>"

/-- The parts in a layout. -/
def arrange (parts : Parts) : Layout → Code
  | .stacked =>
    .block "<div className=\"space-y-8\">"
      (.seq (parts.fields ++
        [.block "<div className=\"flex justify-between items-center\">" (.seq parts.actions)
          "</div>"]))
      "</div>"
  | .card =>
    .block "<Card>"
      (.seq
        [ parts.cardHeader,
          .block "<CardContent className=\"space-y-8\">" (.seq parts.fields) "</CardContent>",
          .block "<CardFooter className=\"flex justify-between\">" (.seq parts.actions)
            "</CardFooter>" ])
      "</Card>"
  | .inline =>
    .block "<div className=\"flex items-center space-x-4\">"
      (.seq (parts.fields ++ parts.actions)) "</div>"

end Parts

/-! ## The container -/

def HorizontalAlign.className : HorizontalAlign → String
  | .left => "items-start"
  | .center => "mx-auto"
  | .right => "items-end"

def VerticalAlign.className : VerticalAlign → String
  | .top => "justify-start"
  | .center => "justify-center"
  | .bottom => "justify-end"

/-- The class names of the container: a column, its alignment, and the words of the width. -/
def containerClasses (horizontal : Option HorizontalAlign) (vertical : Option VerticalAlign)
    (width : String) : List String :=
  ["flex", "flex-col"] ++ (horizontal.map (·.className)).toList ++
    (vertical.map (·.className)).toList ++ ["min-h-screen"] ++ Text.words width

/-- The class list of the container. -/
def containerClass (horizontal : Option HorizontalAlign) (vertical : Option VerticalAlign)
    (width : String) : String :=
  " ".intercalate (containerClasses horizontal vertical width)

end FormScaffold
