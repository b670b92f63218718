import FormScaffold.Arrangement
import FormScaffold.Artifact.Basic
import FormScaffold.Markup
import FormScaffold.Submission

/-!
# The component artifact

The page's form: its imports, its theme, its state, its submit handler and its markup.
-/

namespace FormScaffold

open Quoted (braced childText literal)

namespace Form

/-- A component of the target application's own library. -/
def libraryModule (name : String) : String := "@/components/ui/" ++ name

/-- The imports of the component. -/
def componentImports (form : Form) : Code :=
  .seq
    [ (Import.named
        (if form.theme.isSome then ["useState", "type CSSProperties"] else ["useState"])
        "react").code,
      (Import.named ["useForm"] "react-hook-form").code,
      (Import.named ["zodResolver"] "@hookform/resolvers/zod").code,
      (Import.named ["z"] "zod").code,
      .when form.link.isSome (Import.default "Link" "next/link").code,
      (Import.named ["Button"] (libraryModule "button")).code,
      .when form.hasSingleLineInput (Import.named ["Input"] (libraryModule "input")).code,
      .when form.hasTextarea (Import.named ["Textarea"] (libraryModule "textarea")).code,
      (Import.named ["Form", "FormControl", "FormField", "FormItem", "FormLabel", "FormMessage"]
        (libraryModule "form")).code,
      .when (form.layout = .card)
        (Import.named
          ["Card", "CardContent", "CardDescription", "CardFooter", "CardHeader", "CardTitle"]
          (libraryModule "card")).code,
      (form.naming.schemaImport .component).code,
      .when form.serverAction
        (Import.named [form.naming.actionSymbol]
          (form.naming.importPath .component .serverAction)).code ]

/-- The declaration of the theme's colours. -/
def themeStyle (form : Form) : Code :=
  match form.theme with
  | none => .empty
  | some theme =>
    .block "const themeStyle = \x7b"
      (.seq
        [ .line ("\"--primary-color\": " ++ literal theme.primary ++ ","),
          .line ("\"--secondary-color\": " ++ literal theme.secondary ++ ",") ])
      "\x7d as CSSProperties;"

/-- The buttons with their positions, counted on from a number. -/
def buttonsFrom (form : Form) (position : Nat) : List Button → List Code
  | [] => []
  | b :: bs =>
    b.markup (form.isSubmit position) form.loadingState :: form.buttonsFrom (position + 1) bs

/-- The parts of the form for its layout. -/
def parts (form : Form) : Parts where
  title := form.name
  fields := form.fields.map Field.markup
  buttons := form.buttonsFrom 1 form.buttons
  link := form.link.map Link.markup

/-- The opening line of the container. -/
def containerOpening (form : Form) : String :=
  "<div className=\"" ++ containerClass form.horizontal form.vertical form.width ++ "\"" ++
    (if form.theme.isSome then " style=" ++ braced "themeStyle" else "") ++ ">"

/-- The markup of the page. -/
def view (form : Form) : Code :=
  .block form.containerOpening
    (.seq
      [ .line ("<h1 className=\"text-2xl font-bold mb-4\">" ++ childText form.name ++ "</h1>"),
        .block ("<Form " ++ braced "...form" ++ ">")
          (.block
            ("<form onSubmit=" ++ braced "form.handleSubmit(onSubmit)" ++
              " className=\"space-y-8 w-full\">")
            (form.parts.arrange form.layout)
            "</form>")
          "</Form>",
        .when form.errorDisplay
          (.line (braced ("error && <p className=\"text-red-500 mt-4\">" ++ braced "error" ++
            "</p>"))),
        .line (braced ("successMessage && <p className=\"text-green-500 mt-4\">" ++
          braced "successMessage" ++ "</p>")) ])
    "</div>"

/-- The values that the fields start with. -/
def defaultValues (form : Form) : Code :=
  .seq (form.fields.map fun f => .line (f.name ++ ": \"\","))

/-- The body of the component function. -/
def componentBody (form : Form) : Code :=
  .seq
    [ form.submission.stateHooks,
      .block ("const form = useForm<" ++ form.naming.valuesType ++ ">(\x7b")
        (.seq
          [ .line ("resolver: zodResolver(" ++ form.naming.schemaSymbol ++ "),"),
            .block "defaultValues: \x7b" form.defaultValues "\x7d," ])
        "\x7d);",
      .gap,
      .block ("const onSubmit = async (data: " ++ form.naming.valuesType ++ ") => \x7b")
        (form.submission.handler form.naming)
        "\x7d;",
      .gap,
      .block "return (" form.view ");" ]

/-- The component artifact. -/
def component (form : Form) : Code :=
  .seq
    [ .line "'use client';",
      .gap,
      form.componentImports,
      .gap,
      form.themeStyle,
      .gap,
      .block ("export default function " ++ form.naming.componentSymbol ++ "() \x7b")
        form.componentBody
        "\x7d" ]

end Form

end FormScaffold
