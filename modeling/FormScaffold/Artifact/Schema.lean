import FormScaffold.Artifact.Basic
import FormScaffold.Constraint

/-!
# The schema artifact

One entry for each field, with the checks of its rule text.
-/

namespace FormScaffold

/-- The schema entry of a field. -/
def Field.schemaEntry (field : Field) : Code :=
  .line (field.name ++ ": " ++ Constraint.schemaExpression field.constraints ++ ",")

namespace Form

/-- The schema artifact. -/
def schema (form : Form) : Code :=
  .seq
    [ (Import.named ["z"] "zod").code,
      .gap,
      .block ("export const " ++ form.naming.schemaSymbol ++ " = z.object(\x7b")
        (.seq (form.fields.map Field.schemaEntry))
        "\x7d);",
      .gap,
      .line ("export type " ++ form.naming.valuesSymbol ++ " = " ++ form.naming.valuesType ++ ";") ]

/-- The warnings about the rule texts of all fields, each with the name of its field. -/
def ruleWarnings (form : Form) : List (String × RuleWarning) :=
  form.fields.flatMap fun f => f.ruleWarnings.map fun w => (f.name, w)

end Form

end FormScaffold
