import FormScaffold.Form.Basic
import FormScaffold.Naming

/-!
# Setup steps

What has to be installed before a generated form can run.
-/

namespace FormScaffold

namespace Form

/-- The library components that a form uses. -/
def libraryComponents (form : Form) : List String :=
  ["form", "input", "button"] ++ (if form.hasTextarea then ["textarea"] else []) ++
    (if form.layout = .card then ["card"] else [])

/-- The steps, one command or instruction each. -/
def setupSteps (form : Form) : List String :=
  [ "npm install react-hook-form @hookform/resolvers zod",
    "npx shadcn@latest init",
    "npx shadcn@latest add " ++ " ".intercalate form.libraryComponents ] ++
  (if form.storage.isSome then
    [ "npm install mongodb",
      "Add your MongoDB connection string to .env:\n  " ++ databaseVariable ++
        "=your_mongodb_connection_string_here" ]
  else [])

end Form

end FormScaffold
