import FormScaffold.Code
import FormScaffold.Naming
import FormScaffold.Text.Quoted

/-!
# Artifacts and their imports
-/

namespace FormScaffold

/-- One generated file. -/
structure Artifact where
  role : Role
  /-- Where the file is written, below the output directory -/
  path : String
  contents : String
deriving DecidableEq, Repr

/-- What a module takes from another one. -/
inductive Import where
  | named (names : List String) (source : String)
  | types (names : List String) (source : String)
  | default (name source : String)
deriving DecidableEq, Repr

namespace Import

/-- A list of names in braces. -/
def nameList (names : List String) : String :=
  Quoted.braced (" " ++ ", ".intercalate names ++ " ")

/-- The line of an import. -/
def line : Import → String
  | named names source => "import " ++ nameList names ++ " from '" ++ source ++ "';"
  | types names source => "import type " ++ nameList names ++ " from '" ++ source ++ "';"
  | default name source => "import " ++ name ++ " from '" ++ source ++ "';"

def code (i : Import) : Code := .line i.line

end Import

/-- The import of the schema by another artifact. -/
def Naming.schemaImport (names : Naming) (source : Role) : Import :=
  .named [names.schemaSymbol] (names.importPath source .schema)

/-- The type that the schema gives to submitted data. -/
def Naming.valuesType (names : Naming) : String := "z.infer<typeof " ++ names.schemaSymbol ++ ">"

end FormScaffold
