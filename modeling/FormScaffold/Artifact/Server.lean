import FormScaffold.Artifact.Basic

/-!
# The artifacts of the server

The server action, the API route in either routing style, and the database client.
-/

namespace FormScaffold

open Quoted (literal)

/-- The lines that insert a value into the collection. -/
def Storage.insertion (storage : Storage) (value : String) : Code :=
  .seq
    [ .line "const client = await clientPromise;",
      .line ("const db = client.db(" ++ literal storage.database ++ ");"),
      .line ("const collection = db.collection(" ++ literal storage.collection ++ ");"),
      .line ("await collection.insertOne(" ++ value ++ ");") ]

/-- The message of a failure on the server that has none of its own. -/
def serverErrorMessage : String := "An error occurred"

/-- The message of a caught error. -/
def caughtMessage : String :=
  "error instanceof Error ? error.message : " ++ literal serverErrorMessage

/-- The answer to a failed request. -/
def failureResult : String := "\x7b success: false, error: " ++ caughtMessage ++ " \x7d"

namespace Form

/-- What is done with validated data. -/
def processing (form : Form) (value : String) : Code :=
  match form.storage with
  | some storage => storage.insertion value
  | none =>
    .seq
      [ .line "// Process the validated data here,",
        .line "// e.g. store it or send a notification." ]

/-- The imports of an artifact that validates and stores data. -/
def serverImports (form : Form) (source : Role) : Code :=
  .seq
    [ (form.naming.schemaImport source).code,
      .when form.storage.isSome
        (Import.default "clientPromise" (form.naming.importPath source .databaseClient)).code ]

/-- A `try` block and the handling of its error. -/
def guarded (attempt failure : Code) : Code :=
  .seq
    [ .block "try \x7b" attempt "\x7d catch (error) \x7b",
      .indent failure,
      .line "\x7d" ]

/-- The server action artifact. -/
def serverActionCode (form : Form) : Code :=
  .seq
    [ .line "'use server';",
      .gap,
      form.serverImports .serverAction,
      .gap,
      .block ("export async function " ++ form.naming.actionSymbol ++ "(data: unknown) \x7b")
        (guarded
          (.seq
            [ .line ("const validatedData = " ++ form.naming.schemaSymbol ++ ".parse(data);"),
              .gap,
              form.processing "validatedData",
              .gap,
              .line "return \x7b success: true, data: validatedData \x7d;" ])
          (.seq
            [ .line "console.error(\"Server action error:\", error);",
              .line ("return " ++ failureResult ++ ";") ]))
        "\x7d" ]

/-- The API route of a directory-per-route application. -/
def appRoute (form : Form) : Code :=
  .seq
    [ (Import.named ["NextResponse"] "next/server").code,
      form.serverImports .apiRoute,
      .gap,
      .block "export async function POST(req: Request) \x7b"
        (guarded
          (.seq
            [ .line "const body = await req.json();",
              .line ("const data = " ++ form.naming.schemaSymbol ++ ".parse(body);"),
              .gap,
              form.processing "data",
              .gap,
              .line "return NextResponse.json(\x7b success: true, data \x7d);" ])
          (.seq
            [ .line "console.error(\"API route error:\", error);",
              .line "return NextResponse.json(",
              .indent (.seq
                [ .line (failureResult ++ ","),
                  .line "\x7b status: 400 \x7d," ]),
              .line ");" ]))
        "\x7d" ]

/-- The API route of an application with flat route files. -/
def pagesRoute (form : Form) : Code :=
  .seq
    [ (Import.types ["NextApiRequest", "NextApiResponse"] "next").code,
      form.serverImports .apiRoute,
      .gap,
      .block
        "export default async function handler(req: NextApiRequest, res: NextApiResponse) \x7b"
        (.seq
          [ .block "if (req.method !== 'POST') \x7b"
              (.seq
                [ .line "res.setHeader('Allow', ['POST']);",
                  .line "res.status(405).end(`Method $\x7breq.method\x7d Not Allowed`);",
                  .line "return;" ])
              "\x7d",
            .gap,
            guarded
              (.seq
                [ .line ("const data = " ++ form.naming.schemaSymbol ++ ".parse(req.body);"),
                  .gap,
                  form.processing "data",
                  .gap,
                  .line "res.status(200).json(\x7b success: true, data \x7d);" ])
              (.seq
                [ .line "console.error(\"API route error:\", error);",
                  .line ("res.status(400).json(" ++ failureResult ++ ");") ]) ])
        "\x7d" ]

/-- The API route artifact. -/
def apiRouteCode (form : Form) : Code :=
  match form.routing with
  | .app => form.appRoute
  | .pages => form.pagesRoute

/-- The variable of the environment as the database client reads it. -/
def databaseVariableRead : String := "process.env." ++ databaseVariable

/-- The connection that the database client shares. -/
def databaseConnection : Code :=
  .seq
    [ (Import.named ["MongoClient", "MongoClientOptions"] "mongodb").code,
      .gap,
      .block ("if (!" ++ databaseVariableRead ++ ") \x7b")
        (.line ("throw new Error('Invalid/Missing environment variable: \"" ++
          databaseVariable ++ "\"');"))
        "\x7d",
      .gap,
      .line ("const uri = " ++ databaseVariableRead ++ ";"),
      .line "const options: MongoClientOptions = \x7b\x7d;",
      .gap,
      .line "let client: MongoClient;",
      .line "let clientPromise: Promise<MongoClient>;",
      .gap,
      .block "declare global \x7b"
        (.seq
          [ .line "// eslint-disable-next-line no-var",
            .line "var _mongoClientPromise: Promise<MongoClient> | undefined;" ])
        "\x7d",
      .gap,
      .block "if (process.env.NODE_ENV === 'development') \x7b"
        (.seq
          [ .line "// Reuse the connection across hot reloads.",
            .block "if (!global._mongoClientPromise) \x7b"
              (.seq
                [ .line "client = new MongoClient(uri, options);",
                  .line "global._mongoClientPromise = client.connect();" ])
              "\x7d",
            .line "clientPromise = global._mongoClientPromise;" ])
        "\x7d else \x7b",
      .indent (.seq
        [ .line "client = new MongoClient(uri, options);",
          .line "clientPromise = client.connect();" ]),
      .line "\x7d",
      .gap,
      .line "export default clientPromise;" ]

/-- The database client artifact. -/
def databaseClientCode (form : Form) : Code :=
  .seq
    [ databaseConnection,
      .gap,
      match form.storage with
      | some storage =>
        .seq
          [ .line ("export const databaseName = " ++ literal storage.database ++ ";"),
            .line ("export const collectionName = " ++ literal storage.collection ++ ";") ]
      | none => .empty ]

end Form

end FormScaffold
