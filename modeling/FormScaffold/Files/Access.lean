import FormScaffold.Files.Path

/-!
# Access to files

What a program can do with files, and the faults that each operation may meet.  A program that is
written against `FileAccess` runs on the real files and on a tree of files alike.
-/

namespace FormScaffold

/-- Why a file operation fails. -/
inductive Fault where
  | notFound
  | alreadyExists
  | notDirectory
  | isDirectory
  | nameTooLong
  | zeroCharacter
  /-- The bytes of a file are no text -/
  | notText
  /-- A directory stands where a file is to be written -/
  | occupied
  | other (message : String)
deriving DecidableEq, Repr

def Fault.message : Fault → String
  | notFound => "No such file or directory (os error 2)"
  | alreadyExists => "File exists (os error 17)"
  | notDirectory => "Not a directory (os error 20)"
  | isDirectory => "Is a directory (os error 21)"
  | nameTooLong => "File name too long (os error 36)"
  | zeroCharacter => "file name contained an unexpected NUL byte"
  | notText => "stream did not contain valid UTF-8"
  | occupied => "a directory already exists at this path"
  | other message => message

/-- What stands at a path. -/
inductive FileKind where
  | directory | file | other
deriving DecidableEq, Repr

/-- The operations on files. -/
class FileAccess (m : Type → Type) where
  currentDirectory : m Path
  kind : Path → m (Except Fault FileKind)
  read : Path → m (Except Fault ByteArray)
  /-- Writes a file, in place of one that stands there -/
  write : Path → ByteArray → m (Except Fault Unit)
  makeDirectory : Path → m (Except Fault Unit)
  rename : Path → Path → m (Except Fault Unit)
  remove : Path → m (Except Fault Unit)
  /-- The names in a directory, and what stands under each -/
  list : Path → m (Except Fault (List (String × FileKind)))

namespace FileAccess

variable {m : Type → Type} [Monad m] [FileAccess m]

/-- The operations of the files below a state. -/
instance {σ : Type} : FileAccess (StateT σ m) where
  currentDirectory := monadLift (currentDirectory : m Path)
  kind path := monadLift (kind path : m _)
  read path := monadLift (read path : m _)
  write path bytes := monadLift (write path bytes : m _)
  makeDirectory path := monadLift (makeDirectory path : m _)
  rename source target := monadLift (rename source target : m _)
  remove path := monadLift (remove path : m _)
  list path := monadLift (list path : m _)

def isDirectory (path : Path) : m Bool := do
  match ← kind path with
  | .ok .directory => return true
  | _ => return false

def isFile (path : Path) : m Bool := do
  match ← kind path with
  | .ok .file => return true
  | _ => return false

def isPresent (path : Path) : m Bool := do
  match ← kind path with
  | .ok _ => return true
  | .error _ => return false

/-- Reads a file that must be a text. -/
def readText (path : Path) : m (Except Fault String) := do
  match ← read path with
  | .error fault => return .error fault
  | .ok bytes =>
    match String.fromUTF8? bytes with
    | some text => return .ok text
    | none => return .error .notText

/-- Makes a directory; one that is there already is as good. -/
def ensureDirectory (path : Path) : m (Except Fault Unit) := do
  match ← makeDirectory path with
  | .ok () => return .ok ()
  | .error fault => if ← isDirectory path then return .ok () else return .error fault

/-- Makes a directory, and those above it if it cannot be made without them. -/
def makeDirectoryBelow (path : Path) : List Path → m (Except Fault Unit)
  | [] => if path.isEmpty then pure (.ok ()) else ensureDirectory path
  | parent :: above =>
    if path.isEmpty then pure (.ok ())
    else do
      match ← ensureDirectory path with
      | .error .notFound =>
        match ← makeDirectoryBelow parent above with
        | .ok () => ensureDirectory path
        | .error fault => return .error fault
      | done => return done

/-- Makes a directory and all directories above it that are missing. -/
def makeDirectories (path : Path) : m (Except Fault Unit) :=
  makeDirectoryBelow path path.ancestors

end FileAccess

end FormScaffold
