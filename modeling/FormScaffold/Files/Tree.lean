import FormScaffold.Files.Access

/-!
# Trees of files

A tree holds directories and files at locations, which are lists of names from the root.  The root
is a directory that is always there.  A path is followed name by name: each step needs a directory.
-/

namespace FormScaffold

/-- What a tree holds at a location. -/
inductive FileEntry where
  | directory
  | file (bytes : ByteArray)

def FileEntry.kind : FileEntry → FileKind
  | directory => .directory
  | file _ => .file

structure FileTree where
  entries : List (List String × FileEntry)
  /-- Where relative paths begin -/
  current : List String

namespace FileTree

/-! ## Entries -/

def get? (tree : FileTree) (location : List String) : Option FileEntry :=
  if location.isEmpty then some .directory else tree.entries.lookup location

def erase (tree : FileTree) (location : List String) : FileTree :=
  { tree with entries := tree.entries.filter fun (l, _) => l ≠ location }

def set (tree : FileTree) (location : List String) (entry : FileEntry) : FileTree :=
  { tree with entries := (location, entry) :: (tree.erase location).entries }

@[simp] theorem get?_root (tree : FileTree) : tree.get? [] = some .directory := rfl

theorem get?_erase_self (tree : FileTree) {location : List String} (h : location ≠ []) :
    (tree.erase location).get? location = none := by
  simp only [get?, erase, List.isEmpty_iff, h, if_false, List.lookup_eq_none_iff, List.mem_filter]
  rintro ⟨l, entry⟩ ⟨_, kept⟩
  simpa using fun same : location = l => of_decide_eq_true kept same.symm

theorem lookup_filter_of_ne {location other : List String} (h : other ≠ location)
    (entries : List (List String × FileEntry)) :
    (entries.filter fun (l, _) => l ≠ location).lookup other = entries.lookup other := by
  induction entries with
  | nil => rfl
  | cons entry entries ih =>
    obtain ⟨l, entry⟩ := entry
    by_cases same : l = location
    · have differs : (other == l) = false := by simpa [same] using h
      rw [List.filter_cons_of_neg (by simp [same]), List.lookup_cons, differs, ih]
    · rw [List.filter_cons_of_pos (by simp [same]), List.lookup_cons, List.lookup_cons, ih]

theorem get?_erase_of_ne (tree : FileTree) {location other : List String} (h : other ≠ location) :
    (tree.erase location).get? other = tree.get? other := by
  simp only [get?, erase, lookup_filter_of_ne h]

theorem get?_set_self (tree : FileTree) {location : List String} (entry : FileEntry)
    (h : location ≠ []) : (tree.set location entry).get? location = some entry := by
  simp [get?, set, h]

theorem get?_set_of_ne (tree : FileTree) {location other : List String} (entry : FileEntry)
    (h : other ≠ location) : (tree.set location entry).get? other = tree.get? other := by
  have differs : (other == location) = false := by simpa using h
  rw [← get?_erase_of_ne tree h]
  simp only [get?, set, List.lookup_cons, differs]

/-- The names in a directory with their entries. -/
def children (tree : FileTree) (location : List String) : List (String × FileEntry) :=
  tree.entries.filterMap fun (l, entry) =>
    match l.getLast? with
    | some name => if l.dropLast = location then some (name, entry) else none
    | none => none

/-! ## Paths -/

/-- How many bytes a name may have. -/
def nameLimit : Nat := 255

/-- How many bytes a path must have less than. -/
def pathLimit : Nat := 4096

/-- Follows one segment of a path. -/
def step (tree : FileTree) (location : List String) (segment : String) :
    Except Fault (List String) :=
  match tree.get? location with
  | none => .error .notFound
  | some (.file _) => .error .notDirectory
  | some .directory =>
    if Path.isIdle segment then .ok location
    else if segment = ".." then .ok location.dropLast
    else if nameLimit < segment.utf8ByteSize then .error .nameTooLong
    else .ok (location ++ [segment])

/-- The location that a path leads to, where there need not be anything. -/
def locate (tree : FileTree) (path : Path) : Except Fault (List String) :=
  if path.text.toList.contains '\x00' then .error .zeroCharacter
  else if path.isEmpty then .error .notFound
  else if pathLimit ≤ path.text.utf8ByteSize then .error .nameTooLong
  else path.segments.foldlM tree.step (if path.isAbsolute then [] else tree.current)

/-- The entry that a path leads to. -/
def find (tree : FileTree) (path : Path) : Except Fault FileEntry := do
  let location ← tree.locate path
  match tree.get? location with
  | some entry => return entry
  | none => .error .notFound

/-! ## Operations -/

def kind (tree : FileTree) (path : Path) : Except Fault FileKind :=
  (tree.find path).map FileEntry.kind

def read (tree : FileTree) (path : Path) : Except Fault ByteArray := do
  match ← tree.find path with
  | .file bytes => return bytes
  | .directory => .error .isDirectory

def write (tree : FileTree) (path : Path) (bytes : ByteArray) : Except Fault FileTree := do
  let location ← tree.locate path
  match tree.get? location with
  | some .directory => .error .isDirectory
  | _ => return tree.set location (.file bytes)

/-- Makes a directory; slashes at the end of its path do not count. -/
def makeDirectory (tree : FileTree) (path : Path) : Except Fault FileTree := do
  let segments := (path.segments.reverse.dropWhile (· = "")).reverse
  let location ← tree.locate (if segments.isEmpty then path else ⟨segments⟩)
  match tree.get? location with
  | some _ => .error .alreadyExists
  | none => return tree.set location .directory

/-- Moves a file, in place of one that stands at the target. -/
def rename (tree : FileTree) (source target : Path) : Except Fault FileTree := do
  let bytes ← tree.read source
  let origin ← tree.locate source
  let location ← tree.locate target
  match tree.get? location with
  | some .directory => .error .isDirectory
  | _ => return (tree.erase origin).set location (.file bytes)

/-- Removes a file. -/
def remove (tree : FileTree) (path : Path) : Except Fault FileTree := do
  let location ← tree.locate path
  match tree.get? location with
  | some (.file _) => return tree.erase location
  | some .directory => .error .isDirectory
  | none => .error .notFound

def list (tree : FileTree) (path : Path) : Except Fault (List (String × FileKind)) := do
  let location ← tree.locate path
  match tree.get? location with
  | some .directory =>
    return (tree.children location).map fun (name, entry) => (name, entry.kind)
  | some (.file _) => .error .notDirectory
  | none => .error .notFound

/-- An operation that changes the tree, unless it fails. -/
def update (change : FileTree → Except Fault FileTree) : StateM FileTree (Except Fault Unit) :=
  fun tree =>
    match change tree with
    | .ok changed => (.ok (), changed)
    | .error fault => (.error fault, tree)

instance : FileAccess (StateM FileTree) where
  currentDirectory := return Path.ofDirectory ("" :: (← get).current)
  kind path := return (← get).kind path
  read path := return (← get).read path
  write path bytes := update fun tree => tree.write path bytes
  makeDirectory path := update fun tree => tree.makeDirectory path
  rename source target := update fun tree => tree.rename source target
  remove path := update fun tree => tree.remove path
  list path := return (← get).list path

end FileTree

end FormScaffold
