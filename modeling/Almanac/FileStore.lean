import Almanac.Files

/-!
# Almanac.FileStore

A tree of directories and files as a value, seen from its working directory.

1. A path with a slash in front starts at the root of the tree, any other one in the working
   directory.
2. A path is cut at its slashes; an empty name and `.` stay where they are, `..` goes up.  The root
   is its own parent.  The working directory has any number of directories above it, whose names
   are not known: nothing is found there but what was put there on a path with `..`.
3. Each name but the last must lead to a directory, and no name or path is too long.
4. Reading needs a file.  A directory can be opened, but delivers no bytes.
5. Replacing creates a file that is missing.  The last name must not be that of a directory: neither
   an existing one, nor `.` or `..`, nor a name with a slash behind it.
6. Replacing changes the place that the path leads to and no other one (`find?_put_of_ne`), and a
   failed attempt changes nothing.
-/

namespace Almanac

/-- A directory that is always there, and that names are counted from. -/
inductive Origin
  | root
  /-- The directory that many steps above the working directory. -/
  | above (steps : Nat)
deriving DecidableEq, Repr

/-- A place in the tree: names that lead down from a directory. -/
structure Place where
  origin : Origin
  names : List String := []
deriving DecidableEq, Repr

namespace Place

/-- The working directory. -/
def working : Place := ⟨.above 0, []⟩

/-- The place of a name in a directory. -/
def child (place : Place) (name : String) : Place := { place with names := place.names ++ [name] }

/-- The directory above a place. -/
def parent (place : Place) : Place :=
  match place.names, place.origin with
  | [], .root => place
  | [], .above steps => ⟨.above (steps + 1), []⟩
  | names, origin => ⟨origin, names.dropLast⟩

/-- The place that a name leads to. -/
def enter (place : Place) (name : String) : Place :=
  if name = "" ∨ name = "." then place
  else if name = ".." then place.parent
  else place.child name

end Place

/-- What stands at a place. -/
inductive Node
  | file (bytes : ByteArray)
  | directory

/-- A tree of directories and files.  Of two nodes at one place the first one counts. -/
structure FileStore where
  nodes : List (Place × Node) := []

namespace FileStore

/-! ## nodes -/

/-- What stands at a place; an origin is always there. -/
def find? (s : FileStore) (place : Place) : Option Node :=
  if place.names = [] then some .directory else s.nodes.lookup place

/-- Lets a node stand at a place. -/
def put (s : FileStore) (place : Place) (node : Node) : FileStore :=
  ⟨(place, node) :: s.nodes.filter fun (p, _) => p ≠ place⟩

theorem find?_put_self (s : FileStore) {place : Place} (h : place.names ≠ []) (node : Node) :
    (s.put place node).find? place = some node := by
  simp [find?, put, h]

/-- Other places keep what stands there. -/
theorem find?_put_of_ne (s : FileStore) {place other : Place} (h : other ≠ place) (node : Node) :
    (s.put place node).find? other = s.find? other := by
  have key : ∀ nodes : List (Place × Node),
      (nodes.filter fun (p, _) => p ≠ place).lookup other = nodes.lookup other := by
    intro nodes
    induction nodes with
    | nil => rfl
    | cons n nodes ih => grind
  have hb : (other == place) = false := by simp [h]
  simp only [find?, put, List.lookup_cons, hb, key]

/-! ## paths -/

/-- Cuts a text at its slashes, below the reversed beginning of the current name. -/
def namesOnto (current : List Char) : List Char → List String
  | [] => [String.ofList current.reverse]
  | c :: rest =>
    if c = '/' then String.ofList current.reverse :: namesOnto [] rest
    else namesOnto (c :: current) rest

/-- The most bytes of a name. -/
def maxNameBytes : Nat := 255

/-- The most bytes of a path. -/
def maxPathBytes : Nat := 4095

/-- The directory that a path starts in. -/
def start (path : String) : Place :=
  if path.toList.head? = some '/' then ⟨.root, []⟩ else .working

/-- The directory that a path starts in, and the names on it. -/
def route (path : String) : Except Failure (Place × List String) :=
  if path.isEmpty then .error .notFound
  else if '\x00' ∈ path.toList then .error .nulInPath
  else if maxPathBytes < path.utf8ByteSize then .error .nameTooLong
  else .ok (start path, namesOnto [] path.toList)

/-- The place that names lead to from a place.  Each of them is looked up in a directory. -/
def walk (s : FileStore) (place : Place) : List String → Except Failure Place
  | [] => .ok place
  | name :: rest =>
    match s.find? place with
    | none => .error .notFound
    | some (.file _) => .error .notADirectory
    | some .directory =>
      if maxNameBytes < name.utf8ByteSize then .error .nameTooLong
      else s.walk (place.enter name) rest

/-! ## files -/

/-- Opens a file and reads all of it. -/
def fetch (s : FileStore) (path : String) : Except Failure Source := do
  let (start, names) ← route path
  match s.find? (← s.walk start names) with
  | none => throw .notFound
  | some (.file bytes) => pure ⟨bytes, none⟩
  | some .directory => pure ⟨.empty, some .isADirectory⟩

/-- The place of a file that can be created or emptied. -/
def target (s : FileStore) (path : String) : Except Failure Place := do
  let (start, names) ← route path
  match names.reverse.dropWhile (·.isEmpty) with
  | [] => throw .isADirectory
  | last :: before =>
    let directory ← s.walk start (before.reverse ++ ["."])
    if names.getLast? = some "" ∨ last = "." ∨ last = ".." then throw .isADirectory
    let place ← s.walk directory [last]
    match s.find? place with
    | some .directory => throw .isADirectory
    | _ => pure place

/-- Creates or empties a file and writes bytes into it. -/
def replace (s : FileStore) (path : String) (bytes : ByteArray) : Except Failure FileStore := do
  pure (s.put (← s.target path) (.file bytes))

instance : Files String (StateM FileStore) where
  fetch path := do pure ((← get).fetch path)
  replace path bytes := do
    match (← get).replace path bytes with
    | .ok s => set s; pure (.ok ())
    | .error cause => pure (.error (.cannotCreate cause))

/-! ## directories -/

/-- Lets a directory stand where nothing stands yet. -/
def addDirectory (s : FileStore) (place : Place) : FileStore :=
  match s.find? place with
  | none => s.put place .directory
  | some _ => s

/-- Adds the directories that names lead to from a place. -/
def addDirectories (s : FileStore) (place : Place) : List String → FileStore
  | [] => s
  | name :: rest => (s.addDirectory (place.enter name)).addDirectories (place.enter name) rest

/-- Adds a directory and those above it, where nothing stands yet. -/
def makeDirectory (s : FileStore) (path : String) : Except Failure FileStore := do
  let (start, names) ← route path
  pure (s.addDirectories start names)

/-- The paths of all nodes below the working directory, in the order of their characters; a
directory's ends in a slash. -/
def listing (s : FileStore) : List String :=
  let path : Place × Node → String
    | (place, .file _) => "/".intercalate place.names
    | (place, .directory) => "/".intercalate place.names ++ "/"
  let below := s.nodes.filter fun (place, _) => place.origin = Place.working.origin
  (below.map path).mergeSort fun a b => decide (a ≤ b)

end FileStore

end Almanac
