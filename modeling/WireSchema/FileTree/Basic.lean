import WireSchema.FileTree.Path

/-! # File trees

A run reads from a tree of files and writes into it.  The tree is a value: what an operation
does to it can be seen by comparing the tree before with the tree after.

* `Location` is a place in the tree, and `FileTree.find?` what stands there.
* `FileTree.follow` goes where a path leads; every directory on the way has to exist.
* `FileTree.makeDirectory`, `makeDirectories`, `readFile` and `writeFile` are the operations,
  and `FileFault` is why one fails.
-/

namespace WireSchema

/-! ## Trees -/

/-- What stands at a place of a tree. -/
inductive Entry where
  | directory
  | file (contents : ByteArray)

instance : DecidableEq Entry
  | .directory, .directory => .isTrue rfl
  | .file contents, .file other =>
    match ByteArray.instDecidableEq contents other with
    | .isTrue same => .isTrue (congrArg Entry.file same)
    | .isFalse differ => .isFalse fun same => differ (Entry.file.inj same)
  | .directory, .file _ => .isFalse nofun
  | .file _, .directory => .isFalse nofun

/-- A place in a tree: its name and the names of the directories around it, innermost first.
    The root has no name. -/
abbrev Location := List String

/-- A tree of files and directories, with the directory that relative paths start from. -/
structure FileTree where
  /-- The entries other than the root, each place once. -/
  entries : List (Location × Entry)
  workingDirectory : Location
  deriving DecidableEq

/-- Why an operation on a tree fails. -/
inductive FileFault where
  | notFound
  | alreadyExists
  | notADirectory
  | isADirectory
  | nameTooLong
  /-- A path that holds the character with the number zero. -/
  | zeroInPath
  /-- A file that is to be read as text and is none. -/
  | notText
  /-- A failure that only a disk knows. -/
  | other (message : String)
  deriving DecidableEq, Repr

def FileFault.message : FileFault → String
  | notFound => "No such file or directory (os error 2)"
  | alreadyExists => "File exists (os error 17)"
  | notADirectory => "Not a directory (os error 20)"
  | isADirectory => "Is a directory (os error 21)"
  | nameTooLong => "File name too long (os error 36)"
  | zeroInPath => "file name contained an unexpected NUL byte"
  | notText => "stream did not contain valid UTF-8"
  | other message => message

namespace FileTree

/-- A directory and those around it, without the root. -/
def chain : Location → List (Location × Entry)
  | [] => []
  | name :: around => (name :: around, .directory) :: chain around

/-- A tree that holds a working directory, the directories around it, and nothing else. -/
def empty (workingDirectory : Location) : FileTree :=
  ⟨chain workingDirectory, workingDirectory⟩

/-- What stands at a place, if anything does. -/
def find? (tree : FileTree) (location : Location) : Option Entry :=
  if location.isEmpty then some .directory else tree.entries.lookup location

/-- Replaces the entry of a place, or appends one. -/
def store (location : Location) (entry : Entry) :
    List (Location × Entry) → List (Location × Entry)
  | [] => [(location, entry)]
  | other :: others =>
    if other.1 = location then (location, entry) :: others
    else other :: store location entry others

def put (tree : FileTree) (location : Location) (entry : Entry) : FileTree :=
  { tree with entries := store location entry tree.entries }

theorem lookup_store_self (location : Location) (entry : Entry)
    (entries : List (Location × Entry)) :
    (store location entry entries).lookup location = some entry := by
  induction entries with
  | nil => simp [store]
  | cons other others ih =>
    obtain ⟨place, there⟩ := other
    by_cases h : place = location
    · simp [store, h]
    · have apart : (location == place) = false := by simpa using Ne.symm h
      simp [store, h, List.lookup_cons, apart, ih]

theorem lookup_store_of_ne {location elsewhere : Location} (h : elsewhere ≠ location)
    (entry : Entry) (entries : List (Location × Entry)) :
    (store location entry entries).lookup elsewhere = entries.lookup elsewhere := by
  have apart : (elsewhere == location) = false := by simpa using h
  induction entries with
  | nil => simp [store, List.lookup_cons, apart]
  | cons other others ih =>
    obtain ⟨place, there⟩ := other
    by_cases same : place = location
    · simp [store, same, List.lookup_cons, apart]
    · simp only [store, if_neg same, List.lookup_cons, ih]

/-- What is put at a place stands there. -/
theorem find?_put_self {location : Location} (h : location ≠ []) (tree : FileTree)
    (entry : Entry) : (tree.put location entry).find? location = some entry := by
  simp [find?, put, h, lookup_store_self]

/-- Putting an entry at a place changes no other place. -/
theorem find?_put_of_ne {location elsewhere : Location} (h : elsewhere ≠ location)
    (tree : FileTree) (entry : Entry) :
    (tree.put location entry).find? elsewhere = tree.find? elsewhere := by
  simp only [find?, put, lookup_store_of_ne h]

/-! ## Following paths -/

/-- The largest number of bytes that a name may have. -/
def maxNameBytes : Nat := 255

/-- The smallest number of bytes that a path may no longer have. -/
def pathLimit : Nat := 4096

/-- Goes one step.  It has to start in a directory; where it leads to, nothing has to be. -/
def enter (tree : FileTree) (location : Location) (step : Path.Step) :
    Except FileFault Location :=
  match tree.find? location with
  | none => .error .notFound
  | some (.file _) => .error .notADirectory
  | some .directory =>
    match step with
    | .stay => .ok location
    | .up => .ok location.tail
    | .into name =>
      if maxNameBytes < name.utf8ByteSize then .error .nameTooLong else .ok (name :: location)

def follow (tree : FileTree) : Location → List Path.Step → Except FileFault Location
  | location, [] => .ok location
  | location, step :: steps => do
    let next ← tree.enter location step
    follow tree next steps

def startOf (tree : FileTree) (path : String) : Location :=
  if Path.isAbsolute path then [] else tree.workingDirectory

/-- Refuses texts that are no paths. -/
def checkPath (path : String) : Except FileFault Unit :=
  if path.toList.contains '\x00' then .error .zeroInPath
  else if path.isEmpty then .error .notFound
  else if pathLimit ≤ path.utf8ByteSize then .error .nameTooLong
  else .ok ()

def locate (tree : FileTree) (path : String) : Except FileFault Location := do
  checkPath path
  tree.follow (tree.startOf path) (Path.steps path)

/-- The directory that the last step of a path starts from, and that step.  The root alone has
    no last step. -/
def locateLast (tree : FileTree) (path : String) :
    Except FileFault (Location × Option Path.Step) := do
  checkPath path
  match (Path.steps path).reverse with
  | [] => return ([], none)
  | last :: before =>
    let directory ← tree.follow (tree.startOf path) before.reverse
    return (directory, some last)

def isDirectory (tree : FileTree) (path : String) : Bool :=
  match tree.locate path with
  | .ok location => tree.find? location == some .directory
  | .error _ => false

/-! ## Operations -/

/-- Makes a directory where nothing is. -/
def makeDirectory (tree : FileTree) (path : String) : Except FileFault FileTree := do
  match ← tree.locateLast path with
  | (_, none) => throw .alreadyExists
  | (directory, some step) =>
    let location ← tree.enter directory step
    match step with
    | .into _ =>
      if (tree.find? location).isSome then throw .alreadyExists
      return tree.put location .directory
    | _ => throw .alreadyExists

/-- Makes the first of the given directories, after the others where it needs them.  A
    directory that is already there is as good as a new one. -/
def makeInnermost (tree : FileTree) : List String → FileTree × Except FileFault Unit
  | [] => (tree, .ok ())
  | path :: outer =>
    match tree.makeDirectory path with
    | .ok made => (made, .ok ())
    | .error .notFound =>
      -- A directory around it is missing: they come first, and then it is tried again.
      match makeInnermost tree outer with
      | (tree, .error fault) => (tree, .error fault)
      | (tree, .ok ()) =>
        match tree.makeDirectory path with
        | .ok made => (made, .ok ())
        | .error fault => (tree, if tree.isDirectory path then .ok () else .error fault)
    | .error fault => (tree, if tree.isDirectory path then .ok () else .error fault)

/-- Makes a directory and those around it, as far as they are missing.  Directories that were
    made before a failure stay. -/
def makeDirectories (tree : FileTree) (path : String) : FileTree × Except FileFault Unit :=
  tree.makeInnermost (Path.ancestors path)

def readFile (tree : FileTree) (path : String) : Except FileFault ByteArray := do
  let location ← tree.locate path
  let location ← if Path.endsInSlash path then tree.enter location .stay else pure location
  match tree.find? location with
  | none => throw .notFound
  | some .directory => throw .isADirectory
  | some (.file contents) => return contents

/-- Writes a file.  It may be new or replace another one, but not a directory. -/
def writeFile (tree : FileTree) (path : String) (contents : ByteArray) :
    Except FileFault FileTree := do
  match ← tree.locateLast path with
  | (_, none) => throw .isADirectory
  | (directory, some step) =>
    match step with
    | .into _ =>
      -- With a slash behind it, a name can only be that of a directory.
      if Path.endsInSlash path then
        let _ ← tree.enter directory .stay
        throw .isADirectory
      let location ← tree.enter directory step
      match tree.find? location with
      | some .directory => throw .isADirectory
      | _ => return tree.put location (.file contents)
    | _ =>
      let _ ← tree.enter directory step
      throw .isADirectory

end FileTree

end WireSchema
