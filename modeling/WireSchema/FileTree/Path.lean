import WireSchema.Text.Blank

/-! # Paths

A path is a text with slashes between its parts.  Paths are joined and taken apart as texts;
nothing in them is simplified.

* `Path.push` appends to a path.
* `Path.parent?` is the path of the directory that a path lies in.
* `Path.ancestors` is a path with all directories that it lies in, innermost first.
* `Path.components` are the parts of a path that say something about the place.
-/

namespace WireSchema.Path

def isAbsolute (path : String) : Bool :=
  path.toList.head? == some '/'

/-! ## Joining -/

/-- Appends to a path.  An absolute path replaces what is there; anything else follows after a
    slash, unless there is nothing before it or a slash already. -/
def push (path addition : String) : String :=
  if isAbsolute addition then addition
  else if path.isEmpty || path.toList.getLast? == some '/' then path ++ addition
  else path ++ "/" ++ addition

/-! ## Taking apart -/

/-- The parts between slashes, empty ones included. -/
def parts (cs : List Char) : List (List Char) :=
  Text.splitAt '/' cs

def joinParts : List (List Char) → List Char
  | [] => []
  | [part] => part
  | part :: rest => part ++ '/' :: joinParts rest

theorem joinParts_cons_cons (part next : List Char) (rest : List (List Char)) :
    joinParts (part :: next :: rest) = part ++ '/' :: joinParts (next :: rest) := rfl

/-- Putting the slashes back undoes taking a path apart. -/
theorem joinParts_parts (cs : List Char) : joinParts (parts cs) = cs := by
  induction cs with
  | nil => rfl
  | cons c cs ih =>
    have nonempty := Text.splitAt_ne_nil '/' cs
    simp only [parts, Text.splitAt] at ih ⊢
    cases h : Text.splitAt '/' cs with
    | nil => exact absurd h nonempty
    | cons piece more =>
      rw [h] at ih
      split
      · rename_i slash
        rw [joinParts_cons_cons, ih, slash]
        rfl
      · cases more with
        | nil => simpa [joinParts] using ih
        | cons next rest =>
          rw [joinParts_cons_cons] at ih ⊢
          simp [ih]

/-- Whether a part says nothing about the place: it is empty, or a single dot. -/
def isIdle (part : List Char) : Bool :=
  part == [] || part == ['.']

/-- Where a path starts, and the parts that follow: at the root, at a dot that names the
    working directory, or at the working directory without a word. -/
def anatomy : List Char → List Char × List (List Char)
  | '/' :: cs => (['/'], parts cs)
  | ['.'] => (['.'], [])
  | '.' :: '/' :: cs => (['.'], parts cs)
  | cs => ([], parts cs)

/-- A start followed by parts. -/
def assemble (start : List Char) (rest : List (List Char)) : List Char :=
  if start = ['.'] ∧ rest ≠ [] then ['.', '/'] ++ joinParts rest else start ++ joinParts rest

/-- The path without its last part, if it has one.  Slashes and single dots at the end do not
    count, and none of them remain; a dot at the start is a part of its own. -/
def parent? (path : String) : Option String :=
  let (start, body) := anatomy path.toList
  -- What is idle at the end is no last part, and none of it is left before the last part.
  match body.reverse.dropWhile isIdle with
  | [] => if start = ['.'] then some "" else none
  | _ :: rest => some (String.ofList (assemble start (rest.dropWhile isIdle).reverse))

/-- A path and the directories that it lies in, innermost first, down to the empty path and
    the root, which are left out.  `fuel` bounds their number. -/
def ancestorsWithin : (fuel : Nat) → String → List String
  | 0, _ => []
  | fuel + 1, path =>
    match parent? path with
    | none => []
    | some parent => path :: ancestorsWithin fuel parent

/-- A path and the directories that it lies in, innermost first, without the empty path and
    the root.  A parent is shorter than its path, so the bound is never reached. -/
def ancestors (path : String) : List String :=
  ancestorsWithin (path.length + 1) path

/-! ## Components -/

/-- What a path consists of when slashes and idle parts are left aside. -/
inductive Component where
  /-- A slash at the start. -/
  | root
  /-- A dot at the start. -/
  | here
  | up
  | name (name : String)
  deriving DecidableEq, Repr

/-- The component that a part after the start is, unless it is idle. -/
def component? (part : List Char) : Option Component :=
  match part with
  | [] => none
  | ['.'] => none
  | ['.', '.'] => some .up
  | cs => some (.name (String.ofList cs))

/-- The component that a start is, unless the path starts without a word. -/
def startComponents (start : List Char) : List Component :=
  if start = ['/'] then [.root] else if start = ['.'] then [.here] else []

def components (path : String) : List Component :=
  let (start, body) := anatomy path.toList
  startComponents start ++ body.filterMap component?

/-! ## Steps -/

/-- A step on the way that a path describes. -/
inductive Step where
  /-- Stays in the directory, which has to be one. -/
  | stay
  /-- Goes to the directory around it. -/
  | up
  | into (name : String)
  deriving DecidableEq, Repr

/-- The step that a part describes; an empty part describes none. -/
def step? (part : List Char) : Option Step :=
  match part with
  | [] => none
  | ['.'] => some .stay
  | ['.', '.'] => some .up
  | cs => some (.into (String.ofList cs))

def steps (path : String) : List Step :=
  (parts path.toList).filterMap step?

def endsInSlash (path : String) : Bool :=
  path.toList.getLast? == some '/'

end WireSchema.Path
