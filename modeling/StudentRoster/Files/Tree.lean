import StudentRoster.Files.Route

/-!
# Trees of files

The files that a run can see, as a value. A tree maps locations to files and directories; a way is
walked name by name, and a fault is the one that the first obstacle on the way causes. What the user
of the program may do at a location, and how much room a device has there, is part of the tree: the
first decides whether a file is opened, and the second whether what is written to it fits.
`node?_place_of_ne` says what a write does to the tree: it changes one location and no other.
-/

set_option autoImplicit false

namespace StudentRoster

-- The equality of bytes is that of core, whatever else is in scope.
attribute [local instance (high)] ByteArray.instDecidableEq

/-- What stands at a location. -/
inductive Node where
  | file (content : ByteArray)
  | directory
  deriving DecidableEq

/-- The names from a place up to the root, the innermost first, so that the tail of a location is
the directory that holds it. -/
abbrev Location := List String

/-- What the user of the program may do with what stands at a location. -/
structure Access where
  /-- The content may be read. -/
  read : Bool := true
  /-- The content of a file may be replaced. In a directory new names may come. -/
  write : Bool := true
  /-- A way may lead through the directory. -/
  pass : Bool := true
  deriving DecidableEq, Repr

/-- A tree of files with a working directory. The root is always a directory. -/
structure FileTree where
  workingDirectory : Location
  entries : List (Location × Node)
  /-- What may be done at the locations where something is forbidden. -/
  accesses : List (Location × Access) := []
  /-- The number of bytes for which there is room at the locations where it is bounded. -/
  rooms : List (Location × Nat) := []
  deriving DecidableEq

namespace FileTree

/-- A directory and those that hold it, the root left out. -/
def directoriesTo : Location → List (Location × Node)
  | [] => []
  | name :: holder => (name :: holder, .directory) :: directoriesTo holder

/-- The tree that has nothing but the working directory and the directories that hold it. -/
def empty (workingDirectory : Location) : FileTree where
  workingDirectory := workingDirectory
  entries := directoriesTo workingDirectory

/-- What stands at a location, if anything does. -/
def node? (tree : FileTree) (location : Location) : Option Node :=
  if location.isEmpty then some .directory else tree.entries.lookup location

/-- Whether a directory stands at a location. -/
def isDirectory (tree : FileTree) (location : Location) : Bool :=
  tree.node? location == some .directory

/-- What may be done at a location. -/
def access (tree : FileTree) (location : Location) : Access :=
  (tree.accesses.lookup location).getD {}

/-- The tree with this node at this location. -/
def place (tree : FileTree) (location : Location) (node : Node) : FileTree :=
  { tree with
    entries := (location, node) :: tree.entries.filter (fun entry => entry.1 != location) }

/-- One step of a way: from a directory to the thing of this name in it. -/
def enter (tree : FileTree) (here : Location) (name : String) : Except FileError Location :=
  if !tree.isDirectory here then .error .notDirectory
  else if !(tree.access here).pass then .error .permissionDenied
  else if name = "." then .ok here
  else if name = ".." then .ok here.tail
  else if Route.maxNameBytes < name.utf8ByteSize then .error .nameTooLong
  else if (tree.node? (name :: here)).isSome then .ok (name :: here)
  else .error .notFound

/-- Where a route starts. -/
def start (tree : FileTree) (route : Route) : Location :=
  if route.fromRoot then [] else tree.workingDirectory

/-- The location that a route leads to, if something stands there. Behind a slash at the end it has
to be a directory. -/
def follow (tree : FileTree) (route : Route) : Except FileError Location := do
  let location ← route.names.foldlM tree.enter (tree.start route)
  if route.endsInSlash && !tree.isDirectory location then .error .notDirectory else .ok location

/-- The location that a path denotes, if something stands there. -/
def locate (tree : FileTree) (path : String) : Except FileError Location := do
  tree.follow (← Route.ofPath path)

/-- Whether something stands where a path leads. -/
def hasPath (tree : FileTree) (path : String) : Bool :=
  (tree.locate path).isOk

/-- The content of the file that a path denotes. -/
def readBytes (tree : FileTree) (path : String) : Except FileError ByteArray := do
  let location ← tree.locate path
  if !(tree.access location).read then .error .permissionDenied
  else
    match tree.node? location with
    | some (.file content) => .ok content
    | some .directory => .error .isDirectory
    | none => .error .notFound

/-- The content of the file that a path denotes, as text. -/
def readText (tree : FileTree) (path : String) : Except FileError String := do
  match String.fromUTF8? (← tree.readBytes path) with
  | some text => .ok text
  | none => .error .notText

/-- The directory in which the last name of a route stands, and that name. A route without names
has none. -/
def lastStep (tree : FileTree) (route : Route) : Except FileError (Option (Location × String)) :=
  match route.names.getLast? with
  | none => .ok none
  | some name => do
    let parent ← route.names.dropLast.foldlM tree.enter (tree.start route)
    if !tree.isDirectory parent then .error .notDirectory
    else if !(tree.access parent).pass then .error .permissionDenied
    else .ok (some (parent, name))

/-- Whether a name stands for a directory that exists already. -/
def isDots (name : String) : Bool := name == "." || name == ".."

/-- Whether a file may be created at a location, or replaced if one stands there already. -/
def mayStore (tree : FileTree) (location : Location) : Bool :=
  if (tree.node? location).isSome then (tree.access location).write
  else (tree.access location.tail).write

/-- The location of the file that a write to this path creates or replaces. -/
def fileTarget (tree : FileTree) (path : String) : Except FileError Location := do
  let route ← Route.ofPath path
  match ← tree.lastStep route with
  | none => .error .isDirectory
  | some (parent, name) =>
    if route.endsInSlash || isDots name then .error .isDirectory
    else if Route.maxNameBytes < name.utf8ByteSize then .error .nameTooLong
    else if tree.isDirectory (name :: parent) then .error .isDirectory
    else if !tree.mayStore (name :: parent) then .error .permissionDenied
    else .ok (name :: parent)

/-- Whether there is room for a content at a location. -/
def hasRoom (tree : FileTree) (location : Location) (content : ByteArray) : Bool :=
  (tree.rooms.lookup location).all (fun room => content.size ≤ room)

/-- What is stored of a content at a location: as much as there is room for. -/
def stored (tree : FileTree) (location : Location) (content : ByteArray) : ByteArray :=
  match tree.rooms.lookup location with
  | none => content
  | some room => content.extract 0 room

/-- Creates the file that a path denotes, or replaces its content. The file is emptied when it is
opened. So a write that breaks off, because there is no room for all of the content, leaves the
first part of the content in the tree that is given back with the fault. -/
def writeBytes (tree : FileTree) (path : String) (content : ByteArray) :
    FileTree × Except FileError Unit :=
  match tree.fileTarget path with
  | .error cause => (tree, .error cause)
  | .ok location =>
    (tree.place location (.file (tree.stored location content)),
      if tree.hasRoom location content then .ok () else .error .noSpace)

/-- Makes the last directory of a route. -/
def makeDirectory (tree : FileTree) (route : Route) : Except FileError FileTree := do
  match ← tree.lastStep route with
  | none => .error .alreadyExists
  | some (parent, name) =>
    if isDots name then .error .alreadyExists
    else if Route.maxNameBytes < name.utf8ByteSize then .error .nameTooLong
    else if (tree.node? (name :: parent)).isSome then .error .alreadyExists
    else if !tree.mayStore (name :: parent) then .error .permissionDenied
    else .ok (tree.place (name :: parent) .directory)

/-- Whether a route leads to a directory. -/
def leadsToDirectory (tree : FileTree) (route : Route) : Bool :=
  match tree.follow route with
  | .ok location => tree.isDirectory location
  | .error _ => false

/-- Makes the directory of the first route. When the directory that holds it is missing, the rest of
the routes, which lead there, are made first. A directory that is there already is no fault. The
tree is given back also after a fault, since the directories made before it stay. -/
def makeDirectories (tree : FileTree) : List Route → FileTree × Except FileError Unit
  | [] => (tree, .ok ())
  | route :: holders =>
    match tree.makeDirectory route with
    | .ok tree => (tree, .ok ())
    | .error .notFound =>
      match tree.makeDirectories holders with
      | (tree, .error e) => (tree, .error e)
      | (tree, .ok ()) =>
        match tree.makeDirectory route with
        | .ok tree => (tree, .ok ())
        | .error e =>
          (tree, if e = .alreadyExists ∧ tree.leadsToDirectory route then .ok () else .error e)
    | .error e =>
      (tree, if e = .alreadyExists ∧ tree.leadsToDirectory route then .ok () else .error e)

/-- Makes the directory that a path denotes, and those on the way that are missing. The empty path
and the root need nothing. -/
def makePath (tree : FileTree) (path : String) : FileTree × Except FileError Unit :=
  if path.isEmpty then (tree, .ok ())
  else
    match Route.ofPath path with
    | .error e => (tree, .error e)
    | .ok route =>
      if route.plainNames.isEmpty then (tree, .ok ())
      else tree.makeDirectories (route :: route.passed)

/-- What may be done at a location does not depend on what stands there. -/
@[simp] theorem access_place (tree : FileTree) (location : Location) (node : Node) :
    (tree.place location node).access = tree.access := rfl

/-- The room at a location does not depend on what stands there. -/
@[simp] theorem hasRoom_place (tree : FileTree) (location : Location) (node : Node) :
    (tree.place location node).hasRoom = tree.hasRoom := rfl

/-- What is placed at a location stands there. -/
theorem node?_place_self {tree : FileTree} {location : Location} {node : Node}
    (h : location ≠ []) : (tree.place location node).node? location = some node := by
  simp [node?, place, h]

/-- A write changes one location and no other. -/
theorem node?_place_of_ne {tree : FileTree} {location other : Location} {node : Node}
    (h : other ≠ location) : (tree.place location node).node? other = tree.node? other := by
  have hfilter : ∀ entries : List (Location × Node),
      (entries.filter (fun entry => entry.1 != location)).lookup other = entries.lookup other := by
    intro entries
    induction entries with
    | nil => rfl
    | cons entry rest ih =>
      obtain ⟨key, value⟩ := entry
      by_cases he : key = location
      · have hne : (other == key) = false := by simpa [he] using h
        simp [he, List.lookup_cons, ih, he ▸ hne]
      · simp [he, List.lookup_cons, ih]
  unfold node?
  split
  · rfl
  · have : (other == location) = false := by simpa using h
    simp [place, List.lookup_cons, this, hfilter]

end FileTree

end StudentRoster
