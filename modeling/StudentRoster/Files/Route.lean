import StudentRoster.Files.Error

/-!
# Routes

A path is a text; a route is what the text says about the way through the tree of files: where it
starts, the names on it, and whether it claims to end at a directory. Runs of slashes count as one.
-/

set_option autoImplicit false

namespace StudentRoster

/-- The way that a path describes. -/
structure Route where
  /-- Whether the way starts at the root and not at the working directory. -/
  fromRoot : Bool
  /-- The names between the slashes, outermost first. -/
  names : List String
  /-- Whether a slash stands at the end. -/
  endsInSlash : Bool
  deriving DecidableEq, Repr

namespace Route

/-- The longest path in bytes. -/
def maxPathBytes : Nat := 4095

/-- The longest name in bytes. -/
def maxNameBytes : Nat := 255

/-- The route of a path. A path with a NUL, an empty one and one that is too long have none. -/
def ofPath (path : String) : Except FileError Route :=
  let text := path.toList
  if text.contains '\x00' then .error .nulInPath
  else if text.isEmpty then .error .notFound
  else if maxPathBytes < path.utf8ByteSize then .error .nameTooLong
  else .ok {
    fromRoot := text.head? == some '/'
    names := ((text.splitOn '/').filter (fun name => !name.isEmpty)).map String.ofList
    endsInSlash := text.getLast? == some '/' }

/-- The names without those for the place itself, which change nothing, but for one at the front
of a way from the working directory. -/
def plainNames (route : Route) : List String :=
  match route.names with
  | [] => []
  | name :: rest =>
    if name = "." ∧ !route.fromRoot then name :: rest.filter (· != ".")
    else (name :: rest).filter (· != ".")

/-- The routes to the places that the route passes, the nearest to its end first. The route itself,
the root and the working directory are not among them. -/
def passed (route : Route) : List Route :=
  let names := route.plainNames
  (List.range (names.length - 1)).reverse.map fun n =>
    { route with names := names.take (n + 1), endsInSlash := false }

end Route

/-- The path of a name in a directory. One slash comes between them, and none when the directory is
the empty path or ends in a slash. -/
def joinPath (directory name : String) : String :=
  if directory.isEmpty || directory.toList.getLast? == some '/' then directory ++ name
  else directory ++ "/" ++ name

end StudentRoster
