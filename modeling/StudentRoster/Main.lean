import StudentRoster.Program

/-!
# The command

The outer layer of the program. It reads the places that a run can look at into a tree of files,
runs the program on it, writes back what is new in the tree, and shows the outcome. Names on a way
are taken as they are written, so that two dots lead back over a symbolic link to where it stands.
-/

set_option autoImplicit false

namespace StudentRoster.Main

/-- The location of an absolute path. -/
def locationOf (path : String) : Location :=
  (((path.toList.splitOn '/').filter (fun name => !name.isEmpty)).map String.ofList).reverse

/-- The absolute path of a location. -/
def pathOf (location : Location) : String :=
  "/" ++ "/".intercalate location.reverse

/-- One step of a way, whether or not something stands there. -/
def step (here : Location) (name : String) : Location :=
  if name = "." then here else if name = ".." then here.tail else name :: here

/-- The locations that a way passes, from a location on. -/
def passed (here : Location) : List String → List Location
  | [] => []
  | name :: names => step here name :: passed (step here name) names

/-- The locations that a path passes. -/
def locationsOf (workingDirectory : Location) (path : String) : List Location :=
  match Route.ofPath path with
  | .error _ => []
  | .ok route => passed (if route.fromRoot then [] else workingDirectory) route.names

/-- The paths that a command line makes a run look at. -/
def pathsOf (environment : Environment) (arguments : List String) : List String :=
  match CommandLine.parse arguments with
  | .ok (.run invocation) =>
    let settings := match Settings.directory environment.places with
      | .ok directory => [directory, Settings.filePath directory]
      | .error _ => []
    settings ++ invocation.options.inputs ++ invocation.options.output.toList
  | _ => []

/-- Whether the system allows something, as far as that is known from trying it. -/
def isAllowed {α : Type} (trial : IO α) : IO Bool := do
  try
    discard trial
    return true
  catch
    | .permissionDenied .. => return false
    | _ => return true

/-- Puts what stands at a location into a tree, and whether a file may be read and written. A file
is opened to append to it for this, which changes nothing. -/
def capture (tree : FileTree) (location : Location) : IO FileTree := do
  try
    let path ← IO.FS.realPath (pathOf location)
    if ← path.isDir then return tree.place location .directory
    else if ← path.pathExists then
      let read ← isAllowed (IO.FS.readBinFile path)
      let write ← isAllowed (IO.FS.Handle.mk path .append)
      let content ← if read then IO.FS.readBinFile path else pure ByteArray.empty
      let tree := tree.place location (.file content)
      return { tree with accesses := (location, { read, write }) :: tree.accesses }
    else return tree
  catch _ => return tree

/-- Writes what stands at a location of a tree. -/
def restore (location : Location) : Node → IO Unit
  | .directory => IO.FS.createDirAll (pathOf location)
  | .file content => IO.FS.writeBinFile (pathOf location) content

/-- Writes a diagnostic to its stream. -/
def tell : Diagnostic → IO Unit
  | .event event => IO.eprintln event.line
  | .text text => IO.eprint text

/-- The home directory that the system has noted for the user of the process. -/
def notedHome? : IO (Option String) := do
  try
    let status ← IO.FS.lines "/proc/self/status"
    let some user := (status.toList.find? (·.startsWith "Uid:")).bind
      fun line => (line.splitOn "\t")[1]? | return none
    let entries := (← IO.FS.lines "/etc/passwd").toList.map (·.splitOn ":")
    return (entries.find? fun entry => entry[2]? == some user).bind (·[5]?)
  catch _ => return none

/-- The directory that the platform has for the settings of the program: one in the user's directory
of settings, which is named by a variable if that holds an absolute path, and is else a hidden one
in the home directory. A user without a home directory has none. -/
def platformDirectory? : IO (Option String) := do
  let home? := (← IO.getEnv "HOME").filter (fun path => !path.isEmpty)
  let some home ← if home?.isSome then pure home? else notedHome? | return none
  let named? := (← IO.getEnv "XDG_CONFIG_HOME").filter (fun path => path.startsWith "/")
  return some (joinPath (named?.getD (joinPath home ".config")) "roster")

/-- What the surroundings of the process say. -/
def environment : IO Environment := do
  let plain := (← IO.getEnv "NO_COLOR").isSome
  return {
    places := {
      override := ← IO.getEnv "ROSTER_CONFIG_DIR"
      platform := ← platformDirectory? }
    color := !plain && (← (← IO.getStdout).isTty)
    log := ← IO.getEnv "ROSTER_LOG" }

end StudentRoster.Main

open StudentRoster in
/-- Runs the program with the arguments of the process. -/
def main (arguments : List String) : IO UInt32 := do
  let environment ← Main.environment
  let workingDirectory := Main.locationOf (← IO.FS.realPath ".").toString
  let locations :=
    (Main.pathsOf environment arguments).flatMap (Main.locationsOf workingDirectory)
  let before ← locations.foldlM Main.capture (FileTree.empty workingDirectory)
  let outcome := Program.execute environment arguments before
  for (location, node) in outcome.tree.entries.reverse do
    if before.node? location != some node then Main.restore location node
  IO.print outcome.output
  for diagnostic in outcome.diagnostics do Main.tell diagnostic
  return UInt32.ofNat outcome.exitCode
