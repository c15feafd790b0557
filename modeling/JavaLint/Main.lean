import JavaLint.CommandLine
/-!
# The program

The program reads what a request can be about, lets `CommandLine.run` decide
what comes of it, and carries that out.

## Main definitions

- `Disk` — reads entries of a file tree
- `main` — the program

## Design notes

Only the files that can matter are read: configurations and ignore files in the
directories around the target, and ignore files and sources below it. A file
that cannot be read is left out. Links are followed on the way to the target
and not below it.
-/

namespace JavaLint.Disk

/-- The place that an absolute path names. -/
def placeOf (path : String) : Place :=
  (Path.components path).foldl (fun names step =>
    match step with
    | .name name => names ++ [name]
    | .parent => names.dropLast
    | .root | .current => names) []

/-- The absolute path of a place. -/
def pathOf (place : Place) : String :=
  "/" ++ Text.join "/" place

/-- The entry of the file at a place. -/
def file? (place : Place) : IO (List (Place × FileEntry)) := do
  try
    let bytes ← IO.FS.readBinFile (pathOf place)
    return [(place, .file bytes)]
  catch _ => return []

/-- The entries of the directory at a place, with those files of it that a run
    looks for by their name. -/
def directory (place : Place) : IO (List (Place × FileEntry)) := do
  let names := IgnoreFile.kinds true ++ ConfigOrigin.projectNames.map fun name => [name]
  let found ← names.mapM fun name => file? (place ++ name)
  return (place, .directory) :: found.flatten

/-- What stands at a path and at the paths above it, with what a run looks for there. -/
def around (path : String) : IO (List (Place × FileEntry)) := do
  let found ← (Path.ancestors path).mapM fun path => do
    let place := placeOf path
    try
      let real ← IO.FS.realPath path
      if ← real.isDir then directory place else file? place
    catch _ => return []
  return found.flatten

/-- What a directory with the given entries holds: directories, and the files
    that have one of the extensions. -/
partial def below (extensions : List String) (place : Place) (entries : List IO.FS.DirEntry) :
    IO (List (Place × FileEntry)) := do
  let found ← entries.mapM fun entry => do
    let inner := place ++ [entry.fileName]
    try
      match (← entry.path.symlinkMetadata).type with
      | .dir =>
        let rest ← below extensions inner (← entry.path.readDir).toList
        return (← directory inner) ++ rest
      | .file =>
        if (Path.extensionOf? entry.fileName).any extensions.contains then file? inner
        else return []
      | _ => return []
    catch _ => return []
  return found.flatten

/-- The entries below a path, if it leads to a directory. -/
def inside (extensions : List String) (path : String) : IO (List (Place × FileEntry)) := do
  try
    let real ← IO.FS.realPath path
    below extensions (placeOf path) (← real.readDir).toList
  catch _ => return []

/-- The tree of the entries. The last places come first, because a tree grows
    fastest at its front. -/
def treeOf (entries : List (Place × FileEntry)) : FileTree :=
  .ofList (entries.mergeSort fun a b => !decide (a.1 < b.1))

/-- The world of the program, as far as a check can be about it. -/
def forCheck (e : Environment) (config? : Option String) (request : CheckRequest) :
    IO Environment := do
  let user := (ConfigOrigin.userDirectory? e).map (Path.join · ConfigOrigin.userName)
  let paths := request.path :: (config?.toList ++ user.toList)
  let near := (← (e.directory :: paths.map e.absolute).mapM around).flatten
  let e := { e with files := treeOf near }
  let config := ((ConfigOrigin.find e request.path config?).load? e).getD {}
  let sources ← inside (Run.extensions config Java.frontend) (e.absolute request.path)
  return { e with files := treeOf (near ++ sources) }

/-- The world of the program, as far as a request can be about it. -/
def forArguments (arguments : List String) : IO Environment := do
  let settings ← ["STYLECHECK_CONFIG", "STYLECHECK_CONFIG_DIR", "HOME"].mapM fun name => do
    return (name, ← IO.getEnv name)
  let e : Environment :=
    { directory := (← IO.currentDir).toString
      files := .empty
      settings := settings.filterMap fun (name, value) => value.map (name, ·) }
  match Request.ofArguments (e.setting? "STYLECHECK_CONFIG") arguments with
  | .ok { config, command := .check request } => forCheck e config request
  | .ok _ => return { e with files := treeOf (← around e.directory) }
  | .error _ => return e

end JavaLint.Disk

/-- Runs the program and ends with its exit code. -/
def main (arguments : List String) : IO UInt32 := do
  let world ← JavaLint.Disk.forArguments arguments
  let outcome := JavaLint.CommandLine.run world arguments
  if let some (path, text) := outcome.written then IO.FS.writeFile path text
  IO.print outcome.stdout
  if let some message := outcome.error then IO.eprintln ("Error: " ++ message)
  return outcome.exit.toUInt32
