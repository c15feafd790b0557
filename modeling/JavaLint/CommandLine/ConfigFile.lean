import JavaLint.Config.Basic
import JavaLint.Files.FileTree
/-!
# The configuration file

The file that the command line names counts; without one, that of the project
around the files to check; without that, that of the user.

## Main definitions

- `Environment` — what a program sees of the world when it starts
- `ConfigOrigin` — where a configuration comes from
- `ConfigOrigin.find` — where the configuration for a target comes from
- `ConfigOrigin.load?` — the configuration itself
-/

namespace JavaLint

/-- What a program sees of the world when it starts. -/
structure Environment where
  /-- The absolute path of the directory that it is started in. -/
  directory : String
  files : FileTree
  settings : List (String × String) := []

namespace Environment

/-- The absolute form of a path. -/
def absolute (e : Environment) (path : String) : String :=
  Path.join e.directory path

/-- Is there a file at a path? -/
def isFile (e : Environment) (path : String) : Bool :=
  e.files.isFileAt (e.absolute path)

/-- Is there anything at a path? -/
def has (e : Environment) (path : String) : Bool :=
  (e.files.locate? (e.absolute path)).isSome

/-- The text of the file at a path. -/
def text? (e : Environment) (path : String) : Option String :=
  e.files.textAt? (e.absolute path)

/-- The value of a variable. -/
def setting? (e : Environment) (name : String) : Option String :=
  e.settings.lookup name

end Environment

/-- Where a configuration comes from. -/
inductive ConfigOrigin where
  /-- The command line names the file. -/
  | named (path : String)
  /-- The file stands in a directory around the files to check. -/
  | project (path : String)
  /-- The file stands in the directory for the settings of the user. -/
  | user (path : String)
  /-- There is no file. -/
  | standard
  deriving DecidableEq, Repr

namespace ConfigOrigin

/-- The names of the configuration file of a project, the preferred one first. -/
def projectNames : List String := ["stylecheck.toml", ".stylecheck.toml"]

/-- The name of the configuration file of the user. -/
def userName : String := "config.toml"

/-- The directory for the settings of the user. -/
def userDirectory? (e : Environment) : Option String :=
  match e.setting? "STYLECHECK_CONFIG_DIR", e.setting? "HOME" with
  | some directory, _ => some directory
  | none, none | none, some "" => none
  | none, some home => some (Path.join home ".stylecheck")

/-- The directory where the search for a configuration file starts: the target,
    or the directory of a target that is a file. -/
def start? (e : Environment) (target : String) : Option String :=
  if e.isFile target then Path.parent? target else some target

/-- The configuration file of the project around a target: that of the nearest
    directory that holds one, as far as the path of the target shows them. -/
def projectFile? (e : Environment) (target : String) : Option String :=
  (start? e target).bind fun start =>
    (Path.ancestors start).findSome? fun directory =>
      (projectNames.map (Path.join directory)).find? e.isFile

/-- The configuration file of the user. -/
def userFile? (e : Environment) : Option String :=
  ((userDirectory? e).map fun directory => Path.join directory userName).filter e.isFile

/-- Where the configuration for a target comes from. -/
def find (e : Environment) (target : String) (named? : Option String) : ConfigOrigin :=
  match named?, projectFile? e target, userFile? e with
  | some path, _, _ => .named path
  | none, some path, _ => .project path
  | none, none, some path => .user path
  | none, none, none => .standard

/-- The file of a configuration. -/
def path? : ConfigOrigin → Option String
  | .named path | .project path | .user path => some path
  | .standard => none

/-- The configuration itself. It is not there if its file is not, or is malformed. -/
def load? (e : Environment) (s : ConfigOrigin) : Option Config :=
  match s.path? with
  | none => some {}
  | some path => (e.text? path).bind fun text => (Config.parse text).toOption

end ConfigOrigin

end JavaLint
