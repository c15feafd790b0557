import JavaLint.CommandLine.Arguments
import JavaLint.CommandLine.ConfigFile
import JavaLint.Java.Frontend
import JavaLint.Run
/-!
# The command line

## Main definitions

- `CommandLine.Outcome` — what a start of the program comes to
- `CommandLine.check`, `CommandLine.listChecks`, `CommandLine.init` — the commands
- `CommandLine.run` — the program
-/

namespace JavaLint.CommandLine

/-- What a start of the program comes to. -/
structure Outcome where
  exit : Nat := 0
  stdout : String := ""
  /-- What the program complains about. -/
  error : Option String := none
  /-- The file that the program writes, by its path, and its text. -/
  written : Option (String × String) := none
  deriving DecidableEq, Repr

/-- The outcome of a command that fails. -/
def failed (message : String) : Outcome :=
  { exit := 1, error := some message }

/-- Lines of output. -/
def unlines (lines : List String) : String :=
  String.join (lines.map (· ++ "\n"))

/-- The version of the program. -/
def version : String := "stylecheck 0.1.0"

/-- How the program is used. -/
def usage : List String :=
  ["Naming-convention checker for Java sources", "",
    "Usage: stylecheck [OPTIONS] <COMMAND>", "",
    "Commands:",
    "  check        Run style checks",
    "  list-checks  List available checks",
    "  init         Initialize configuration file",
    "  help         Print this message", "",
    "Options:",
    "  -v, --verbose          Enable verbose output",
    "  -c, --config <CONFIG>  Path to configuration file",
    "  -h, --help             Print help",
    "  -V, --version          Print version"]

/-! ## Checking -/

/-- The checks that a list of names and codes selects; unknown ones select none. -/
def selectedChecks (filter : String) : Except ConfigError (List String) := do
  let known ← Checks.available
  let wanted := ((Text.splitCommas filter).map Text.trim).filter (· != "")
  return wanted.filterMap fun name =>
    (known.find? fun c => c.name == name || Text.sameIgnoringCase c.code name).map (·.name)

/-- The registrations that a configuration and a request ask for. -/
def registrations (c : Config) (request : CheckRequest) :
    Except ConfigError (List Registration) := do
  let only ← request.checks.mapM selectedChecks
  Checks.ofConfig c only

/-- The run that a request asks for. -/
def setup (c : Config) (request : CheckRequest) (registrations : List Registration) :
    Run.Setup :=
  { root := some request.path
    registrations
    frontend := some Java.frontend
    excludes := request.excludes
    config := c
    failOnParseError := if request.failOnParseError then some true else none }

/-- The text of a file of a run, by the path that violations name. -/
def source? (e : Environment) (root file : String) : Option String :=
  e.files.textAt? (if e.files.isFileAt root then root else Path.join root file)

/-- Checks files. -/
def check (e : Environment) (named? : Option String) (request : CheckRequest) : Outcome :=
  let source := ConfigOrigin.find e request.path named?
  match source.load? e with
  | none => failed ("Failed to load config: " ++ source.path?.getD "")
  | some c => match registrations c request with
    | .error _ => failed "Invalid check configuration"
    | .ok rs => match Run.ofSetup e.directory (setup c request rs) with
      | .error _ => failed "Failed to build analyzer"
      | .ok r => match r.findings e.files with
        | .error _ => failed "Analysis failed"
        | .ok f =>
          { exit := if f.hasErrors then 1 else 0
            stdout := Report.render (source? e r.selection.root) request.format f }

/-! ## The list of checks -/

/-- A text with spaces at its end up to the given width. -/
def padded (width : Nat) (text : String) : String :=
  text ++ String.ofList (List.replicate (width - text.length) ' ')

/-- A row of the table of checks. -/
def checkRow (code name severity description : String) : String :=
  padded 8 code ++ " " ++ padded 18 name ++ " " ++ padded 9 severity ++ " " ++ description

/-- The row of a check. -/
def rowOf (c : Check) : String :=
  checkRow c.code c.name c.severity.name
    (c.description ++ " (tokens: " ++ Text.join ", " (c.acceptable.map Token.name) ++ ")")

/-- The line of a preset. -/
def presetLine (p : Preset) (summary : String) : String :=
  "  " ++ padded 12 p.name ++ " - " ++ summary

/-- Lists the checks and presets. -/
def listChecks : Outcome :=
  match Checks.available with
  | .error _ => failed "Invalid check configuration"
  | .ok checks =>
    { stdout := unlines (
        ["Available checks:", "", checkRow "Code" "Name" "Severity" "Description",
          String.ofList (List.replicate 80 '-')] ++
        checks.map rowOf ++
        ["", "Presets:",
          presetLine .recommended "every check, default options (default)",
          presetLine .minimal "public API only, overriding methods skipped", "",
          "Use --checks to filter specific checks, e.g.:",
          "  stylecheck check --checks parameter-name",
          "  stylecheck check --checks SC101"]) }

/-! ## A first configuration -/

/-- The name of the configuration file that is written. -/
def configName : String := "stylecheck.toml"

/-- The configuration that is written. -/
def initialConfig : List String :=
  ["# stylecheck configuration",
    "",
    "# Starting point for check options: \"recommended\" or \"minimal\"",
    "preset = \"recommended\"",
    "",
    "[checker]",
    "# Root directory to analyze (default: current directory)",
    "# root = \"./src\"",
    "",
    "# Glob patterns to exclude from analysis",
    "exclude = [",
    "    \"**/target/**\",",
    "    \"**/build/**\",",
    "    \"**/generated/**\",",
    "]",
    "",
    "# File extensions to check",
    "extensions = [\"java\"]",
    "",
    "# Respect .gitignore files",
    "respect_gitignore = true",
    "",
    "# Columns a tab advances to",
    "tab_width = 8",
    "",
    "# Abort instead of reporting unparseable files",
    "fail_on_parse_error = false",
    "",
    "# Check configurations",
    "# Each check can be enabled/disabled and have its severity overridden",
    "",
    "[checks.parameter-name]",
    "enabled = true",
    "# severity = \"warning\"",
    "format = \"^[a-z][a-zA-Z0-9]*$\"",
    "# Least visible scope checked: public, protected, package, private, anoninner",
    "# scope = \"private\"",
    "# Scope that, with every more visible one, is skipped",
    "# excludeScope = \"public\"",
    "ignoreOverridden = false"]

/-- Writes a first configuration into the directory of the program. One that is
    there already is replaced only if that is forced. -/
def init (e : Environment) (force : Bool) : Outcome :=
  if e.has configName && !force then
    failed ("Configuration file already exists at " ++ configName ++
      ". Use --force to overwrite.")
  else if e.has configName && !e.isFile configName then failed "Is a directory (os error 21)"
  else
    { stdout := unlines ["Created " ++ configName, "", "Next steps:",
        "  1. Edit " ++ configName ++ " to configure checks", "  2. Run: stylecheck check"]
      written := some (e.absolute configName, unlines initialConfig) }

/-! ## The program -/

/-- What the program does when it is started with a list of arguments. -/
def run (e : Environment) (arguments : List String) : Outcome :=
  match Request.ofArguments (e.setting? "STYLECHECK_CONFIG") arguments with
  | .error .misuse => { exit := 2 }
  | .error .help => { stdout := unlines usage }
  | .error .version => { stdout := version ++ "\n" }
  | .ok request => match request.command with
    | .check r => check e request.config r
    | .listChecks => listChecks
    | .init force => init e force

end JavaLint.CommandLine
