import JavaLint.Config.Section
/-!
# Configurations

A configuration names a preset, says which files are checked and how, and
holds a section for each check that it sets up.

## Main definitions

- `CheckerSettings` — which files are checked, and how they are read
- `Config` — a configuration
- `Config.parse` — the configuration that a text writes
- `Config.isEnabled`, `Config.severity?` — what a configuration says about a check
-/

namespace JavaLint

/-- Which files are checked, and how they are read. -/
structure CheckerSettings where
  /-- The directory or file to check. -/
  root : String := "."
  /-- Patterns of the files that are not checked. -/
  exclude : List String := []
  /-- The extensions of the files that are checked, without the dot. -/
  extensions : List String := ["java"]
  /-- Are the files that `.gitignore` names left out? -/
  respectGitignore : Bool := true
  tabWidth : Nat := 8
  /-- Does the first file that cannot be read or parsed end the run? -/
  failOnParseError : Bool := false
  deriving DecidableEq, Repr, Inhabited

namespace CheckerSettings

/-- The patterns of build directories, which are left out where nothing else is said. -/
def buildDirectories : List String := ["**/target/**", "**/build/**"]

/-- The settings of a configuration that says nothing about them. -/
def standard : CheckerSettings := { exclude := buildDirectories }

/-- The names of the settings in a configuration, in order. -/
def keys : List String :=
  ["root", "exclude", "extensions", "respect_gitignore", "tab_width", "fail_on_parse_error"]

/-- The values that a TOML value gives to the settings, in order: the entries
    of a table, or the items of an array. -/
def values? : Toml → Option (List (Option Toml))
  | .table entries => some (keys.map fun key => entries.lookup key)
  | .array items => some ((List.range keys.length).map fun i => items[i]?)
  | _ => none

/-- A setting: what a reader finds in a value, and `default` where there is none. -/
def setting? {α : Type} (read : Toml → Option α) (default : α) : Option Toml → Option α
  | none => some default
  | some v => read v

/-- The settings that a TOML value writes. -/
def ofToml? (v : Toml) : Option CheckerSettings := do
  match ← values? v with
  | [root, exclude, extensions, gitignore, tab, fail] =>
    return { root := ← setting? Toml.text? "." root
             exclude := ← setting? Toml.texts? [] exclude
             extensions := ← setting? Toml.texts? ["java"] extensions
             respectGitignore := ← setting? Toml.flag? true gitignore
             tabWidth := ← setting? Toml.word? 8 tab
             failOnParseError := ← setting? Toml.flag? false fail }
  | _ => none

end CheckerSettings

/-- A configuration. -/
structure Config where
  preset : Option String := none
  checker : CheckerSettings := .standard
  /-- The sections of the checks, by their names. -/
  checks : KeyMap String Section := .empty
  deriving Inhabited

namespace Config

/-- The section of a check, if there is one. -/
def section? (c : Config) (check : String) : Option Section :=
  c.checks.get? check

/-- A check is enabled unless its section says otherwise. -/
def isEnabled (c : Config) (check : String) : Bool :=
  ((c.section? check).bind (·.enabled)).getD true

/-- The severity that the section of a check sets. -/
def severity? (c : Config) (check : String) : Option Severity :=
  (c.section? check).bind (·.severity)

/-- The sections of the checks that a TOML value writes. -/
def sectionsOf? (v : Toml) : Option (KeyMap String Section) := do
  let entries ← v.entries?
  let sections ← entries.mapM fun (name, v) => (Section.ofToml? v).map fun s => (name, s)
  return KeyMap.ofList sections

/-- The configuration that a TOML table writes. -/
def ofTable? (entries : TomlTable) : Option Config := do
  let preset ← Section.optional? Toml.text? (entries.lookup "preset")
  let checker ←
    CheckerSettings.setting? CheckerSettings.ofToml? .standard (entries.lookup "checker")
  let checks ← CheckerSettings.setting? sectionsOf? .empty (entries.lookup "checks")
  return { preset, checker, checks }

/-- The configuration that a text writes. -/
def parse (text : String) : Except ConfigError Config :=
  match (Toml.parse? text).bind ofTable? with
  | some c => .ok c
  | none => .error .malformed

end Config

end JavaLint
