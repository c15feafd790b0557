import JavaLint.Config.Basic
import JavaLint.Naming.ParameterName
/-!
# Presets

A preset is a set of sections that the sections of a configuration are laid over.

## Main definitions

- `Preset` — the presets
- `Preset.sections` — the sections that a preset starts from
- `Preset.ofConfig` — the preset that a configuration names
-/

namespace JavaLint

/-- The presets: every check as it comes, or only what is visible from outside. -/
inductive Preset where
  | recommended
  | minimal
  deriving DecidableEq, Repr, Inhabited

namespace Preset

/-- Every preset. -/
def all : List Preset := [.recommended, .minimal]

/-- The name of a preset in configurations. -/
def name : Preset → String
  | .recommended => "recommended"
  | .minimal => "minimal"

/-- The preset of a configuration that names none. -/
def standard : Preset := .recommended

/-- A name as presets are known by: without surrounding blanks and in lower case. -/
def normalName (s : String) : String :=
  Text.lowerAscii (Text.trim s)

/-- The preset with the given name. -/
def ofName? (s : String) : Option Preset :=
  all.find? (·.name == normalName s)

/-- The sections that a preset starts from. -/
def sections : Preset → KeyMap String Section
  | .recommended => .ofList [(ParameterName.name, {})]
  | .minimal => .ofList [(ParameterName.name,
      { options := .ofList [(NamingRule.scopeKey, .string Scope.pub.name),
          (NamingRule.ignoreOverriddenKey, .boolean true)] })]

/-- The preset that a configuration names. -/
def ofConfig (c : Config) : Except ConfigError Preset :=
  match c.preset with
  | none => .ok standard
  | some name => match ofName? name with
    | some preset => .ok preset
    | none => .error (.unknownPreset (normalName name))

end Preset

end JavaLint
