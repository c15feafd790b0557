import JavaLint.Config.Preset
/-!
# The checks of a configuration

A configuration is turned into registrations before any file is read, so that
all its errors show up first.

## Main definitions

- `Checks.build?` — the check with a given name, set up by a section
- `Checks.ofConfig` — the registrations that a configuration asks for
- `Checks.available` — every check, without settings
-/

namespace JavaLint.Checks

/-- The key of the option that lists the tokens of a check. -/
def tokensKey : String := "tokens"

/-- A check with the tokens that its section lists, all of which it must accept. -/
def withTokens (check : Check) (s : Section) : Except ConfigError Registration := do
  match ← s.tokens? tokensKey with
  | none => return { check }
  | some tokens => match tokens.find? fun token => decide (token ∉ check.acceptable) with
    | some token =>
      throw (.invalidOption (tokensKey ++ " (" ++ token.name ++ ")") "a list of acceptable tokens")
    | none => return { check, tokens := some tokens }

/-- The check with a given name, set up by a section. -/
def build? (name : String) (s : Section) : Except ConfigError (Option Registration) := do
  if name = ParameterName.name then
    let check ← ParameterName.ofSection s
    return some (← withTokens check.toCheck s)
  return none

/-- The section of a check: that of the configuration laid over that of the preset. -/
def sectionFor (c : Config) (name : String) (base : Section) : Section :=
  match c.section? name with
  | some user => base.overlay user
  | none => base

/-- Is a check among the selected ones? Without a selection all of them are. -/
def isSelected (only : Option (List String)) (name : String) : Bool :=
  only.all (·.contains name)

/-- The registration of a check of a preset, if it is selected and enabled. -/
def registration? (c : Config) (only : Option (List String)) (name : String) (base : Section) :
    Except ConfigError (Option Registration) :=
  let s := sectionFor c name base
  if !isSelected only name || s.enabled == some false then .ok none
  else (build? name s).mapError (.inCheck name)

/-- The registrations that a configuration asks for, by the names of the checks. -/
def ofConfig (c : Config) (only : Option (List String)) : Except ConfigError (List Registration) := do
  let preset ← Preset.ofConfig c
  let found ← preset.sections.entries.mapM fun (name, base) => registration? c only name base
  return found.filterMap id

/-- Every check, without settings. -/
def available : Except ConfigError (List Check) := do
  return [(← ParameterName.standard).toCheck]

end JavaLint.Checks
