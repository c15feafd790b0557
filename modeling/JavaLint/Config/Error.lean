import JavaLint.Scope
import JavaLint.Token
/-!
# Configuration errors

## Main definitions

- `ConfigError` — why a configuration is refused
- `ConfigError.message?` — the text of an error
-/

namespace JavaLint

/-- Why a configuration is refused. -/
inductive ConfigError where
  /-- The text is no TOML document of the expected shape. -/
  | malformed
  /-- No preset has this name. -/
  | unknownPreset (name : String)
  /-- The source of a name pattern is no regular expression. -/
  | invalidPattern (pattern : String)
  | unknownScope (name : String)
  | unknownToken (name : String)
  /-- The value of an option is not what its key expects. -/
  | invalidOption (key expected : String)
  /-- The section of a check is refused. -/
  | inCheck (check : String) (cause : ConfigError)
  deriving DecidableEq, Repr

namespace ConfigError

/-- What is said about a name that no preset has. -/
def unknownPresetMessage (name : String) : String :=
  "unknown preset '" ++ name ++ "'"

/-- The text of an error; errors in the grammar of TOML and of regular
    expressions have none of their own. -/
def message? : ConfigError → Option String
  | .malformed | .invalidPattern _ => none
  | .unknownPreset name => some ("Failed to parse config: " ++ unknownPresetMessage name)
  | .unknownScope name => some (Scope.unknownMessage name)
  | .unknownToken name => some (Token.unknownMessage name)
  | .invalidOption key expected => some ("option '" ++ key ++ "' must be " ++ expected)
  | .inCheck check cause => cause.message?.map fun text => "check '" ++ check ++ "': " ++ text

end ConfigError

end JavaLint
