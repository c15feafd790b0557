import JavaLint.Config.Error
import JavaLint.Regex.Compile
/-!
# Name patterns

A name pattern is a regular expression that a whole name must match.

## Main definitions

- `NamePattern` — a pattern with its source text
- `NamePattern.ofSource` — the pattern with a given source
- `NamePattern.accepts` — does a whole name match?
-/

namespace JavaLint

/-- A pattern for whole names. `source` is the text it is written as, and
    `regex` matches a text if all of it matches the source. -/
structure NamePattern where
  source : String
  regex : Regex
  deriving DecidableEq, Repr, Inhabited

namespace NamePattern

/-- The source of a pattern as a group between the ends of the text. -/
def anchored (source : String) : String :=
  "^(?:" ++ source ++ ")$"

/-- The pattern with the given source. -/
def ofSource (source : String) : Except ConfigError NamePattern :=
  match Regex.compile (anchored source) with
  | .ok regex => .ok ⟨source, regex⟩
  | .error _ => .error (.invalidPattern source)

/-- Does the whole of a name match the pattern? -/
def accepts (p : NamePattern) (name : String) : Bool :=
  p.regex.isMatch name

end NamePattern

end JavaLint
