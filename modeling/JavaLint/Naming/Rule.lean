import JavaLint.Config.Section
import JavaLint.Naming.Pattern
/-!
# Naming rules

What the checks of names have in common: a pattern, the range of scopes whose
declarations are checked, and whether overriding methods count.

## Main definitions

- `NamingRule` — a rule for names
- `NamingRule.ofSection` — the rule that a section sets up
-/

namespace JavaLint

/-- A rule for names. -/
structure NamingRule where
  pattern : NamePattern
  /-- The scopes whose declarations are checked. -/
  filter : ScopeFilter := {}
  /-- Are the declarations of overriding methods left out? -/
  ignoreOverridden : Bool := false
  deriving DecidableEq, Repr, Inhabited

namespace NamingRule

/-- The key of the pattern. -/
def formatKey : String := "format"

/-- The key of the least visible scope that is checked. -/
def scopeKey : String := "scope"

/-- The key of the scope that is left out, together with all more visible ones. -/
def excludeScopeKey : String := "excludeScope"

/-- The key of the switch for overriding methods. -/
def ignoreOverriddenKey : String := "ignoreOverridden"

/-- The rule that a section sets up. The options are read in the order of the
    keys above, and the first one that is refused decides. -/
def ofSection (s : Section) (defaultFormat : String) : Except ConfigError NamingRule := do
  let format ← s.text? formatKey
  let pattern ← NamePattern.ofSource (format.getD defaultFormat)
  let floor ← s.scope? scopeKey
  let excluded ← s.scope? excludeScopeKey
  let ignoreOverridden ← s.flag? ignoreOverriddenKey
  return { pattern, filter := ⟨floor, excluded⟩, ignoreOverridden := ignoreOverridden.getD false }

end NamingRule

end JavaLint
