import JavaLint.Check
import JavaLint.Naming.Rule
/-!
# The check of parameter names

The parameters of methods and constructors must have names that match a
pattern. Catch, lambda and receiver parameters are not looked at.

## Main definitions

- `ParameterName` — the check with its settings
- `ParameterName.ofSection` — the check that a section sets up
- `ParameterName.violation?` — the verdict on a node
- `ParameterName.toCheck` — the check as a run takes it
-/

namespace JavaLint

/-- The check of parameter names, with its settings. -/
structure ParameterName where
  rule : NamingRule
  severity : Severity := .error
  deriving DecidableEq, Repr, Inhabited

namespace ParameterName

/-- The code of the violations. -/
def code : String := "SC101"

/-- The name of the check. -/
def name : String := "parameter-name"

/-- What the check does, in one line. -/
def description : String := "Checks that parameter names match a pattern"

/-- The pattern that names must match where nothing else is said. -/
def defaultFormat : String := "^[a-z][a-zA-Z0-9]*$"

/-- The tokens that the check can process, all of which it also needs. -/
def tokens : List Token := [.parameterDef]

/-- The check that a section sets up. -/
def ofSection (s : Section) : Except ConfigError ParameterName := do
  return { rule := ← NamingRule.ofSection s defaultFormat }

/-- The check without any settings. -/
def standard : Except ConfigError ParameterName :=
  ofSection {}

/-- The check with another pattern. -/
def withFormat (p : ParameterName) (format : String) : Except ConfigError ParameterName := do
  return { p with rule.pattern := ← NamePattern.ofSource format }

/-- The check with another least visible scope. -/
def withScope (p : ParameterName) (scope : Scope) : ParameterName :=
  { p with rule.filter.floor := some scope }

/-- The check with another scope that is left out. -/
def withExcludeScope (p : ParameterName) (scope : Scope) : ParameterName :=
  { p with rule.filter.excluded := some scope }

/-- The check with or without the parameters of overriding methods. -/
def withIgnoreOverridden (p : ParameterName) (ignore : Bool) : ParameterName :=
  { p with rule.ignoreOverridden := ignore }

/-- The check with another severity. -/
def withSeverity (p : ParameterName) (severity : Severity) : ParameterName :=
  { p with severity }

/-- Is the name of a formal parameter subject to the check? -/
def covers (p : ParameterName) (t : Tree) (id : NodeId) : Bool :=
  p.rule.filter.accepts (t.resolvedScope id) &&
    !(p.rule.ignoreOverridden && t.belongsToOverride id)

/-- The violation at a node whose name does not match. -/
def violationAt (p : ParameterName) (u : SourceUnit) (node : TreeNode) : Violation :=
  .ofMessage code name p.severity (u.location node) Message.invalidPattern
    [node.ident, p.rule.pattern.source]

/-- The violation at a node, if it is a formal parameter that the check covers
    and whose name does not match. -/
def violation? (p : ParameterName) (u : SourceUnit) (id : NodeId) : Option Violation :=
  match u.tree.get? id with
  | none => none
  | some node =>
    if node.kind = .parameter .formal && p.covers u.tree id &&
        !p.rule.pattern.accepts node.ident then
      some (p.violationAt u node)
    else none

/-- The check as a run takes it. -/
def toCheck (p : ParameterName) : Check :=
  { name, code, description, severity := p.severity, acceptable := tokens, required := tokens,
    evaluate := p.violation? }

end ParameterName

end JavaLint
