import JavaLint.Override
import JavaLint.Scope.Resolution
import JavaLint.Violation
/-!
# Checks

A check looks at one node of a syntax tree at a time and reports at most one
violation. It says by token which nodes it wants to see.

## Main definitions

- `SourceUnit` — a syntax tree together with the path its violations are reported under
- `Check` — a check: its description and its verdict on a node
- `Registration` — a check with the tokens it was configured for
- `Registration.wanted` — the tokens whose nodes the check is handed
-/

namespace JavaLint

/-- A source unit under check: its tree, and the path that violations name. -/
structure SourceUnit where
  path : String
  tree : Tree

/-- The place of the name that a node declares. -/
def SourceUnit.location (u : SourceUnit) (node : TreeNode) : Location :=
  { file := u.path, line := node.position.line, column := node.position.column,
    offset := node.offset, length := node.ident.utf8ByteSize }

/-- A check. -/
structure Check where
  name : String
  code : String
  description : String := ""
  severity : Severity := .error
  /-- The tokens that the check can be configured for. -/
  acceptable : List Token
  /-- The tokens that the check sees unless it is configured otherwise. -/
  default : List Token := acceptable
  /-- The tokens that the check sees whatever its configuration says. -/
  required : List Token
  /-- The verdict on a node. -/
  evaluate : SourceUnit → NodeId → Option Violation

/-- A check with the tokens it is configured for, if any. -/
structure Registration where
  check : Check
  tokens : Option (List Token) := none

/-- Why the checks of a run cannot be combined. -/
inductive CheckSetError where
  /-- A check is configured for a token that it cannot process. -/
  | unacceptableToken (check : String) (token : Token)
  deriving DecidableEq, Repr

/-- What is said of checks that cannot be combined. -/
def CheckSetError.message : CheckSetError → String
  | .unacceptableToken check token =>
    "token " ++ token.name ++ " is not acceptable for check '" ++ check ++ "'"

/-- `token` at the end of `tokens`, unless it is there already. -/
def addToken (tokens : List Token) (token : Token) : List Token :=
  if token ∈ tokens then tokens else tokens ++ [token]

namespace Registration

/-- The configured tokens, or else the check's default ones. -/
def configured (r : Registration) : List Token :=
  r.tokens.getD r.check.default

/-- The tokens whose nodes the check is handed: the configured ones and the
    required ones, each once. A configured token must be acceptable. -/
def wanted (r : Registration) : Except CheckSetError (List Token) :=
  match r.configured.find? fun token => decide (token ∉ r.check.acceptable) with
  | some token => .error (.unacceptableToken r.check.name token)
  | none => .ok ((r.configured ++ r.check.required).foldl addToken [])

end Registration

end JavaLint
