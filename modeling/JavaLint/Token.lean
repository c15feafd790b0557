import JavaLint.Text.Blank
/-!
# Node tokens

A token is the coarse kind of a syntax node: checks say by token which nodes
they want to see.

## Main definitions

- `Token` — the twelve tokens
- `Token.ofName?` — the token with a given configuration name
-/

namespace JavaLint

/-- The coarse kind of a syntax node, by which checks choose their nodes. -/
inductive Token where
  | compilationUnit
  | classDef
  | interfaceDef
  | enumDef
  | annotationDef
  | recordDef
  | anonymousClass
  | methodDef
  | ctorDef
  | variableDef
  | lambda
  | parameterDef
  deriving DecidableEq, Repr, Inhabited

namespace Token

/-- Every token, in declaration order. -/
def all : List Token :=
  [.compilationUnit, .classDef, .interfaceDef, .enumDef, .annotationDef, .recordDef,
    .anonymousClass, .methodDef, .ctorDef, .variableDef, .lambda, .parameterDef]

/-- The name of a token in configuration files. -/
def name : Token → String
  | .compilationUnit => "COMPILATION_UNIT"
  | .classDef => "CLASS_DEF"
  | .interfaceDef => "INTERFACE_DEF"
  | .enumDef => "ENUM_DEF"
  | .annotationDef => "ANNOTATION_DEF"
  | .recordDef => "RECORD_DEF"
  | .anonymousClass => "ANONYMOUS_CLASS"
  | .methodDef => "METHOD_DEF"
  | .ctorDef => "CTOR_DEF"
  | .variableDef => "VARIABLE_DEF"
  | .lambda => "LAMBDA"
  | .parameterDef => "PARAMETER_DEF"

/-- The token with the given name; surrounding blanks and ASCII case do not matter. -/
def ofName? (s : String) : Option Token :=
  all.find? fun token => Text.sameIgnoringCase token.name (Text.trim s)

/-- What is said about a name that no token has. -/
def unknownMessage (s : String) : String :=
  "unknown token type '" ++ s ++ "'"

end Token

end JavaLint
