import JavaLint.Java.Peg
/-!
# The rules of the Java grammar

## Main definitions

- `Java.Rule` — the rules that refer to each other
- `Java.operandWords`, `Java.statementWords` — the words that are no names where an
  operand or a statement starts

## Design notes

A word is a keyword only where the grammar asks for that keyword. Elsewhere it
is a name like any other: `int class;` declares a variable called `class`.
-/

namespace JavaLint.Java

/-- The rules of the grammar that refer to each other. -/
inductive Rule where
  | annotationUse
  | elementValue
  | modifiers
  | type
  | typeArguments
  | pattern
  /-- An expression. Without `lambdas`, none stands at its top: the arrow after
      the label of a switch rule belongs to the rule. -/
  | expression (lambdas : Bool)
  | operand (lambdas : Bool)
  /-- Lexemes between parentheses that match. -/
  | parentheses
  | arguments
  | arrayInitializer
  | switchBlock
  | formalParameters
  | block
  | statement
  | typeDeclaration
  | classBody
  | member
  deriving DecidableEq, Repr, Inhabited

/-- Parsing expressions over the rules of Java. -/
abbrev Phrase := Peg Rule

/-- The words that name primitive types, and the word for no type. -/
def primitiveWords : List String :=
  ["byte", "short", "int", "long", "char", "float", "double", "boolean", "void"]

/-- The words that are modifiers of declarations. -/
def modifierWords : List String :=
  ["public", "protected", "private", "abstract", "static", "final", "strictfp", "default",
    "synchronized", "native", "transient", "volatile"]

/-- The words that are no names where an operand starts. -/
def operandWords : List String :=
  ["this", "super", "new", "switch", "null", "true", "false"] ++ primitiveWords

/-- The words that start a statement which is no expression. -/
def clauseWords : List String :=
  modifierWords ++ ["package", "import", "class", "interface", "enum", "assert", "if", "while",
    "for", "do", "break", "continue", "return", "throw", "try"]

/-- The words that are no names where a statement or a type starts. -/
def statementWords : List String :=
  clauseWords ++ operandWords

/-- The words that are no names after a point. -/
def selectorWords : List String :=
  ["new", "this", "super", "class"]

namespace Phrase

open Peg

/-- A name. -/
def anyName : Phrase := .name []

/-- The name that a declaration declares. -/
def declaredName : Phrase := .labelled .name anyName

/-- An expression. -/
def expression : Phrase := .rule (.expression true)

/-- Names with points between them. -/
def qualifiedName : Phrase := .node .phrase (sepBy1 "." anyName)

/-- Any number of annotations. -/
def annotations : Phrase := .star (.rule .annotationUse)

end Phrase

end JavaLint.Java
