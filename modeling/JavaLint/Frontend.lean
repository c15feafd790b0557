import JavaLint.Tree
import JavaLint.Violation
/-!
# Source languages

A frontend turns the text of a source unit into a syntax tree.

## Main definitions

- `ParseError` — why a text has no tree
- `Frontend` — a source language
- `ParseError.violation`, `readViolation` — what is reported for a file that
  cannot be parsed or read
-/

namespace JavaLint

/-- Why a text has no tree. -/
inductive ParseError where
  /-- The text does not follow the grammar of the language. -/
  | badSyntax (position : Position) (message : String)
  /-- The grammar cannot be used. -/
  | badGrammar (message : String)
  /-- The parser gave up. -/
  | incomplete
  /-- The declarations of the text do not form a tree. -/
  | tree (cause : TreeError)
  deriving DecidableEq, Repr

namespace ParseError

/-- The text of a parse error. -/
def message : ParseError → String
  | .badSyntax position message => "syntax error at " ++ position.text ++ ": " ++ message
  | .badGrammar message => "failed to load grammar: " ++ message
  | .incomplete => "parser produced no tree"
  | .tree cause => cause.message

/-- The place of a parse error; one without a place of its own stands at the start. -/
def position : ParseError → Position
  | .badSyntax position _ => position
  | _ => ⟨1, 1⟩

end ParseError

/-- A source language. -/
structure Frontend where
  name : String
  /-- The extensions of its files, without the dot. -/
  extensions : List String
  /-- The syntax tree of a text, given the name of the unit and the tab width
      that columns use. -/
  parse : (unit source : String) → (tabWidth : UInt64) → Except ParseError Tree

/-- The code of the violations for files that cannot be checked. -/
def brokenFileCode : String := "SC001"

/-- The check that reports files that cannot be checked. -/
def brokenFileCheck : String := "parse-error"

/-- The violation for a file that cannot be checked. -/
def brokenFileViolation (path : String) (position : Position) (key text : String) : Violation :=
  .ofMessage brokenFileCode brokenFileCheck .error
    { file := path, line := position.line, column := position.column } key [text]

/-- The violation for a file that cannot be parsed. -/
def ParseError.violation (path : String) (e : ParseError) : Violation :=
  brokenFileViolation path e.position Message.parseError e.message

/-- The violation for a file that cannot be read. -/
def readViolation (path text : String) : Violation :=
  brokenFileViolation path ⟨1, 1⟩ Message.readError text

end JavaLint
