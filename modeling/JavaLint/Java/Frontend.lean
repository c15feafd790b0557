import JavaLint.Frontend
import JavaLint.Java.Extraction
import JavaLint.Java.Program
/-!
# The Java frontend

## Main definitions

- `Java.syntaxError` — the error for a flaw of a concrete syntax tree
- `Java.parseWith`, `Java.parse` — the declarations of a text
- `Java.frontendWith`, `Java.frontend` — Java as a source language

## Design notes

The grammar is a parameter: declarations are found in whatever concrete syntax
tree it has for a text.
-/

namespace JavaLint.Java

/-- The first line of a text without the blanks around it. -/
def firstLine (cs : List Char) : String :=
  String.ofList (Text.stripChars Text.isBlank (cs.takeWhile (· != '\n')))

/-- What is said of a flaw. -/
def flawMessage (s : Source) (flaw : Cst) : String :=
  if flaw.isMissing then "missing " ++ flaw.kind.label
  else "unexpected '" ++ firstLine (s.rawText flaw) ++ "'"

/-- The error for the first flaw of a tree that has one. -/
def syntaxError (s : Source) (program : Cst) : ParseError :=
  match program.firstFlaw? with
  | some flaw => .badSyntax (s.position flaw.start) (flawMessage s flaw)
  | none => .badSyntax (s.position program.start) "invalid syntax"

/-- The declarations of a program, which must not have flaws. -/
def declarations (s : Source) (unit : String) (program : Cst) : Except ParseError Tree :=
  if program.hasFlaw then .error (syntaxError s program)
  else (s.declarations unit program).mapError .tree

/-- The declarations of a text, whose concrete syntax tree `grammar` has. -/
def parseWith (grammar : List Char → Cst) (unit source : String) (tabWidth : UInt64) :
    Except ParseError Tree :=
  let s := Source.ofText source tabWidth
  declarations s unit (grammar s.chars)

/-- The declarations of a text. -/
def parse (unit source : String) (tabWidth : UInt64) : Except ParseError Tree :=
  parseWith Program.ofText unit source tabWidth

/-- Java as a source language, read by a given grammar. -/
def frontendWith (grammar : List Char → Cst) : Frontend :=
  { name := "java", extensions := ["java"], parse := parseWith grammar }

/-- Java as a source language. -/
def frontend : Frontend :=
  frontendWith Program.ofText

end JavaLint.Java
