import JavaLint.Java.Grammar.Expressions
/-!
# Statements

## Main definitions

- `Java.Phrase.statement` — statements
- `Java.Phrase.switchBlock` — the rules and groups of a switch
- `Java.Phrase.catchClause` — where the parameters of catch clauses stand
-/

namespace JavaLint.Java.Phrase

open Peg

/-- Statements in braces. -/
def block : Phrase :=
  .node .phrase (all [.token "\x7b", .star (.rule .statement), .token "\x7d"])

/-- An expression in parentheses. -/
def condition : Phrase := all [.token "(", expression, .token ")"]

/-- An expression as a statement. -/
def expressionStatement : Phrase :=
  .node .phrase (all [.notAhead (tokens clauseWords), expression, .token ";"])

/-- The declaration of local variables. -/
def localVariables : Phrase :=
  .node .phrase (all [anyModifiers, plainType, variableDeclarators, .token ";"])

/-! ## Switches -/

/-- What follows a pattern in a label. -/
def patternEnd : Phrase := .ahead (tokens ["->", ":", ",", "when"])

/-- A pattern in a label. -/
def labelPattern : Phrase :=
  any [all [recordPattern, patternEnd],
    all [anyModifiers, plainType, .name ["when"], patternEnd]]

/-- The label of a rule or group of a switch. -/
def switchLabel : Phrase :=
  any [all [.token "case", sepBy1 "," (any [labelPattern, .rule (.expression false)]),
      opt (all [.token "when", .rule (.expression false)])],
    .token "default"]

/-- A statement that throws an exception. -/
def throwStatement : Phrase :=
  .node .phrase (all [.token "throw", expression, .token ";"])

/-- A rule of a switch. -/
def switchRule : Phrase :=
  all [switchLabel, .token "->", any [.rule .block, throwStatement, expressionStatement]]

/-- A statement of a group of a switch. -/
def groupStatement : Phrase :=
  all [.notAhead (any [.token "case", all [.token "default", tokens [":", "->"]]]),
    .rule .statement]

/-- A group of a switch: labels with statements after them. -/
def switchGroup : Phrase :=
  all [plus (all [switchLabel, .token ":"]), .star groupStatement]

/-- The rules and groups of a switch. -/
def switchBlock : Phrase :=
  .node .phrase (all [.token "\x7b", .star (any [switchRule, switchGroup]), .token "\x7d"])

/-! ## Loops and exceptions -/

/-- The head of a loop over the elements of a collection. -/
def elementHead : Phrase :=
  all [anyModifiers, plainType, anyName, dims, .token ":", expression]

/-- The head of a loop with a counter. -/
def counterHead : Phrase :=
  all [any [localVariables, all [sepBy "," expression, .token ";"]], opt expression, .token ";",
    sepBy "," expression]

/-- A loop with a head in parentheses. -/
def forStatement : Phrase :=
  all [.token "for", .token "(",
    any [all [elementHead, .token ")"], all [counterHead, .token ")"]], .rule .statement]

/-- The parameter of a catch clause. -/
def catchParameter : Phrase :=
  .node .catchParameter (all [anyModifiers, .node .phrase (sepBy1 "|" plainType), variableName])

/-- A catch clause. -/
def catchClause : Phrase :=
  .node .catchClause (all [.token "catch", .token "(", catchParameter, .token ")",
    .labelled .body (.rule .block)])

/-- What is done at the end of a statement whatever happens in it. -/
def finallyClause : Phrase := all [.token "finally", .rule .block]

/-- A resource that is closed at the end of a statement. -/
def resource : Phrase :=
  any [all [anyModifiers, plainType, anyName, dims, .token "=", expression],
    all [any [.token "this", anyName], .star (all [.token ".", anyName])]]

/-- The resources of a statement. -/
def resources : Phrase :=
  all [.token "(", sepBy1 ";" resource, opt (.token ";"), .token ")"]

/-- A statement that catches exceptions. -/
def tryStatement : Phrase :=
  any [all [.token "try", resources, .rule .block, .star catchClause, opt finallyClause],
    all [.token "try", .rule .block,
      any [all [plus catchClause, opt finallyClause], finallyClause]]]

/-! ## All statements -/

/-- A statement that starts with a keyword of its own. -/
def keywordStatement : Phrase :=
  .node .phrase (any [
    all [.token "if", condition, .rule .statement, opt (all [.token "else", .rule .statement])],
    all [.token "while", condition, .rule .statement],
    forStatement,
    all [.token "do", .rule .statement, .token "while", condition, .token ";"],
    all [.token "assert", expression, opt (all [.token ":", expression]), .token ";"],
    all [tokens ["break", "continue"], opt anyName, .token ";"],
    all [.token "return", opt expression, .token ";"],
    all [.token "yield", expression, .token ";"],
    all [.token "synchronized", condition, .rule .block],
    tryStatement])

/-- A declaration of a package, or of what it imports or a module consists of. -/
def unitDeclaration : Phrase :=
  .node .phrase (any [
    all [annotations, .token "package", qualifiedName, .token ";"],
    all [.token "import", opt (all [.token "static", .notAhead (.token ".")]), qualifiedName,
      opt (all [.token ".", .token "*"]), .token ";"],
    all [annotations, opt (.token "open"), .token "module", qualifiedName, .token "\x7b",
      .star (all [tokens ["requires", "exports", "opens", "uses", "provides"],
        .star (all [tokens ["transitive", "static"], .notAhead (tokens [";", "."])]), qualifiedName,
        opt (all [tokens ["to", "with"], sepBy1 "," qualifiedName]), .token ";"]),
      .token "\x7d"]])

/-- A statement with a label. -/
def labelledStatement : Phrase :=
  .node .phrase (all [.name statementWords, .token ":", .rule .statement])

/-- A statement. -/
def statement : Phrase :=
  any [.rule .block, .token ";", .rule .typeDeclaration, unitDeclaration, keywordStatement,
    throwStatement, labelledStatement, switchPhrase, localVariables, expressionStatement]

end JavaLint.Java.Phrase
