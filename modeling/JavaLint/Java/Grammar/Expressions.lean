import JavaLint.Java.Grammar.Types
/-!
# Expressions

An expression is a row of operands with operators between them. Which operator
binds which operands makes no difference to declarations, except that the body
of a lambda reaches as far as it can, and that an object created within another
one is a step of the chain that leads to the outer object.

## Main definitions

- `Java.Phrase.expressionRow`, `Java.Phrase.operand` — expressions
- `Java.Phrase.lambda`, `Java.Phrase.objectCreation` — where declarations can stand
-/

namespace JavaLint.Java.Phrase

open Peg

/-! ## Literals, arguments and creation -/

/-- A text literal with the expressions in it. -/
def textLiteral : Phrase :=
  any [.lexeme .text,
    all [.lexeme .textOpen, expression, .star (all [.lexeme .textMiddle, expression]),
      .lexeme .textClose]]

/-- The arguments of a call. -/
def arguments : Phrase :=
  .node .phrase (all [.token "(", sepBy "," expression, .token ")"])

/-- The values of an array in braces. -/
def arrayInitializer : Phrase :=
  .node .phrase (all [.token "\x7b", sepBy "," initializer, opt (.token ","), .token "\x7d"])

/-- The creation of an object from the word `new` on. -/
def newObject : Phrase :=
  all [.token "new", annotations, opt (all [.rule .typeArguments, annotations]),
    .labelled .type simpleType, .rule .arguments, opt (.rule .classBody)]

/-- The creation of an object. -/
def objectCreation : Phrase := .node .objectCreation newObject

/-- The size of an array in brackets. -/
def arraySize : Phrase := all [annotations, .token "[", expression, .token "]"]

/-- The creation of an array. -/
def arrayCreation : Phrase :=
  .node .phrase (all [.token "new", annotations, simpleType,
    any [all [plus arraySize, dims],
      all [annotations, .token "[", .token "]", dims, .rule .arrayInitializer]]])

/-! ## Lambdas -/

/-- A lexeme that is no parenthesis. -/
def otherLexeme : Phrase :=
  all [.notAhead (tokens ["(", ")"]),
    any [.lexeme .word, .lexeme .mark, .lexeme .number, .lexeme .character, .lexeme .text,
      .lexeme .textOpen, .lexeme .textMiddle, .lexeme .textClose]]

/-- Lexemes between parentheses that match. -/
def parentheses : Phrase :=
  all [.token "(", .star (any [.rule .parentheses, otherLexeme]), .token ")"]

/-- A name where an operand starts. -/
def operandName : Phrase := .name operandWords

/-- What a lambda starts with. -/
def lambdaStart : Phrase :=
  .ahead (all [any [operandName, .rule .parentheses], .token "->"])

/-- The parameters of a lambda without types. -/
def inferredParameters : Phrase :=
  .node .inferredParameters (all [.token "(", sepBy1 "," anyName, .token ")"])

/-- A lambda. -/
def lambda : Phrase :=
  .node .lambda (all [lambdaStart,
    .labelled .parameters (any [operandName, inferredParameters, .rule .formalParameters]),
    .token "->", .labelled .body (any [.rule .block, .node .phrase expression])])

/-! ## Operands -/

/-- What can follow a type in parentheses for it to be a cast. -/
def castOperand : Phrase :=
  any [.name ["instanceof", "when"], .lexeme .number, .lexeme .character, .lexeme .text,
    .lexeme .textOpen, tokens ["(", "!", "~"]]

/-- A cast with what it is applied to. After a primitive type the operand may
    start with a sign. -/
def cast (lambdas : Bool) : Phrase :=
  any [all [.token "(", tokens primitiveWords, dims, .token ")", .rule (.operand lambdas)],
    all [.token "(", sepBy1 "&" (.rule .type), .token ")", .ahead castOperand,
      .rule (.operand lambdas)]]

/-- A type that a method or its class is taken from. -/
def typeReference : Phrase :=
  all [plainType, any [.ahead (.token "::"), all [.token ".", .token "class"]]]

/-- A switch over the value of an expression. -/
def switchPhrase : Phrase :=
  .node .phrase (all [.token "switch", .token "(", expression, .token ")", .rule .switchBlock])

/-- What a chain of selections starts with. -/
def chainStart : Phrase :=
  any [.lexeme .number, .lexeme .character, textLiteral, typeReference,
    tokens ["true", "false", "null", "this"], all [.token "super", .ahead (tokens [".", "::"])],
    objectCreation, arrayCreation, all [.token "(", expression, .token ")"],
    all [operandName, opt (.rule .arguments)]]

/-- A selection from what a chain has come to. -/
def selection : Phrase :=
  any [all [.token ".", opt (.rule .typeArguments), .name selectorWords, opt (.rule .arguments)],
    all [.token ".", tokens ["this", "super", "class"]], all [.token ".", textLiteral],
    all [.token "[", expression, .token "]"],
    all [.token "::", opt (.rule .typeArguments), any [.token "new", anyName]]]

/-- A chain of selections. The creation of an inner object takes in the chain
    that leads to its outer object. -/
def selectionChain : Phrase :=
  .chain chainStart selection .objectCreation (all [.token ".", newObject])

/-- An operand of an expression. -/
def operand (lambdas : Bool) : Phrase :=
  all [.star (tokens ["+", "-", "!", "~", "++", "--"]),
    any ((if lambdas then [lambda] else []) ++ [cast lambdas, switchPhrase, selectionChain]),
    .star (tokens ["++", "--"])]

/-! ## Operators -/

/-- The operators between two operands. -/
def operator : Phrase :=
  any [glued [">", ">", ">", "="], glued [">", ">", "="], glued [">", ">", ">"],
    glued [">", ">"], glued [">", "="],
    tokens ["=", "+=", "-=", "*=", "/=", "&=", "|=", "^=", "%=", "<<=", "*", "/", "%", "+", "-",
      "<<", "<", ">", "<=", "==", "!=", "&", "^", "|", "&&", "||"]]

/-- A pattern for the components of a record. -/
def recordPattern : Phrase :=
  all [simpleType, .token "(", sepBy "," (.rule .pattern), .token ")"]

/-- A pattern for a value. -/
def pattern : Phrase :=
  any [recordPattern, all [anyModifiers, plainType, anyName], .token "_"]

/-- A type or pattern that a value is compared with. -/
def typeTest : Phrase :=
  all [.token "instanceof", anyModifiers, any [recordPattern, all [plainType, opt anyName]]]

/-- An operator with what follows it. -/
def continuation (lambdas : Bool) : Phrase :=
  any [all [operator, .rule (.operand lambdas)], typeTest,
    all [.token "?", expression, .token ":", .rule (.operand lambdas)]]

/-- An expression: operands with operators between them. -/
def expressionRow (lambdas : Bool) : Phrase :=
  all [.rule (.operand lambdas), .star (continuation lambdas)]

end JavaLint.Java.Phrase
