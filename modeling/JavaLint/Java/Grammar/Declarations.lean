import JavaLint.Java.Grammar.Statements
/-!
# Declarations

## Main definitions

- `Java.Phrase.typeDeclaration` — classes, interfaces, enums, records and annotation types
- `Java.Phrase.member` — the members of a class
- `Java.Phrase.program` — a whole source text
- `Java.grammar` — the rules
-/

namespace JavaLint.Java

namespace Phrase

open Peg

/-! ## Members -/

/-- The exceptions of a method. -/
def throwsClause : Phrase := all [.token "throws", typeList]

/-- The parameters of a method or constructor. -/
def parameterList : Phrase := .labelled .parameters (.rule .formalParameters)

/-- A method, with or without a body. -/
def method : Phrase :=
  .node .methodDeclaration (all [anyModifiers, opt (all [typeParameters, annotations]), plainType,
    declaredName, parameterList, dims, opt throwsClause,
    any [.labelled .body (.rule .block), .token ";"]])

/-- The object that the constructor of an outer class is called on. -/
def outerObject : Phrase :=
  all [any [.token "this", objectCreation, condition, all [operandName, opt (.rule .arguments)]],
    .star (all [.token ".", .name selectorWords, opt (.rule .arguments)])]

/-- The call of another constructor. -/
def constructorCall : Phrase :=
  .node .phrase (all [
    any [all [opt (.rule .typeArguments), tokens ["this", "super"]],
      all [outerObject, .token ".", opt (.rule .typeArguments), .token "super"]],
    .rule .arguments, .token ";"])

/-- The body of a constructor. -/
def constructorBody : Phrase :=
  .node .phrase (all [.token "\x7b", opt constructorCall, .star (.rule .statement), .token "\x7d"])

/-- The name of a constructor. -/
def constructorName : Phrase := .labelled .name (.name statementWords)

/-- A constructor. -/
def constructor : Phrase :=
  .node .constructorDeclaration (all [anyModifiers, opt typeParameters, constructorName,
    parameterList, opt throwsClause, .labelled .body constructorBody])

/-- A constructor of a record without parameters of its own. -/
def compactConstructor : Phrase :=
  .node .compactConstructor (all [anyModifiers, constructorName, .labelled .body (.rule .block)])

/-- The declaration of the fields of a class, or of the constants of an interface. -/
def fields (kind : CstKind) : Phrase :=
  .node kind (all [anyModifiers, plainType, variableDeclarators, .token ";"])

/-- A member of a class. -/
def member : Phrase :=
  any [.token ";", .rule .block, .node .phrase (all [.token "static", .rule .block]),
    .rule .typeDeclaration, constructor, compactConstructor, method, fields .fieldDeclaration]

/-- The body of a class. -/
def classBody : Phrase :=
  .node .classBody (all [.token "\x7b", .star (.rule .member), .token "\x7d"])

/-! ## Types -/

/-- The interfaces that a type implements. -/
def implementsClause : Phrase := opt (all [.token "implements", typeList])

/-- The types that may extend a type. -/
def permitsClause : Phrase := opt (all [.token "permits", typeList])

/-- A class. -/
def classDeclaration : Phrase :=
  .node .classDeclaration (all [anyModifiers, .token "class", declaredName, opt typeParameters,
    opt (all [.token "extends", .rule .type]), implementsClause, permitsClause,
    .labelled .body (.rule .classBody)])

/-- A member of an interface. -/
def interfaceMember : Phrase :=
  any [.token ";", .rule .typeDeclaration, method, fields .constantDeclaration]

/-- An interface. -/
def interfaceDeclaration : Phrase :=
  .node .interfaceDeclaration (all [anyModifiers, .token "interface", declaredName,
    opt typeParameters, opt (all [.token "extends", typeList]), permitsClause,
    .labelled .body (.node .phrase
      (all [.token "\x7b", .star interfaceMember, .token "\x7d"]))])

/-- A constant of an enum. -/
def enumConstant : Phrase :=
  .node .enumConstant (all [anyModifiers, .labelled .name (.name modifierWords),
    opt (.rule .arguments), opt (.labelled .body (.rule .classBody))])

/-- An enum. -/
def enumDeclaration : Phrase :=
  .node .enumDeclaration (all [anyModifiers, .token "enum", declaredName, implementsClause,
    .labelled .body (.node .phrase (all [.token "\x7b", sepBy "," enumConstant, opt (.token ","),
      opt (all [.token ";", .star (.rule .member)]), .token "\x7d"]))])

/-- A record. -/
def recordDeclaration : Phrase :=
  .node .recordDeclaration (all [anyModifiers, .token "record", declaredName, opt typeParameters,
    parameterList, implementsClause, .labelled .body (.rule .classBody)])

/-- An element of an annotation type. -/
def annotationElement : Phrase :=
  .node .phrase (all [anyModifiers, plainType, anyName, .token "(", .token ")", dims,
    opt (all [.token "default", .rule .elementValue]), .token ";"])

/-- An annotation type. -/
def annotationDeclaration : Phrase :=
  .node .annotationDeclaration (all [anyModifiers, annotationTypeMark, declaredName,
    .labelled .body (.node .phrase (all [.token "\x7b",
      .star (any [.rule .typeDeclaration, annotationElement, fields .constantDeclaration]),
      .token "\x7d"]))])

/-- What tells the declaration of a type from others. -/
def typeStart : Phrase :=
  .ahead (all [anyModifiers, any [tokens ["class", "interface", "enum"], annotationTypeMark,
    all [.token "record", anyName, tokens ["(", "<"]]]])

/-- The declaration of a type. -/
def typeDeclaration : Phrase :=
  all [typeStart, any [classDeclaration, interfaceDeclaration, enumDeclaration,
    annotationDeclaration, recordDeclaration]]

/-- A source text: statements and methods. -/
def program : Phrase :=
  .star (any [.rule .typeDeclaration, method, .rule .statement])

end Phrase

/-- What each rule stands for. -/
def grammar : Rule → Phrase
  | .annotationUse => Phrase.annotationUse
  | .elementValue => Phrase.elementValue
  | .modifiers => Phrase.modifiers
  | .type => Phrase.type
  | .typeArguments => Phrase.typeArguments
  | .pattern => Phrase.pattern
  | .expression true => Phrase.expressionRow true
  | .expression false => Phrase.expressionRow false
  | .operand true => Phrase.operand true
  | .operand false => Phrase.operand false
  | .parentheses => Phrase.parentheses
  | .arguments => Phrase.arguments
  | .arrayInitializer => Phrase.arrayInitializer
  | .switchBlock => Phrase.switchBlock
  | .formalParameters => Phrase.formalParameters
  | .block => Phrase.block
  | .statement => Phrase.statement
  | .typeDeclaration => Phrase.typeDeclaration
  | .classBody => Phrase.classBody
  | .member => Phrase.member

end JavaLint.Java
