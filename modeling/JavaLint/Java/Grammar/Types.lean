import JavaLint.Java.Grammar.Rule
/-!
# Annotations, modifiers and types

## Main definitions

- `Java.Phrase.annotationUse`, `Java.Phrase.modifiers` — what stands before a declaration
- `Java.Phrase.type`, `Java.Phrase.typeParameters` — types
- `Java.Phrase.formalParameters` — the parameters of methods, constructors and lambdas
-/

namespace JavaLint.Java.Phrase

open Peg

/-! ## Annotations -/

/-- The values of an annotation in braces. -/
def elementArray : Phrase :=
  .node .phrase (all [.token "\x7b", sepBy "," (.rule .elementValue), opt (.token ","),
    .token "\x7d"])

/-- The value of an element of an annotation. -/
def elementValue : Phrase :=
  any [.rule .annotationUse, elementArray, expression]

/-- An element of an annotation with its value. -/
def elementPair : Phrase :=
  all [anyName, .token "=", .rule .elementValue]

/-- The elements of an annotation. -/
def elementList : Phrase :=
  any [all [.token "(", sepBy "," elementPair, .token ")"],
    all [.token "(", .rule .elementValue, .token ")"]]

/-- The mark of the declaration of an annotation type. -/
def annotationTypeMark : Phrase := glued ["@", "interface"]

/-- An annotation. -/
def annotationUse : Phrase :=
  .node .annotationUse (all [.notAhead annotationTypeMark, .token "@", .labelled .name qualifiedName,
    opt elementList])

/-- The word `sealed` is a modifier only before a declaration. -/
def sealedModifier : Phrase :=
  all [.token "sealed",
    .ahead (any [tokens modifierWords, tokens ["class", "interface", "@", "sealed", "non"]])]

/-- The modifiers of a declaration. -/
def modifiers : Phrase :=
  .node .modifiers (plus (any [.rule .annotationUse, tokens modifierWords, sealedModifier,
    glued ["non", "-", "sealed"]]))

/-- Modifiers that may be missing. -/
def anyModifiers : Phrase := opt (.rule .modifiers)

/-! ## Types -/

/-- Brackets after a type or name. -/
def dims : Phrase := .star (all [annotations, .token "[", .token "]"])

/-- A name with type arguments, if there are any. -/
def typeSegment (except : List String) : Phrase :=
  all [.name except, opt (.rule .typeArguments)]

/-- A type without brackets. -/
def simpleType : Phrase :=
  .node .phrase (any [tokens primitiveWords,
    all [typeSegment statementWords, .star (all [.token ".", annotations,
      typeSegment selectorWords])]])

/-- A type without annotations before it. -/
def plainType : Phrase := .node .phrase (all [simpleType, dims])

/-- A type. -/
def type : Phrase := all [annotations, plainType]

/-- A list of types. -/
def typeList : Phrase := sepBy1 "," (.rule .type)

/-- An argument of a generic type. -/
def typeArgument : Phrase :=
  all [annotations, any [all [.token "?", opt (all [tokens ["extends", "super"], .rule .type])],
    plainType]]

/-- The arguments of a generic type. -/
def typeArguments : Phrase :=
  .node .phrase (all [.token "<", sepBy "," typeArgument, .token ">"])

/-- A parameter of a generic declaration. -/
def typeParameter : Phrase :=
  all [annotations, anyName, opt (all [.token "extends", sepBy1 "&" (.rule .type)])]

/-- The parameters of a generic declaration. -/
def typeParameters : Phrase :=
  .node .phrase (all [.token "<", sepBy1 "," typeParameter, .token ">"])

/-! ## Variables and parameters -/

/-- The name of a variable with the brackets after it. -/
def variableName : Phrase := all [declaredName, dims]

/-- The initial value of a variable. -/
def initializer : Phrase := any [.rule .arrayInitializer, expression]

/-- A variable with its initial value. -/
def variableDeclarator : Phrase :=
  .node .variableDeclarator (all [variableName, opt (all [.token "=", initializer])])

/-- The variables of a declaration. -/
def variableDeclarators : Phrase :=
  sepBy1 "," (.labelled .declarator variableDeclarator)

/-- The end of a parameter. -/
def parameterEnd : Phrase := .ahead (tokens [",", ")"])

/-- A parameter. -/
def formalParameter : Phrase :=
  .node .formalParameter (all [anyModifiers, plainType, variableName, parameterEnd])

/-- A parameter that stands for any number of arguments. -/
def spreadParameter : Phrase :=
  .node .spreadParameter (all [anyModifiers, plainType, .token "...", annotations,
    variableDeclarator])

/-- The object that a method is called on, written as a parameter. -/
def receiverParameter : Phrase :=
  .node .receiverParameter (all [annotations, plainType, .star (all [anyName, .token "."]),
    .token "this", parameterEnd])

/-- The first parameter of a list. With an annotation before it, `this` is a name. -/
def firstParameter : Phrase :=
  any [all [.notAhead (.token "@"), receiverParameter], formalParameter, spreadParameter,
    receiverParameter]

/-- The parameters of a method, a constructor, a record or a lambda. -/
def formalParameters : Phrase :=
  .node .formalParameters (all [.token "(",
    opt (all [firstParameter, .star (all [.token ",", any [formalParameter, spreadParameter]])]),
    .token ")"])

end JavaLint.Java.Phrase
