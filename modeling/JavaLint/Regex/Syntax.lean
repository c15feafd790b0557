/-!
# The syntax of regular expressions

Expressions as they are written, before flags are applied.

## Main definitions

- `Regex.Flag`, `Regex.FlagItem` — inline flags such as `(?i-u)`
- `Regex.ClassSet` — the contents of a bracketed class
- `Regex.Ast` — a written expression, and `Regex.Ast.depth`, how deep it nests
-/

namespace JavaLint.Regex

/-- A flag that an expression can set. -/
inductive Flag where
  | caseInsensitive
  | multiLine
  | dotMatchesNewLine
  | swapGreed
  | unicode
  | crlf
  | verbose
  deriving DecidableEq, Repr, Inhabited

/-- An item of a list of flags; the flags after `negation` are switched off. -/
inductive FlagItem where
  | negation
  | flag (flag : Flag)
  deriving DecidableEq, Repr, Inhabited

/-- What a list of flags says about one flag. -/
def flagState? (wanted : Flag) : List FlagItem → Bool → Option Bool
  | [], _ => none
  | .negation :: rest, _ => flagState? wanted rest false
  | .flag f :: rest, on => if f = wanted then some on else flagState? wanted rest on

/-- A named class of the ASCII characters, as in `[:alpha:]`. -/
inductive AsciiClass where
  | alnum | alpha | ascii | blank | cntrl | digit | graph | lower | print | punct | space
  | upper | word | xdigit
  deriving DecidableEq, Repr, Inhabited

/-- One of the classes `\d`, `\s` and `\w`. -/
inductive PerlClass where
  | digit
  | space
  | word
  deriving DecidableEq, Repr, Inhabited

/-- A Unicode class: a name, or a property with a value. -/
inductive PropertyQuery where
  | named (name : String)
  | valued (property value : String)
  deriving DecidableEq, Repr, Inhabited

/-- A literal character. `hexByte` marks one written as `\x` with two digits. -/
structure Literal where
  char : Char
  hexByte : Bool := false
  deriving DecidableEq, Repr, Inhabited

/-- The operations between the sets of a bracketed class. -/
inductive ClassOp where
  | intersection
  | difference
  | symmetricDifference
  deriving DecidableEq, Repr, Inhabited

/-- The contents of a bracketed class. -/
inductive ClassSet where
  | literal (l : Literal)
  | range (lo hi : Literal)
  | ascii (negated : Bool) (kind : AsciiClass)
  | perl (negated : Bool) (kind : PerlClass)
  | property (negated : Bool) (query : PropertyQuery)
  /-- A class within a class. -/
  | bracketed (negated : Bool) (set : ClassSet)
  | union (items : List ClassSet)
  | op (kind : ClassOp) (lhs rhs : ClassSet)
  deriving Repr, Inhabited

/-- The set of a list of items; a single item stands for itself. -/
def ClassSet.ofItems : List ClassSet → ClassSet
  | [item] => item
  | items => .union items

/-- The conditions on positions. -/
inductive Assertion where
  | startLine
  | endLine
  | startText
  | endText
  | wordBoundary
  | notWordBoundary
  | wordStart
  | wordEnd
  | wordStartHalf
  | wordEndHalf
  deriving DecidableEq, Repr, Inhabited

/-- A written expression. -/
inductive Ast where
  | empty
  /-- Flags for what follows in the same group. -/
  | flags (items : List FlagItem)
  | literal (l : Literal)
  | dot
  | assertion (a : Assertion)
  | perl (negated : Bool) (kind : PerlClass)
  | property (negated : Bool) (query : PropertyQuery)
  | bracketed (negated : Bool) (set : ClassSet)
  | repetition (ast : Ast) (min : Nat) (max : Option Nat)
  /-- A group with the flags that hold inside it. -/
  | group (items : List FlagItem) (ast : Ast)
  | alternation (branches : List Ast)
  | concat (items : List Ast)
  deriving Repr, Inhabited

/-- The concatenation of a list of expressions; a single one stands for itself. -/
def Ast.ofItems : List Ast → Ast
  | [] => .empty
  | [item] => item
  | items => .concat items

/-- The alternation of a list of branches; a single one stands for itself. -/
def Ast.ofBranches : List Ast → Ast
  | [] => .empty
  | [branch] => branch
  | branches => .alternation branches

mutual

/-- How deep a class nests. -/
def ClassSet.depth : ClassSet → Nat
  | .bracketed _ set => set.depth + 1
  | .union items => ClassSet.depths items + 1
  | .op _ lhs rhs => max lhs.depth rhs.depth + 1
  | _ => 0

/-- The greatest depth of a list of classes. -/
def ClassSet.depths : List ClassSet → Nat
  | [] => 0
  | set :: rest => max set.depth (ClassSet.depths rest)

end

mutual

/-- How deep an expression nests. -/
def Ast.depth : Ast → Nat
  | .bracketed _ set => set.depth + 1
  | .repetition ast _ _ => ast.depth + 1
  | .group _ ast => ast.depth + 1
  | .alternation branches => Ast.depths branches + 1
  | .concat items => Ast.depths items + 1
  | _ => 0

/-- The greatest depth of a list of expressions. -/
def Ast.depths : List Ast → Nat
  | [] => 0
  | ast :: rest => max ast.depth (Ast.depths rest)

end

/-- Expressions that nest deeper than this are refused. -/
def nestLimit : Nat := 250

/-- Why a text is no regular expression. -/
inductive Error where
  | groupUnopened
  | groupUnclosed
  | groupName
  | lookAround
  | flags
  | repetitionMissing
  | repetitionCount
  | escape
  | classUnclosed
  | classRange
  | classItem
  | nestedTooDeep
  | unknownProperty
  | unicodeNotAllowed
  | invalidUtf8
  | tooLarge
  deriving DecidableEq, Repr, Inhabited

end JavaLint.Regex
