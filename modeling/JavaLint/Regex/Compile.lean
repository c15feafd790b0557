import JavaLint.Regex.Basic
import JavaLint.Regex.Parser
/-!
# From written expressions to regular expressions

Flags decide what the parts of a written expression mean. They hold from where
they are set to the end of the group around them, also across alternatives.

## Main definitions

- `Regex.Flags` — the flags in force at a place
- `Regex.ofAst` — the meaning of a written expression
- `Regex.compile` — the regular expression that a text writes
-/

namespace JavaLint.Regex

/-- The flags in force at a place of an expression. -/
structure Flags where
  caseInsensitive : Bool := false
  multiLine : Bool := false
  dotMatchesNewLine : Bool := false
  unicode : Bool := true
  crlf : Bool := false
  deriving DecidableEq, Repr, Inhabited

/-- The flags after a list of flag items. -/
def Flags.update (flags : Flags) (items : List FlagItem) : Flags :=
  { caseInsensitive := (flagState? .caseInsensitive items true).getD flags.caseInsensitive
    multiLine := (flagState? .multiLine items true).getD flags.multiLine
    dotMatchesNewLine := (flagState? .dotMatchesNewLine items true).getD flags.dotMatchesNewLine
    unicode := (flagState? .unicode items true).getD flags.unicode
    crlf := (flagState? .crlf items true).getD flags.crlf }

/-- The set of a class of ASCII characters. -/
def asciiClassSet : AsciiClass → CharSet
  | .alnum => .unions [.range 0x30 0x39, .range 0x41 0x5A, .range 0x61 0x7A]
  | .alpha => .unions [.range 0x41 0x5A, .range 0x61 0x7A]
  | .ascii => .range 0 0x7F
  | .blank => .unions [.range 9 9, .range 0x20 0x20]
  | .cntrl => .unions [.range 0 0x1F, .range 0x7F 0x7F]
  | .digit => .range 0x30 0x39
  | .graph => .range 0x21 0x7E
  | .lower => .range 0x61 0x7A
  | .print => .range 0x20 0x7E
  | .punct => .unions [.range 0x21 0x2F, .range 0x3A 0x40, .range 0x5B 0x60, .range 0x7B 0x7E]
  | .space => CharSet.asciiBlanks
  | .upper => .range 0x41 0x5A
  | .word => CharSet.asciiWordChars
  | .xdigit => .unions [.range 0x30 0x39, .range 0x41 0x46, .range 0x61 0x66]

/-- The set of one of the classes `\d`, `\s` and `\w`. -/
def perlClassSet (unicode : Bool) : PerlClass → CharSet
  | .digit => if unicode then CharSet.digits else CharSet.asciiDigits
  | .space => if unicode then CharSet.blanks else CharSet.asciiBlanks
  | .word => if unicode then CharSet.wordChars else CharSet.asciiWordChars

/-- The name of a property or of a value, with what does not count in it removed. -/
def normalizedName (name : String) : String :=
  let cs := name.toList
  let marked := (cs.take 2).map Char.toLower == ['i', 's']
  let rest := if marked then cs.drop 2 else cs
  let kept := (rest.filter fun c => c.toNat < 128 && c != ' ' && c != '_' && c != '-').map
    Char.toLower
  if marked && kept == ['c'] then "isc" else String.ofList kept

/-- The set of a Unicode class. -/
def propertySet? : PropertyQuery → Option Unicode.Ranges
  | .named name =>
    let name := normalizedName name
    let isProperty := name != "cf" && name != "sc" && name != "lc"
    let property := if isProperty then Unicode.property? name else none
    property.or ((Unicode.category? name).or (Unicode.script? name))
  | .valued property value =>
    let value := normalizedName value
    match normalizedName property with
    | "gc" | "generalcategory" => Unicode.category? value
    | "sc" | "script" => Unicode.script? value
    | "scx" | "scriptextensions" => Unicode.scriptExtension? value
    | _ => none

/-- A set under the case flag. -/
def foldCase (flags : Flags) (set : CharSet) : CharSet :=
  if !flags.caseInsensitive then set
  else if flags.unicode then .folded set
  else .foldedAscii set

/-- A set under the case flag, or its complement. Without Unicode a complement
    would match parts of characters, which is refused. -/
def foldAndNegate (flags : Flags) (negated : Bool) (set : CharSet) : Except Error CharSet :=
  let set := foldCase flags set
  if !negated then .ok set
  else if flags.unicode then .ok (.compl set)
  else .error .invalidUtf8

/-- The set of `\d`, `\s` or `\w`, or its complement. -/
def perlSet (flags : Flags) (negated : Bool) (kind : PerlClass) : Except Error CharSet :=
  let set := perlClassSet flags.unicode kind
  if !negated then .ok set
  else if flags.unicode then .ok (.compl set)
  else .error .invalidUtf8

/-- The set of a Unicode class under the flags, or its complement. -/
def propertySet (flags : Flags) (negated : Bool) (query : PropertyQuery) :
    Except Error CharSet :=
  if !flags.unicode then .error .unicodeNotAllowed
  else match propertySet? query with
    | some ranges => foldAndNegate flags negated (.ranges ranges)
    | none => .error .unknownProperty

/-- Without Unicode, a character written as two hexadecimal digits is a byte,
    and one above 127 is refused. -/
def literalChar (flags : Flags) (l : Literal) : Except Error Char :=
  if !flags.unicode && l.hexByte && 127 < l.char.toNat then .error .invalidUtf8 else .ok l.char

/-- A character of a class; without Unicode it has to be ASCII. -/
def classChar (flags : Flags) (l : Literal) : Except Error Char := do
  let c ← literalChar flags l
  if !flags.unicode && 127 < c.toNat then throw .unicodeNotAllowed
  return c

mutual

/-- The set of the contents of a class. -/
def classSet (flags : Flags) : ClassSet → Except Error CharSet
  | .literal l => do return .single (← classChar flags l)
  | .range lo hi => do
    let lo ← classChar flags lo
    let hi ← classChar flags hi
    return .range lo.toNat hi.toNat
  | .ascii negated kind => foldAndNegate flags negated (asciiClassSet kind)
  | .perl negated kind => perlSet flags negated kind
  | .property negated query => propertySet flags negated query
  | .bracketed negated set => do foldAndNegate flags negated (← classSet flags set)
  | .union items => do return .unions (← classSets flags items)
  | .op kind lhs rhs => do
    let lhs := foldCase flags (← classSet flags lhs)
    let rhs := foldCase flags (← classSet flags rhs)
    match kind with
    | .intersection => return .inter lhs rhs
    | .difference => return .diff lhs rhs
    | .symmetricDifference => return .symmDiff lhs rhs

/-- The sets of the items of a class. -/
def classSets (flags : Flags) : List ClassSet → Except Error (List CharSet)
  | [] => return []
  | set :: rest => do
    let set ← classSet flags set
    return set :: (← classSets flags rest)

end

/-- The condition of an assertion under the flags. -/
def lookOf (flags : Flags) : Assertion → Look
  | .startLine =>
    if !flags.multiLine then .textStart else if flags.crlf then .lineStartCrlf else .lineStart
  | .endLine =>
    if !flags.multiLine then .textEnd else if flags.crlf then .lineEndCrlf else .lineEnd
  | .startText => .textStart
  | .endText => .textEnd
  | .wordBoundary => .wordBoundary !flags.unicode
  | .notWordBoundary => .notWordBoundary !flags.unicode
  | .wordStart => .wordStart !flags.unicode
  | .wordEnd => .wordEnd !flags.unicode
  | .wordStartHalf => .wordStartHalf !flags.unicode
  | .wordEndHalf => .wordEndHalf !flags.unicode

/-- The characters that a dot stands for. -/
def dotSet (flags : Flags) : Except Error CharSet :=
  if !flags.unicode then .error .invalidUtf8
  else if flags.dotMatchesNewLine then .ok .all
  else if flags.crlf then .ok (.compl (.union (.single '\n') (.single '\r')))
  else .ok (.compl (.single '\n'))

mutual

/-- The meaning of a written expression, and the flags after it. -/
def ofAst (flags : Flags) : Ast → Except Error (Regex × Flags)
  | .empty => .ok (.empty, flags)
  | .flags items => .ok (.empty, flags.update items)
  | .literal l => do
    let c ← literalChar flags l
    return (.chars (foldCase flags (.single c)), flags)
  | .dot => do return (.chars (← dotSet flags), flags)
  | .assertion a => .ok (.look (lookOf flags a), flags)
  | .perl negated kind => do return (.chars (← perlSet flags negated kind), flags)
  | .property negated query => do return (.chars (← propertySet flags negated query), flags)
  | .bracketed negated set => do
    return (.chars (← foldAndNegate flags negated (← classSet flags set)), flags)
  | .repetition ast min max => do
    let (r, after) ← ofAst flags ast
    return (.repetition r min max, after)
  | .group items ast => do
    let (r, _) ← ofAst (flags.update items) ast
    return (r, flags)
  | .alternation branches => do
    let (rs, after) ← ofAsts flags branches
    return (.alts rs, after)
  | .concat items => do
    let (rs, after) ← ofAsts flags items
    return (.concats rs, after)

/-- The meanings of a list of written expressions, each under the flags that
    the ones before it leave. -/
def ofAsts (flags : Flags) : List Ast → Except Error (List Regex × Flags)
  | [] => .ok ([], flags)
  | ast :: rest => do
    let (r, flags) ← ofAst flags ast
    let (rs, flags) ← ofAsts flags rest
    return (r :: rs, flags)

end

/-- The regular expression that a text writes. -/
def compile (text : String) : Except Error Regex := do
  let ast ← Ast.parse text
  let (r, _) ← ofAst {} ast
  if sizeLimit < r.compiledSize then throw .tooLarge
  return r

end JavaLint.Regex
