import JavaLint.Regex.Syntax
import JavaLint.Text.Blank
import JavaLint.Unicode.Category
import JavaLint.Unicode.Property
/-!
# Reading regular expressions

The reader turns a text into a written expression. In verbose mode blanks and
comments between the items of an expression do not count.

## Main definitions

- `Regex.Reader` — the state of reading: the rest of the text, the mode and the names in use
- `Regex.Ast.parse` — the expression that a text writes

## Design notes

Each step of the reader takes a character off the text or ends a level, so a
bound of twice the length of the text is never reached.
-/

namespace JavaLint.Regex

/-- The state of reading an expression. -/
structure Reader where
  rest : List Char
  verbose : Bool := false
  names : List String := []

/-- A step of reading. -/
abbrev Read := StateT Reader (Except Error)

namespace Read

/-- The text without the line that it is in. -/
def dropLine : List Char → List Char
  | [] => []
  | c :: cs => if c = '\n' then cs else dropLine cs

/-- The text without leading blanks and comments, of which there are at most `fuel`. -/
def dropVerbose : Nat → List Char → List Char
  | 0, cs => cs
  | _ + 1, [] => []
  | fuel + 1, c :: cs =>
    if Text.isBlank c then dropVerbose fuel cs
    else if c = '#' then dropVerbose fuel (dropLine cs)
    else c :: cs

/-- Skips blanks and comments in verbose mode. -/
def skip : Read PUnit :=
  modify fun r =>
    if r.verbose then { r with rest := dropVerbose r.rest.length r.rest } else r

/-- The next character. -/
def peek? : Read (Option Char) :=
  return (← get).rest.head?

/-- Takes the next character off the text. -/
def bump : Read PUnit :=
  modify fun r => { r with rest := r.rest.tail }

/-- Takes the next character off the text, and then blanks and comments. -/
def bumpSkip : Read PUnit := do
  bump
  skip

/-- The next character, or an error at the end of the text. -/
def need (e : Error) : Read Char := do
  match ← peek? with
  | some c => return c
  | none => throw e

/-- Takes `word` off the text if the text starts with it. -/
def accept (word : String) : Read Bool := do
  let r ← get
  if word.toList.isPrefixOf r.rest then
    set { r with rest := r.rest.drop word.length }
    return true
  else return false

/-- The character after the next one, blanks and comments aside in verbose mode. -/
def peekAfter? : Read (Option Char) := do
  let r ← get
  let after := r.rest.tail
  return (if r.verbose then dropVerbose after.length after else after).head?

/-- The longest run of characters in `keep`; verbose blanks between them are dropped. -/
def run (keep : Char → Bool) : Nat → Read (List Char)
  | 0 => return []
  | fuel + 1 => do
    match ← peek? with
    | some c =>
      if keep c then
        bumpSkip
        return c :: (← run keep fuel)
      else return []
    | none => return []

/-- The longest run of characters in `keep` in the rest of the text. -/
def runAll (keep : Char → Bool) : Read (List Char) := do
  run keep (← get).rest.length

end Read

open Read

/-- The value of a hexadecimal digit of either case. -/
def hexDigit? (c : Char) : Option Nat :=
  if c.isDigit then some (c.toNat - '0'.toNat)
  else if 'a' ≤ c && c ≤ 'f' then some (c.toNat - 'a'.toNat + 10)
  else if 'A' ≤ c && c ≤ 'F' then some (c.toNat - 'A'.toNat + 10)
  else none

/-- The character with a code point, if the code point is one of a character. -/
def charOfNat? (n : Nat) : Option Char :=
  if n.isValidChar then some (Char.ofNat n) else none

/-- The value of a row of hexadecimal digits. -/
def hexNumber (digits : List Char) : Nat :=
  digits.foldl (fun n c => 16 * n + (hexDigit? c).getD 0) 0

/-- Reads exactly `count` hexadecimal digits. -/
def hexDigits : Nat → Read (List Char)
  | 0 => return []
  | count + 1 => do
    let c ← need .escape
    if (hexDigit? c).isNone then throw .escape
    bumpSkip
    return c :: (← hexDigits count)

/-- Reads the digits of a hexadecimal escape whose unbraced form has `count` digits. -/
def hexEscape (count : Nat) : Read Literal := do
  bumpSkip
  let braced := (← need .escape) == '\x7b'
  let digits ← if braced then do
      bumpSkip
      let digits ← runAll (· != '\x7d')
      let _ ← need .escape
      bumpSkip
      if digits.isEmpty || digits.any (fun c => (hexDigit? c).isNone) then throw .escape
      pure digits
    else hexDigits count
  match charOfNat? (hexNumber digits) with
  | some c => return ⟨c, !braced && count == 2⟩
  | none => throw .escape

/-- The text before and after the first place where `mark` stands. -/
def splitAtFirst? (mark : List Char) : List Char → Option (List Char × List Char)
  | [] => none
  | c :: cs =>
    if mark.isPrefixOf (c :: cs) then some ([], (c :: cs).drop mark.length)
    else (splitAtFirst? mark cs).map fun (before, after) => (c :: before, after)

/-- The query that the text between the braces of a Unicode class makes, and
    whether it is negated. -/
def propertyQuery (text : List Char) : Bool × PropertyQuery :=
  let query (p : List Char × List Char) :=
    PropertyQuery.valued (String.ofList p.1) (String.ofList p.2)
  match splitAtFirst? ['!', '='] text with
  | some p => (true, query p)
  | none => match splitAtFirst? [':'] text with
    | some p => (false, query p)
    | none => match splitAtFirst? ['='] text with
      | some p => (false, query p)
      | none => (false, .named (String.ofList text))

/-- Reads a Unicode class after its backslash. -/
def unicodeClass : Read (Bool × PropertyQuery) := do
  let negated := (← need .escape) == 'P'
  bumpSkip
  let c ← need .escape
  if c == '\x7b' then
    bumpSkip
    let text ← runAll (· != '\x7d')
    let _ ← need .escape
    bump
    let (flipped, query) := propertyQuery text
    return (negated != flipped, query)
  else if c == '\\' then throw .escape
  else
    bumpSkip
    return (negated, .named c.toString)

/-- The characters with a meaning of their own, which a backslash takes away. -/
def isMeta (c : Char) : Bool :=
  "\\.+*?()|[]\x7b\x7d^$#&-~".contains c

/-- The other characters that may follow a backslash and stand for themselves. -/
def isEscapable (c : Char) : Bool :=
  c.toNat < 128 && !c.isAlphanum && c != '<' && c != '>'

/-- The characters that a letter after a backslash stands for. -/
def controlEscape? : Char → Option Char
  | 'a' => some '\x07'
  | 'f' => some '\x0c'
  | 't' => some '\t'
  | 'n' => some '\n'
  | 'r' => some '\r'
  | 'v' => some '\x0b'
  | _ => none

/-- May the character stand in the name of a word boundary? -/
def isBoundaryNamePart (c : Char) : Bool :=
  c.isAlpha || c == '-'

/-- Reads the name of a word boundary up to the brace after it. -/
def wordBoundaryName : Read Assertion := do
  let name ← runAll isBoundaryNamePart
  if (← peek?) != some '\x7d' then throw .escape
  bump
  match String.ofList name with
  | "start" => return .wordStart
  | "end" => return .wordEnd
  | "start-half" => return .wordStartHalf
  | "end-half" => return .wordEndHalf
  | _ => throw .escape

/-- Reads what may follow `\b` in braces; a brace that starts a count is left alone. -/
def wordBoundaryKind : Read Assertion := do
  let saved ← get
  if (← peek?) != some '\x7b' then return .wordBoundary
  bumpSkip
  if !isBoundaryNamePart (← need .escape) then
    set saved
    return .wordBoundary
  wordBoundaryName

/-- The class that a letter stands for. -/
def perlClass? : Char → Option (Bool × PerlClass)
  | 'd' => some (false, .digit)
  | 'D' => some (true, .digit)
  | 's' => some (false, .space)
  | 'S' => some (true, .space)
  | 'w' => some (false, .word)
  | 'W' => some (true, .word)
  | _ => none

/-- Reads an escape from the character after its backslash on, which is `c`. -/
def escaped (c : Char) : Read Ast := do
  if c.isDigit then throw .escape
  match c with
  | 'x' => return .literal (← hexEscape 2)
  | 'u' => return .literal (← hexEscape 4)
  | 'U' => return .literal (← hexEscape 8)
  | 'p' | 'P' =>
    let (negated, query) ← unicodeClass
    return .property negated query
  | _ =>
    bump
    match perlClass? c, controlEscape? c with
    | some (negated, kind), _ => return .perl negated kind
    | none, some control => return .literal ⟨control, false⟩
    | none, none =>
      if isMeta c || isEscapable c then return .literal ⟨c, false⟩
      match c with
      | 'A' => return .assertion .startText
      | 'z' => return .assertion .endText
      | 'b' => return .assertion (← wordBoundaryKind)
      | 'B' => return .assertion .notWordBoundary
      | '<' => return .assertion .wordStart
      | '>' => return .assertion .wordEnd
      | _ => throw .escape

/-- Reads an escape, from its backslash on. -/
def escape : Read Ast := do
  bump
  escaped (← need .escape)

/-- The named ASCII classes. -/
def asciiClasses : List (String × AsciiClass) :=
  [("alnum", .alnum), ("alpha", .alpha), ("ascii", .ascii), ("blank", .blank),
    ("cntrl", .cntrl), ("digit", .digit), ("graph", .graph), ("lower", .lower),
    ("print", .print), ("punct", .punct), ("space", .space), ("upper", .upper),
    ("word", .word), ("xdigit", .xdigit)]

/-- The ASCII class whose name and end a text starts with, and the text after it. -/
def namedClass? (negated : Bool) (text : List Char) : Option (Bool × AsciiClass × List Char) :=
  let name := text.takeWhile (· != ':')
  match text.dropWhile (· != ':'), asciiClasses.lookup (String.ofList name) with
  | ':' :: ']' :: rest, some kind => some (negated, kind, rest)
  | _, _ => none

/-- The named ASCII class that a text starts with, and the text after it. -/
def asciiClass? : List Char → Option (Bool × AsciiClass × List Char)
  | '[' :: ':' :: '^' :: text => namedClass? true text
  | '[' :: ':' :: text => namedClass? false text
  | _ => none

/-- Reads one item of a class: a character or an escape. -/
def classItem : Read Ast := do
  let c ← need .classUnclosed
  if c == '\\' then escape
  else
    bump
    return .literal ⟨c, false⟩

/-- The item of a class as a set; assertions are none. -/
def classSetOf : Ast → Read ClassSet
  | .literal l => return .literal l
  | .perl negated kind => return .perl negated kind
  | .property negated query => return .property negated query
  | _ => throw .classItem

/-- Reads the hyphen and the end of a range that starts with the item `lo`. -/
def rangeTo (lo : Ast) : Read ClassSet := do
  bumpSkip
  let _ ← need .classUnclosed
  let hi ← classItem
  match lo, hi with
  | .literal lo, .literal hi =>
    if hi.char < lo.char then throw .classRange else return .range lo hi
  | _, _ => throw .classRange

/-- The set of the item `lo`, or of the range that starts with it if a hyphen follows. -/
def classRangeEnd (lo : Ast) : Read ClassSet := do
  let c ← need .classUnclosed
  let after ← peekAfter?
  if c != '-' || after == some ']' || after == some '-' then classSetOf lo else rangeTo lo

/-- Reads an item of a class or a range of two. -/
def classRange : Read ClassSet := do
  let lo ← classItem
  skip
  classRangeEnd lo

/-- The operator that two equal characters make. -/
def classOp? (c : Char) (after : Option Char) : Option ClassOp :=
  if after != some c then none
  else match c with
    | '&' => some .intersection
    | '-' => some .difference
    | '~' => some .symmetricDifference
    | _ => none

/-- The set before an operator or the end of a class, with what is pending before it. -/
def applyPending (pending : Option (ClassOp × ClassSet)) (items : List ClassSet) : ClassSet :=
  let set := ClassSet.ofItems items.reverse
  match pending with
  | some (op, lhs) => .op op lhs set
  | none => set

/-- Reads up to `fuel` hyphens, which stand for themselves. -/
def hyphens : Nat → Read (List ClassSet)
  | 0 => return []
  | fuel + 1 => do
    if (← need .classUnclosed) == '-' then
      bumpSkip
      return .literal ⟨'-', false⟩ :: (← hyphens fuel)
    else return []

/-- Reads the hyphens at the start of a class. -/
def leadingHyphens : Read (List ClassSet) := do
  hyphens (← get).rest.length

/-- Reads the opening of a class: is it negated, and its items that are written first. -/
def classOpening : Read (Bool × List ClassSet) := do
  bumpSkip
  let negated := (← need .classUnclosed) == '^'
  if negated then bumpSkip
  let first ← leadingHyphens
  if first.isEmpty && (← need .classUnclosed) == ']' then
    bumpSkip
    let _ ← need .classUnclosed
    return (negated, [.literal ⟨']', false⟩])
  else return (negated, first)

/-- Reads the rest of a class. `items` holds the items since the last operator,
    last first. -/
def classBody : Nat → Option (ClassOp × ClassSet) → List ClassSet → Read ClassSet
  | 0, _, _ => throw .classUnclosed
  | fuel + 1, pending, items => do
    skip
    let c ← need .classUnclosed
    if c == '[' then
      match asciiClass? (← get).rest with
      | some (negated, kind, rest) =>
        modify ({ · with rest })
        classBody fuel pending (.ascii negated kind :: items)
      | none =>
        let (negated, first) ← classOpening
        let inner ← classBody fuel none first
        classBody fuel pending (.bracketed negated inner :: items)
    else if c == ']' then
      bump
      return applyPending pending items
    else
      match classOp? c (← get).rest.tail.head? with
      | some op =>
        bump
        bump
        classBody fuel (some (op, applyPending pending items)) []
      | none =>
        let item ← classRange
        classBody fuel pending (item :: items)

/-- The flag of a letter. -/
def flag? : Char → Option Flag
  | 'i' => some .caseInsensitive
  | 'm' => some .multiLine
  | 's' => some .dotMatchesNewLine
  | 'U' => some .swapGreed
  | 'u' => some .unicode
  | 'R' => some .crlf
  | 'x' => some .verbose
  | _ => none

/-- Reads up to `fuel` flags, and checks that `:` or `)` ends them. -/
def flagItems : Nat → List FlagItem → Read (List FlagItem)
  | 0, _ => throw .flags
  | fuel + 1, items => do
    let c ← need .flags
    if c == ':' || c == ')' then
      if items.getLast? == some .negation then throw .flags else return items
    else
      let item ← if c == '-' then pure FlagItem.negation
        else match flag? c with
          | some f => pure (.flag f)
          | none => throw .flags
      if item ∈ items then throw .flags
      bump
      flagItems fuel (items ++ [item])

/-- Reads flags up to the character that ends them. -/
def flagsUpToEnd : Read (List FlagItem) := do
  flagItems ((← get).rest.length + 1) []

/-- May the character stand in the name of a group? -/
def isNamePart (first : Bool) (c : Char) : Bool :=
  c == '_' || Unicode.isAlphabetic c ||
    (!first && (c == '.' || c == '[' || c == ']' ||
      Unicode.categoryNd.contains c.toNat || Unicode.categoryNl.contains c.toNat ||
      Unicode.categoryNo.contains c.toNat))

/-- Reads the name of a group and the bracket that ends it. -/
def groupName : Read PUnit := do
  let r ← get
  let name := r.rest.takeWhile (· != '>')
  match r.rest.dropWhile (· != '>'), name with
  | _ :: rest, first :: others =>
    if !isNamePart true first || !others.all (isNamePart false) then throw .groupName
    let text := String.ofList name
    if text ∈ r.names then throw .groupName
    set { r with rest, names := text :: r.names }
  | _, _ => throw .groupName

/-- What an opening parenthesis starts: flags for what follows, or a group. -/
inductive Opening where
  | flags (items : List FlagItem)
  | group (items : List FlagItem)

/-- Does the text open a group that looks around, which there are none of? -/
def isLookAround (text : List Char) : Bool :=
  ["?=", "?!", "?<=", "?<!"].any fun word => word.toList.isPrefixOf text

/-- Reads the opening of a group. -/
def groupOpening : Read Opening := do
  bumpSkip
  if isLookAround (← get).rest then throw .lookAround
  if ← accept "?P<" then
    groupName
    return .group []
  if ← accept "?<" then
    groupName
    return .group []
  if ← accept "?" then
    let _ ← need .groupUnclosed
    let items ← flagsUpToEnd
    let c ← need .flags
    bump
    if c == ':' then return .group items
    else if items.isEmpty then throw .repetitionMissing
    else return .flags items
  return .group []

/-- Takes the item that a repetition applies to off the items, last first. -/
def repeated : List Ast → Read (Ast × List Ast)
  | [] => throw .repetitionMissing
  | .empty :: _ => throw .repetitionMissing
  | .flags _ :: _ => throw .repetitionMissing
  | item :: rest => return (item, rest)

/-- Reads the mark of a repetition that prefers fewer rounds. -/
def lazyMark : Read PUnit := do
  if (← peek?) == some '?' then bump

/-- The greatest count that a repetition may have. -/
def maxCount : Nat := 4294967295

/-- Reads a count, blanks around it aside. -/
def count? : Read (Option Nat) := do
  modify fun r => { r with rest := r.rest.dropWhile Text.isBlank }
  let digits ← runAll Char.isDigit
  modify fun r => { r with rest := r.rest.dropWhile Text.isBlank }
  if digits.isEmpty then return none
  let n := decimal digits
  if maxCount < n then throw .repetitionCount
  return some n
where
  /-- The value of a row of decimal digits. -/
  decimal (digits : List Char) : Nat :=
    digits.foldl (fun n c => 10 * n + (c.toNat - '0'.toNat)) 0

/-- Reads a counted repetition: its least and greatest count. -/
def counts : Read (Nat × Option Nat) := do
  bumpSkip
  let _ ← need .repetitionCount
  let first ← count?
  let c ← need .repetitionCount
  let bounds ← if c == ',' then do
      bumpSkip
      let after ← need .repetitionCount
      match first with
      | none => throw .repetitionCount
      | some least =>
        if after == '\x7d' then pure (least, none)
        else match ← count? with
          | none => throw .repetitionCount
          | some most => pure (least, some most)
    else match first with
      | none => throw .repetitionCount
      | some n => pure (n, some n)
  if (← need .repetitionCount) != '\x7d' then throw .repetitionCount
  bumpSkip
  lazyMark
  if bounds.2.any (· < bounds.1) then throw .repetitionCount
  return bounds

/-- Switches verbose mode as the flags say. -/
def setVerbose (items : List FlagItem) : Read PUnit :=
  modify fun r => { r with verbose := (flagState? .verbose items true).getD r.verbose }

/-- Reads the parenthesis that ends a group and goes back to the mode before it. -/
def closeGroup (outer : Bool) : Read PUnit := do
  if (← peek?) != some ')' then throw .groupUnclosed
  bump
  modify ({ · with verbose := outer })

/-- Reads alternatives up to a closing parenthesis or the end of the text.
    `branches` holds the finished ones and `items` the current one, last first. -/
def alternatives : Nat → List Ast → List Ast → Read Ast
  | 0, _, _ => throw .nestedTooDeep
  | fuel + 1, branches, items => do
    skip
    match ← peek? with
    | none | some ')' =>
      return Ast.ofBranches (Ast.ofItems items.reverse :: branches).reverse
    | some '|' =>
      bump
      alternatives fuel (Ast.ofItems items.reverse :: branches) []
    | some '(' =>
      match ← groupOpening with
      | .flags set =>
        setVerbose set
        alternatives fuel branches (.flags set :: items)
      | .group set =>
        let outer := (← get).verbose
        setVerbose set
        let inner ← alternatives fuel [] []
        closeGroup outer
        alternatives fuel branches (.group set inner :: items)
    | some '[' =>
      let (negated, first) ← classOpening
      let set ← classBody fuel none first
      alternatives fuel branches (.bracketed negated set :: items)
    | some '?' => repetition fuel branches items 0 (some 1)
    | some '*' => repetition fuel branches items 0 none
    | some '+' => repetition fuel branches items 1 none
    | some '\x7b' =>
      let (item, rest) ← repeated items
      let (least, most) ← counts
      alternatives fuel branches (.repetition item least most :: rest)
    | some '\\' =>
      let item ← escape
      alternatives fuel branches (item :: items)
    | some '.' =>
      bump
      alternatives fuel branches (.dot :: items)
    | some '^' =>
      bump
      alternatives fuel branches (.assertion .startLine :: items)
    | some '$' =>
      bump
      alternatives fuel branches (.assertion .endLine :: items)
    | some c =>
      bump
      alternatives fuel branches (.literal ⟨c, false⟩ :: items)
where
  /-- Applies an operator without a count to the last item. -/
  repetition (fuel : Nat) (branches items : List Ast) (least : Nat) (most : Option Nat) :
      Read Ast := do
    let (item, rest) ← repeated items
    bump
    lazyMark
    alternatives fuel branches (.repetition item least most :: rest)

/-- The expression that a text writes. -/
def Ast.parse (text : String) : Except Error Ast := do
  let chars := text.toList
  let (ast, reader) ← StateT.run (alternatives (2 * chars.length + 2) [] []) { rest := chars }
  if !reader.rest.isEmpty then throw .groupUnopened
  if nestLimit < ast.depth then throw .nestedTooDeep
  return ast

end JavaLint.Regex
