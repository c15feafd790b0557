import JavaLint.Text.Digits
import JavaLint.Unicode.Property
/-!
# The lexemes of Java

A Java text is a row of lexemes with blanks and comments between them. A text
literal can hold expressions; it is then split into the parts around them.

## Main definitions

- `Java.Lexeme` — a lexeme with its place in the text
- `Java.lex` — the lexemes of a text

## Design notes

A `>` is always a lexeme of its own, since it may close a list of type
arguments; longer operators that start with it are put together by the
grammar. Words are not divided into keywords and names either.
-/

namespace JavaLint.Java

/-- The kinds of lexemes. -/
inductive LexemeKind where
  /-- A name or keyword. -/
  | word
  | number
  | character
  /-- A whole text literal. -/
  | text
  /-- A text literal up to its first expression. -/
  | textOpen
  /-- A text literal between two expressions. -/
  | textMiddle
  /-- A text literal after its last expression. -/
  | textClose
  /-- An operator or separator. -/
  | mark
  /-- Characters that start no lexeme. -/
  | invalid
  /-- A mark that the text lacks. -/
  | missing
  /-- A lexeme that has no place where it stands. -/
  | stray
  deriving DecidableEq, Repr, Inhabited

/-- A lexeme: its kind and text, and the bytes it takes. `gap` is where the
    lexeme or comment before it ends. -/
structure Lexeme where
  kind : LexemeKind
  text : String
  start : Nat
  stop : Nat
  gap : Nat
  deriving DecidableEq, Repr, Inhabited

/-- The number of bytes of a row of characters. -/
def byteLength (cs : List Char) : Nat :=
  cs.foldl (fun n c => n + c.utf8Size) 0

/-- The blanks between lexemes. -/
def isBlank (c : Char) : Bool :=
  c == ' ' || ('\t' ≤ c && c ≤ '\r')

/-- The characters that words start with. -/
def isWordStart (c : Char) : Bool :=
  c == '_' || c == '$' || Unicode.isIdentifierStart c

/-- The characters that words are made of. -/
def isWordPart (c : Char) : Bool :=
  c == '_' || c == '$' || c == '\u00a2' || Unicode.isIdentifierPart c

/-- The operators and separators, where a longer one stands before its own start. -/
def marks : List (List Char) :=
  ["...", "<<=", "->", "::", "++", "--", "&&", "||", "==", "!=", "<=", "+=", "-=", "*=", "/=",
    "&=", "|=", "^=", "%=", "<<", "(", ")", "\x7b", "\x7d", "[", "]", ";", ",", ".", "@", "=", ">",
    "<", "!", "~", "?", ":", "+", "-", "*", "/", "&", "|", "^", "%"].map String.toList

/-! ## Numbers -/

/-- The digits that a text starts with, and the underscores between them. -/
def digitRun (isDigit : Char → Bool) (cs : List Char) : List Char × List Char :=
  cs.span fun c => isDigit c || c == '_'

/-- The first character of a text if it is one of `options`. -/
def oneOf (options : List Char) : List Char → List Char × List Char
  | c :: rest => if options.contains c then ([c], rest) else ([], c :: rest)
  | [] => ([], [])

/-- The exponent that a text starts with, if there is one. -/
def exponentRun (letters : List Char) (cs : List Char) : List Char × List Char :=
  let (mark, rest) := oneOf letters cs
  let (sign, rest) := oneOf ['+', '-'] rest
  match mark, digitRun Char.isDigit rest with
  | [], _ | _, ([], _) => ([], cs)
  | _, (digits, rest) => (mark ++ sign ++ digits, rest)

/-- The fraction that a text starts with, if there is one. -/
def fractionRun (isDigit : Char → Bool) : List Char → List Char × List Char
  | '.' :: rest =>
    let (digits, rest) := digitRun isDigit rest
    ('.' :: digits, rest)
  | cs => ([], cs)

/-- The letters that can end a number. -/
def numberSuffixes : List Char := ['l', 'L', 'f', 'F', 'd', 'D']

/-- The number that follows `lead`, with the given digits and exponent letters. -/
def numberAfter (lead : List Char) (isDigit : Char → Bool) (letters : List Char) (cs : List Char) :
    List Char × List Char :=
  let (whole, rest) := digitRun isDigit cs
  let (fraction, rest) := fractionRun isDigit rest
  let (exponent, rest) := exponentRun letters rest
  let (suffix, rest) := oneOf numberSuffixes rest
  (lead ++ whole ++ fraction ++ exponent ++ suffix, rest)

/-- The number that a text starts with, and what follows it. -/
def number? : List Char → Option (List Char × List Char)
  | '0' :: x :: rest =>
    if x = 'x' || x = 'X' then some (numberAfter ['0', x] Text.isHexDigit ['p', 'P'] rest)
    else if x = 'b' || x = 'B' then some (numberAfter ['0', x] Char.isDigit [] rest)
    else some (numberAfter [] Char.isDigit ['e', 'E'] ('0' :: x :: rest))
  | '.' :: d :: rest =>
    if d.isDigit then some (numberAfter [] Char.isDigit ['e', 'E'] ('.' :: d :: rest)) else none
  | d :: rest =>
    if d.isDigit then some (numberAfter [] Char.isDigit ['e', 'E'] (d :: rest)) else none
  | [] => none

/-! ## Literals and comments -/

/-- The rest of a character literal after its opening quote, and what follows it. -/
def characterRest? : List Char → Option (List Char × List Char)
  | [] => none
  | '\'' :: rest => some (['\''], rest)
  | '\\' :: c :: rest =>
    (characterRest? rest).map fun (body, after) => ('\\' :: c :: body, after)
  | c :: rest =>
    if c = '\n' then none
    else (characterRest? rest).map fun (body, after) => (c :: body, after)

/-- A part of a text literal up to its end or to an expression in it: the
    characters of the part, whether an expression follows, and the rest. -/
def textPart? (block : Bool) : List Char → Option (List Char × Bool × List Char)
  | [] => none
  | '\\' :: '\x7b' :: rest => some (['\\', '\x7b'], true, rest)
  | '\\' :: c :: rest =>
    (textPart? block rest).map fun (body, more, after) => ('\\' :: c :: body, more, after)
  | '"' :: '"' :: '"' :: rest =>
    if block then some (['"', '"', '"'], false, rest) else some (['"'], false, '"' :: '"' :: rest)
  | c :: rest =>
    if c = '"' && !block then some (['"'], false, rest)
    else (textPart? block rest).map fun (body, more, after) => (c :: body, more, after)

/-- The rest of a block comment after its opening, and what follows it. -/
def blockCommentRest? : List Char → Option (List Char × List Char)
  | [] => none
  | '*' :: '/' :: rest => some (['*', '/'], rest)
  | c :: rest => (blockCommentRest? rest).map fun (body, after) => (c :: body, after)

/-- The comment that a text starts with, and what follows it. -/
def comment? : List Char → Option (List Char × List Char)
  | '/' :: '/' :: rest => some ('/' :: '/' :: rest.takeWhile (· != '\n'), rest.dropWhile (· != '\n'))
  | '/' :: '*' :: rest =>
    (blockCommentRest? rest).map fun (body, after) => ('/' :: '*' :: body, after)
  | _ => none

/-! ## Lexemes -/

/-- The expressions in text literals that are open at a place: for each,
    whether the literal spans lines, and how many braces are open in it. -/
abbrev Openings := List (Bool × Nat)

/-- A lexeme without its place. -/
structure Scanned where
  kind : LexemeKind
  chars : List Char
  rest : List Char
  openings : Openings

/-- A text literal after `lead`. -/
def scanText? (block : Bool) (lead : List Char) (closed opened : LexemeKind) (cs : List Char)
    (openings : Openings) : Option Scanned :=
  (textPart? block cs).map fun (body, more, rest) =>
    if more then ⟨opened, lead ++ body, rest, (block, 0) :: openings⟩
    else ⟨closed, lead ++ body, rest, openings⟩

/-- The openings after a mark; braces count only within an expression. -/
def Openings.after (mark : List Char) : Openings → Openings
  | [] => []
  | (block, depth) :: outer =>
    if mark = ['\x7b'] then (block, depth + 1) :: outer
    else if mark = ['\x7d'] then (block, depth - 1) :: outer
    else (block, depth) :: outer

/-- The mark that a text starts with. -/
def scanMark? (cs : List Char) (openings : Openings) : Option Scanned :=
  (marks.find? (·.isPrefixOf cs)).map fun mark =>
    ⟨.mark, mark, cs.drop mark.length, Openings.after mark openings⟩

/-- The lexeme that a text starts with. -/
def scan? (openings : Openings) (cs : List Char) : Option Scanned :=
  match cs with
  | [] => none
  | '"' :: '"' :: '"' :: rest => scanText? true ['"', '"', '"'] .text .textOpen rest openings
  | '"' :: rest => scanText? false ['"'] .text .textOpen rest openings
  | '\'' :: rest => (characterRest? rest).map fun (body, rest) =>
    ⟨.character, '\'' :: body, rest, openings⟩
  | c :: rest =>
    if isWordStart c then
      some ⟨.word, c :: rest.takeWhile isWordPart, rest.dropWhile isWordPart, openings⟩
    else match number? cs, openings with
      | some (digits, rest), _ => some ⟨.number, digits, rest, openings⟩
      | none, (block, 0) :: outer =>
        if c = '\x7d' then scanText? block [c] .textClose .textMiddle rest outer
        else scanMark? cs openings
      | none, _ => scanMark? cs openings

/-- The characters up to the next one that starts a lexeme or comment, without
    the blanks at their end. -/
def invalidRun (openings : Openings) : List Char → List Char
  | [] => []
  | c :: rest =>
    if isBlank c then
      match invalidRun openings rest with
      | [] => []
      | run => c :: run
    else if (comment? (c :: rest)).isSome || (scan? openings (c :: rest)).isSome then []
    else c :: invalidRun openings rest

/-- The lexemes of a text. -/
structure LexedText where
  lexemes : List Lexeme
  /-- Where the last lexeme or comment ends. -/
  gap : Nat
  deriving Repr, Inhabited

/-- The lexemes of the rest of a text that starts at byte `pos`, where the last
    lexeme or comment ended at byte `gap`. -/
def lexFrom : Nat → Openings → (pos gap : Nat) → List Char → LexedText
  | 0, _, _, gap, _ => ⟨[], gap⟩
  | _ + 1, _, _, gap, [] => ⟨[], gap⟩
  | fuel + 1, openings, pos, gap, c :: rest =>
    if isBlank c then
      let (blanks, rest) := rest.span isBlank
      lexFrom fuel openings (pos + 1 + blanks.length) gap rest
    else match comment? (c :: rest), scan? openings (c :: rest) with
      | some (comment, rest), _ =>
        let stop := pos + byteLength comment
        lexFrom fuel openings stop stop rest
      | none, some s =>
        let stop := pos + byteLength s.chars
        let more := lexFrom fuel s.openings stop stop s.rest
        { more with lexemes := ⟨s.kind, String.ofList s.chars, pos, stop, gap⟩ :: more.lexemes }
      | none, none =>
        let run := c :: invalidRun openings rest
        let stop := pos + byteLength run
        let more := lexFrom fuel openings stop stop ((c :: rest).drop run.length)
        { more with lexemes := ⟨.invalid, String.ofList run, pos, stop, gap⟩ :: more.lexemes }

/-- The byte length of the byte order mark that a text starts with, and the text after it. -/
def dropMark : List Char → Nat × List Char
  | '\ufeff' :: rest => (3, rest)
  | cs => (0, cs)

/-- The lexemes of a text; a byte order mark at its start does not count. -/
def lex (text : List Char) : LexedText :=
  let (pos, rest) := dropMark text
  lexFrom (rest.length + 1) [] pos pos rest

/-- Where the first lexeme or comment of a text starts. -/
def firstPlace (text : List Char) : Nat :=
  let (pos, rest) := dropMark text
  pos + (rest.takeWhile isBlank).length

end JavaLint.Java
