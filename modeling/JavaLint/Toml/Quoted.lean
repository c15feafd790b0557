import JavaLint.Text.Digits
/-!
# TOML strings

There are four kinds of strings: basic ones with escapes and literal ones
without, each on one line or over several lines. Each reader here starts after
the opening quotes and gives the text of the string and what follows it.

## Main definitions

- `Toml.basic?`, `Toml.literal?` — strings on one line
- `Toml.basicLines?`, `Toml.literalLines?` — strings over several lines
- `Toml.quoted?` — the string that a text starts with, of any kind
-/

namespace JavaLint.Toml

/-- The characters that strings and comments can hold: all but the control
    characters other than the tab. -/
def isPlain (c : Char) : Bool :=
  c == '\t' || (0x20 ≤ c.toNat && c.toNat != 0x7F)

/-- The blanks within a line. -/
def isSpace (c : Char) : Bool :=
  c == ' ' || c == '\t'

/-- The text after a line break, if it starts with one. -/
def lineBreak? : List Char → Option (List Char)
  | '\n' :: rest => some rest
  | '\r' :: '\n' :: rest => some rest
  | _ => none

/-- The character with the given code, if there is one. -/
def codePoint? (code : Nat) : Option Char :=
  if h : code.isValidChar then some (Char.ofNatAux code h) else none

/-- The character that the digits after `\u` or `\U` stand for, and what follows them. -/
def coded? (count : Nat) (cs : List Char) : Option (Char × List Char) :=
  let digits := cs.take count
  if digits.length == count && digits.all Text.isHexDigit then
    (codePoint? (Text.digitsValue 16 digits)).map fun c => (c, cs.drop count)
  else none

/-- The characters that a backslash and a letter stand for. -/
def escapes : List (Char × Char) :=
  [('b', '\x08'), ('t', '\t'), ('n', '\n'), ('f', '\x0c'), ('r', '\r'), ('"', '"'), ('\\', '\\')]

/-- The character that the text after a backslash stands for, and what follows it. -/
def escape? : List Char → Option (Char × List Char)
  | [] => none
  | 'u' :: rest => coded? 4 rest
  | 'U' :: rest => coded? 8 rest
  | c :: rest => (escapes.lookup c).map fun e => (e, rest)

/-- A basic string on one line. -/
def basicAux : Nat → List Char → Option (List Char × List Char)
  | 0, _ | _, [] => none
  | _ + 1, '"' :: rest => some ([], rest)
  | fuel + 1, '\\' :: rest => do
    let (c, rest) ← escape? rest
    let (text, rest) ← basicAux fuel rest
    return (c :: text, rest)
  | fuel + 1, c :: rest =>
    if isPlain c then (basicAux fuel rest).map fun (text, rest) => (c :: text, rest) else none

/-- A basic string on one line. -/
def basic? (cs : List Char) : Option (List Char × List Char) :=
  basicAux (cs.length + 1) cs

/-- A literal string on one line. -/
def literal? (cs : List Char) : Option (List Char × List Char) :=
  match cs.takeWhile (fun c => isPlain c && c != '\''), cs.dropWhile (fun c => isPlain c && c != '\'') with
  | text, '\'' :: rest => some (text, rest)
  | _, _ => none

/-- The text after the blanks and line breaks that it starts with. -/
def dropBlankLines : Nat → List Char → List Char
  | 0, cs => cs
  | fuel + 1, cs => match lineBreak? cs, cs with
    | some rest, _ => dropBlankLines fuel rest
    | none, c :: rest => if isSpace c then dropBlankLines fuel rest else c :: rest
    | none, [] => []

/-- The text after the line break and blanks that a backslash at the end of a line hides. -/
def continuation? (cs : List Char) : Option (List Char) :=
  (lineBreak? (cs.dropWhile isSpace)).map fun rest => dropBlankLines rest.length rest

/-- The quotes at the end of a string over several lines: of a row of at least
    three, three close the string and at most two before them belong to it. -/
def closing? (quote : Char) (cs : List Char) : Option (List Char × List Char) :=
  let count := (cs.takeWhile (· == quote)).length
  if count < 3 then none
  else
    let inside := min (count - 3) 2
    some (List.replicate inside quote, cs.drop (inside + 3))

/-- A basic string over several lines. -/
def basicLinesAux : Nat → List Char → Option (List Char × List Char)
  | 0, _ | _, [] => none
  | fuel + 1, c :: rest =>
    match closing? '"' (c :: rest), lineBreak? (c :: rest) with
    | some found, _ => some found
    | none, some rest => (basicLinesAux fuel rest).map fun (text, rest) => ('\n' :: text, rest)
    | none, none =>
      if c = '\\' then
        match continuation? rest with
        | some rest => basicLinesAux fuel rest
        | none => do
          let (e, rest) ← escape? rest
          let (text, rest) ← basicLinesAux fuel rest
          return (e :: text, rest)
      else if isPlain c then
        (basicLinesAux fuel rest).map fun (text, rest) => (c :: text, rest)
      else none

/-- A literal string over several lines. -/
def literalLinesAux : Nat → List Char → Option (List Char × List Char)
  | 0, _ | _, [] => none
  | fuel + 1, c :: rest =>
    match closing? '\'' (c :: rest), lineBreak? (c :: rest) with
    | some found, _ => some found
    | none, some rest => (literalLinesAux fuel rest).map fun (text, rest) => ('\n' :: text, rest)
    | none, none =>
      if isPlain c then (literalLinesAux fuel rest).map fun (text, rest) => (c :: text, rest)
      else none

/-- The text of a string over several lines without the line break it starts with. -/
def dropFirstBreak (cs : List Char) : List Char :=
  (lineBreak? cs).getD cs

/-- A basic string over several lines. -/
def basicLines? (cs : List Char) : Option (List Char × List Char) :=
  basicLinesAux (cs.length + 1) (dropFirstBreak cs)

/-- A literal string over several lines. -/
def literalLines? (cs : List Char) : Option (List Char × List Char) :=
  literalLinesAux (cs.length + 1) (dropFirstBreak cs)

/-- The string on one line that a text starts with. -/
def quotedLine? : List Char → Option (List Char × List Char)
  | '"' :: rest => basic? rest
  | '\'' :: rest => literal? rest
  | _ => none

/-- The string that a text starts with. -/
def quoted? : List Char → Option (List Char × List Char)
  | '"' :: '"' :: '"' :: rest => basicLines? rest
  | '\'' :: '\'' :: '\'' :: rest => literalLines? rest
  | cs => quotedLine? cs

end JavaLint.Toml
