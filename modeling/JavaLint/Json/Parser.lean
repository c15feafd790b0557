import JavaLint.Json.Basic
import JavaLint.Text.Digits
/-!
# Reading JSON

The reader accepts exactly the texts of the JSON grammar. Half a surrogate
pair is part of that grammar; a string that holds one is read as `unpaired`.

## Main definitions

- `Json.Unit16` — what an item of a string contributes to its text
- `Json.parse?` — the value that a text writes

## Design notes

Every value takes at least one character, so the length of the text bounds how
deep values nest and how many there are.
-/

namespace JavaLint.Json

/-- The blanks between the tokens of a value. -/
def isSpace (c : Char) : Bool :=
  c == ' ' || c == '\n' || c == '\t' || c == '\r'

/-- The text without its leading blanks. -/
def skipSpace (cs : List Char) : List Char :=
  cs.dropWhile isSpace

/-- What an item of a string contributes to its text. -/
inductive Unit16 where
  /-- A character. -/
  | char (c : Char)
  /-- The first half of a surrogate pair. -/
  | high (code : Nat)
  /-- The second half of a surrogate pair. -/
  | low (code : Nat)
  deriving DecidableEq, Repr

/-- The unit with a given code of four hexadecimal digits. -/
def Unit16.ofCode (code : Nat) : Unit16 :=
  if 0xD800 ≤ code && code < 0xDC00 then .high code
  else if 0xDC00 ≤ code && code < 0xE000 then .low code
  else .char (Char.ofNat code)

/-- The text of a list of units, if its surrogate pairs are complete. -/
def Unit16.text? : List Unit16 → Option (List Char)
  | [] => some []
  | .char c :: rest => (text? rest).map (c :: ·)
  | .high h :: .low l :: rest =>
    (text? rest).map (Char.ofNat (0x10000 + (h - 0xD800) * 0x400 + (l - 0xDC00)) :: ·)
  | _ => none

/-- The character that a backslash and the letter `c` stand for. -/
def escaped? (c : Char) : Option Char :=
  [('"', '"'), ('\\', '\\'), ('/', '/'), ('b', '\x08'), ('f', '\x0c'), ('n', '\n'), ('r', '\r'),
    ('t', '\t')].lookup c

/-- The units of a string up to its closing quote, and what follows it. -/
def units? : List Char → Option (List Unit16 × List Char)
  | [] => none
  | '"' :: rest => some ([], rest)
  | '\\' :: 'u' :: a :: b :: c :: d :: rest =>
    if [a, b, c, d].all Text.isHexDigit then
      (units? rest).map fun (units, after) =>
        (.ofCode (Text.digitsValue 16 [a, b, c, d]) :: units, after)
    else none
  | '\\' :: c :: rest =>
    match escaped? c with
    | some e => (units? rest).map fun (units, after) => (.char e :: units, after)
    | none => none
  | c :: rest =>
    if c.toNat < 0x20 || c = '\\' then none
    else (units? rest).map fun (units, after) => (.char c :: units, after)

/-- The text of a string after its opening quote, if there is one, and what follows the string. -/
def string? (cs : List Char) : Option (Option String × List Char) :=
  (units? cs).map fun (units, rest) => ((Unit16.text? units).map String.ofList, rest)

/-- The name of a member with the colon after it, and what follows them. -/
def name? (cs : List Char) : Option (Option String × List Char) :=
  match skipSpace cs with
  | '"' :: rest => match string? rest with
    | some (name, rest) => match skipSpace rest with
      | ':' :: rest => some (name, rest)
      | _ => none
    | none => none
  | _ => none

/-- A string with the given text. -/
def ofText : Option String → Json
  | some text => .string text
  | none => .unpaired

/-- An object with the given members. -/
def ofMembers (members : List (Option String × Json)) : Json :=
  match members.mapM fun (name, value) => name.map fun text => (text, value) with
  | some members => .object members
  | none => .unpaired

/-- The integer part of a number: one zero, or digits that start with another one. -/
def integerPart? (cs : List Char) : Option (List Char × List Char) :=
  match cs with
  | '0' :: rest => some (['0'], rest)
  | _ => match cs.takeWhile Char.isDigit with
    | [] => none
    | digits => some (digits, cs.dropWhile Char.isDigit)

/-- At least one digit. -/
def digits? (cs : List Char) : Option (List Char × List Char) :=
  match cs.takeWhile Char.isDigit with
  | [] => none
  | digits => some (digits, cs.dropWhile Char.isDigit)

/-- The fraction of a number with its point; it may be missing. -/
def fraction? : List Char → Option (List Char × List Char)
  | '.' :: rest => (digits? rest).map fun (digits, after) => ('.' :: digits, after)
  | cs => some ([], cs)

/-- The exponent of a number with its mark and sign; it may be missing. -/
def exponent? (cs : List Char) : Option (List Char × List Char) :=
  match cs with
  | e :: rest =>
    if e = 'e' || e = 'E' then
      match rest with
      | '+' :: rest => (digits? rest).map fun (digits, after) => (e :: '+' :: digits, after)
      | '-' :: rest => (digits? rest).map fun (digits, after) => (e :: '-' :: digits, after)
      | _ => (digits? rest).map fun (digits, after) => (e :: digits, after)
    else some ([], cs)
  | [] => some ([], [])

/-- The number that a text starts with, and what follows it. -/
def number? (cs : List Char) : Option (Json × List Char) := do
  let (negative, cs) := match cs with
    | '-' :: rest => (true, rest)
    | _ => (false, cs)
  let (whole, cs) ← integerPart? cs
  let (fraction, cs) ← fraction? cs
  let (exponent, cs) ← exponent? cs
  let size := Text.digitsValue 10 whole
  if fraction.isEmpty && exponent.isEmpty && !(negative && size == 0) then
    return (.integer (if negative then -size else size), cs)
  let sign := if negative then ['-'] else []
  return (.decimal (String.ofList (sign ++ whole ++ fraction ++ exponent)), cs)

mutual

/-- The value that a text starts with, and what follows it. -/
def value? : Nat → List Char → Option (Json × List Char)
  | 0, _ => none
  | fuel + 1, cs => match skipSpace cs with
    | 'n' :: 'u' :: 'l' :: 'l' :: rest => some (.null, rest)
    | 't' :: 'r' :: 'u' :: 'e' :: rest => some (.bool true, rest)
    | 'f' :: 'a' :: 'l' :: 's' :: 'e' :: rest => some (.bool false, rest)
    | '"' :: rest => (string? rest).map fun (text, rest) => (ofText text, rest)
    | '[' :: rest => match skipSpace rest with
      | ']' :: rest => some (.array [], rest)
      | rest => (itemList? fuel rest).map fun (items, rest) => (.array items, rest)
    | '\x7b' :: rest => match skipSpace rest with
      | '\x7d' :: rest => some (.object [], rest)
      | rest => (memberList? fuel rest).map fun (members, rest) => (ofMembers members, rest)
    | cs => number? cs

/-- The items of an array up to its closing bracket, and what follows it. -/
def itemList? : Nat → List Char → Option (List Json × List Char)
  | 0, _ => none
  | fuel + 1, cs => do
    let (item, rest) ← value? fuel cs
    match skipSpace rest with
    | ',' :: rest =>
      let (items, rest) ← itemList? fuel rest
      return (item :: items, rest)
    | ']' :: rest => return ([item], rest)
    | _ => none

/-- The members of an object up to its closing brace, and what follows it. -/
def memberList? : Nat → List Char → Option (List (Option String × Json) × List Char)
  | 0, _ => none
  | fuel + 1, cs => do
    let (name, rest) ← name? cs
    let (value, rest) ← value? fuel rest
    match skipSpace rest with
    | ',' :: rest =>
      let (members, rest) ← memberList? fuel rest
      return ((name, value) :: members, rest)
    | '\x7d' :: rest => return ([(name, value)], rest)
    | _ => none

end

/-- The value that a text writes. -/
def parse? (text : String) : Option Json :=
  let cs := text.toList
  match value? (2 * cs.length + 1) cs with
  | some (json, rest) => if (skipSpace rest).isEmpty then some json else none
  | none => none

end JavaLint.Json
