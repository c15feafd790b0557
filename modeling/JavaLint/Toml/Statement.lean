import JavaLint.Toml.Quoted
import JavaLint.Toml.Scalar
/-!
# The statements of a TOML document

A document is a row of statements: the header of a table, the header of an
item of an array of tables, or a key with a value.

## Main definitions

- `Toml.Statement` — a statement
- `Toml.inlineTable?` — the table that a list of keys with values writes
- `Toml.statements?` — the statements of a document

## Design notes

A key is a path, since it may have parts with points between them. `Tree`
tells the tables that such paths create from those that stand in braces,
because only the former can be extended.
-/

namespace JavaLint.Toml

/-- Arrays and inline tables nest less deeply than this, and keys have fewer parts. -/
def depthLimit : Nat := 80

/-- The characters of a key without quotes. -/
def isBare (c : Char) : Bool :=
  c.isAlphanum || c == '_' || c == '-'

/-- A part of a key. -/
def keyPart? (cs : List Char) : Option (String × List Char) :=
  match cs with
  | '"' :: _ | '\'' :: _ =>
    (quotedLine? cs).map fun (text, rest) => (String.ofList text, rest)
  | _ => match cs.takeWhile isBare with
    | [] => none
    | text => some (String.ofList text, cs.dropWhile isBare)

/-- The parts of a key, of which there are at most `fuel`, with the blanks around them. -/
def keyAux : Nat → List Char → Option (List String × List Char)
  | 0, _ => none
  | fuel + 1, cs => do
    let (part, rest) ← keyPart? (cs.dropWhile isSpace)
    match rest.dropWhile isSpace with
    | '.' :: rest =>
      let (parts, rest) ← keyAux fuel rest
      return (part :: parts, rest)
    | rest => return ([part], rest)

/-- A key. -/
def key? (cs : List Char) : Option (List String × List Char) :=
  keyAux (depthLimit - 1) cs

/-- A table under construction in braces: a value, or a table that the parts
    of a key create. -/
inductive Inline where
  | value (v : Toml)
  | keyed (entries : List (String × Inline))
  deriving Inhabited

/-- The entries with the value of a key added. No key is set twice, and only a
    table that keys have created is extended. -/
def Inline.add? (v : Toml) : List String → List (String × Inline) → Option (List (String × Inline))
  | [], _ => none
  | [k], entries =>
    if (entries.lookup k).isSome then none else some (entries ++ [(k, .value v)])
  | k :: path, entries => match entries.lookup k with
    | none => (add? v path []).map fun sub => entries ++ [(k, .keyed sub)]
    | some (.keyed sub) => (add? v path sub).map fun sub =>
      entries.map fun (name, entry) => if name = k then (name, .keyed sub) else (name, entry)
    | some (.value _) => none

mutual

/-- The value of a finished entry. -/
def Inline.finish : Inline → Toml
  | .value v => v
  | .keyed entries => .table (Inline.finishAll entries)

/-- The values of finished entries. -/
def Inline.finishAll : List (String × Inline) → TomlTable
  | [] => []
  | (name, entry) :: rest => (name, entry.finish) :: Inline.finishAll rest

end

/-- The table that a list of keys with values writes. -/
def inlineTable? (pairs : List (List String × Toml)) : Option Toml :=
  (pairs.foldlM (fun entries (path, v) => Inline.add? v path entries) []).map
    fun entries => .table (Inline.finishAll entries)

/-- The text after a comment, which ends with its line. -/
def comment? : List Char → Option (List Char)
  | '#' :: rest =>
    let after := rest.dropWhile isPlain
    if after.isEmpty || (lineBreak? after).isSome then some after else none
  | _ => none

/-- The text after blanks, line breaks and comments, of which there are at most `fuel`. -/
def dropTrivia : Nat → List Char → List Char
  | 0, cs => cs
  | fuel + 1, cs =>
    let cs := cs.dropWhile isSpace
    match (lineBreak? cs).or (comment? cs) with
    | some rest => dropTrivia fuel rest
    | none => cs

/-- The text after blanks, line breaks and comments. -/
def skipTrivia (cs : List Char) : List Char :=
  dropTrivia (cs.length + 1) cs

mutual

/-- The value that a text starts with, at most `depth` levels deep, and what follows it. -/
def valueAux : Nat → Nat → List Char → Option (Toml × List Char)
  | 0, _, _ => none
  | fuel + 1, depth, cs => match cs with
    | '"' :: _ | '\'' :: _ =>
      (quoted? cs).map fun (text, rest) => (.string (String.ofList text), rest)
    | 't' :: 'r' :: 'u' :: 'e' :: rest => some (.boolean true, rest)
    | 'f' :: 'a' :: 'l' :: 's' :: 'e' :: rest => some (.boolean false, rest)
    | '[' :: rest =>
      if depth = 0 then none
      else (itemsAux fuel (depth - 1) rest).map fun (items, rest) => (.array items, rest)
    | '\x7b' :: rest =>
      if depth = 0 then none
      else match rest.dropWhile isSpace with
        | '\x7d' :: rest => some (.table [], rest)
        | rest => do
          let (pairs, rest) ← pairsAux fuel (depth - 1) rest
          let table ← inlineTable? pairs
          return (table, rest)
    | cs => scalar? cs

/-- The items of an array up to its closing bracket, and what follows it. -/
def itemsAux : Nat → Nat → List Char → Option (List Toml × List Char)
  | 0, _, _ => none
  | fuel + 1, depth, cs => match skipTrivia cs with
    | ']' :: rest => some ([], rest)
    | cs => do
      let (item, rest) ← valueAux fuel depth cs
      match skipTrivia rest with
      | ',' :: rest =>
        let (items, rest) ← itemsAux fuel depth rest
        return (item :: items, rest)
      | ']' :: rest => return ([item], rest)
      | _ => none

/-- The keys with values of an inline table up to its closing brace, and what follows it. -/
def pairsAux : Nat → Nat → List Char → Option (List (List String × Toml) × List Char)
  | 0, _, _ => none
  | fuel + 1, depth, cs => do
    let (path, rest) ← key? cs
    match rest with
    | '=' :: rest =>
      let (v, rest) ← valueAux fuel depth (rest.dropWhile isSpace)
      match rest.dropWhile isSpace with
      | ',' :: rest =>
        let (pairs, rest) ← pairsAux fuel depth rest
        return ((path, v) :: pairs, rest)
      | '\x7d' :: rest => return ([(path, v)], rest)
      | _ => none
    | _ => none

end

/-- The value that a text starts with, and what follows it. -/
def value? (cs : List Char) : Option (Toml × List Char) :=
  valueAux (2 * cs.length + 1) (depthLimit - 1) cs

/-- A statement of a document. -/
inductive Statement where
  /-- The header of a table. -/
  | table (path : List String)
  /-- The header of an item of an array of tables. -/
  | item (path : List String)
  /-- A key with a value. -/
  | entry (path : List String) (value : Toml)
  deriving Inhabited

/-- The statement that a line starts with, and what follows it. -/
def statement? : List Char → Option (Statement × List Char)
  | '[' :: '[' :: rest => do
    let (path, rest) ← key? rest
    match rest with
    | ']' :: ']' :: rest => return (.item path, rest)
    | _ => none
  | '[' :: rest => do
    let (path, rest) ← key? rest
    match rest with
    | ']' :: rest => return (.table path, rest)
    | _ => none
  | cs => do
    let (path, rest) ← key? cs
    match rest with
    | '=' :: rest =>
      let (v, rest) ← value? (rest.dropWhile isSpace)
      return (.entry path v, rest)
    | _ => none

/-- The text after the end of a line, which may have a comment before it. -/
def lineEnd? (cs : List Char) : Option (List Char) :=
  let cs := cs.dropWhile isSpace
  let rest := (comment? cs).getD cs
  if rest.isEmpty then some [] else lineBreak? rest

/-- The statements of a document with at most `fuel` of them. -/
def statementsAux : Nat → List Char → Option (List Statement)
  | 0, _ => none
  | fuel + 1, cs => match skipTrivia cs with
    | [] => some []
    | cs => do
      let (s, rest) ← statement? cs
      let rest ← lineEnd? rest
      let more ← statementsAux fuel rest
      return s :: more

/-- The statements of a document; a byte order mark may stand before them. -/
def statements? (text : String) : Option (List Statement) :=
  let cs := match text.toList with
    | '\ufeff' :: rest => rest
    | cs => cs
  statementsAux (cs.length + 1) cs

end JavaLint.Toml
