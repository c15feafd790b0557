import JavaLint.Unicode.Category
import JavaLint.Unicode.LineBreak
/-!
# Wrapping

A text is laid out in lines of a given width, each with an indent. Lines are
filled greedily; a word that is too wide for a line of its own is cut.

## Main definitions

- `Wrapping.Word` — the parts of a text that are kept together
- `Wrapping.words` — the words of a line of text
- `Wrapping.fill` — words set in lines
- `Wrapping.wrap` — the lines of a text
-/

namespace JavaLint.Wrapping

open Unicode (LineBreak.pieces textWidth width)

/-- A part of a text that is kept together, and the spaces after it, which are
    dropped at the end of a line. -/
structure Word where
  text : List Char
  spaces : List Char := []
  deriving DecidableEq, Repr, Inhabited

/-- The characters that offer a break of their own, which is decided later. -/
def isHyphen (c : Char) : Bool :=
  c == '-' || c == '\u00ad'

/-- Does a piece end in a hyphen? -/
def endsInHyphen (piece : List Char) : Bool :=
  piece.getLast?.any isHyphen

/-- Pieces of text, each that ends in a hyphen joined with the next one. -/
def joinHyphens : List (List Char) → List (List Char)
  | [] => []
  | piece :: rest => match joinHyphens rest with
    | [] => [piece]
    | next :: more => if endsInHyphen piece then (piece ++ next) :: more else piece :: next :: more

/-- The pieces with the last two joined, if the last one ends in a hyphen. -/
def joinLast (pieces : List (List Char)) : List (List Char) :=
  match pieces.reverse with
  | last :: before :: rest =>
    if endsInHyphen last then (rest.reverse ++ [before ++ last]) else pieces
  | _ => pieces

/-- A piece without the spaces at its end, as a word. -/
def Word.ofPiece (piece : List Char) : Word :=
  let text := (piece.reverse.dropWhile (· == ' ')).reverse
  ⟨text, piece.drop text.length⟩

/-- Letters and numerals. -/
def isAlphanumeric (c : Char) : Bool :=
  c.isAlphanum || Unicode.isAlphabetic c ||
    [Unicode.categoryNd, Unicode.categoryNl, Unicode.categoryNo].any (·.contains c.toNat)

/-- A text cut after each hyphen between two letters or numerals. `before` is
    the character before the text. -/
def cutAtHyphens (before : Option Char) : List Char → List (List Char)
  | [] => [[]]
  | c :: cs =>
    match cutAtHyphens (some c) cs with
    | [] => [[c]]
    | piece :: rest =>
      if c == '-' && before.any isAlphanumeric && cs.head?.any isAlphanumeric then
        [c] :: piece :: rest
      else (c :: piece) :: rest

/-- The parts that a word may be broken into at its hyphens. -/
def Word.parts (w : Word) : List Word :=
  match (cutAtHyphens none w.text).reverse with
  | [] => [w]
  | last :: before => before.reverse.map (⟨·, []⟩) ++ [⟨last, w.spaces⟩]

/-- A text cut into pieces of at most the given width, each of which has at
    least one visible character. `current` and its width `used` belong to the
    piece under construction. -/
def cutToWidth (limit : Nat) (current : List Char) (used : Nat) : List Char → List (List Char)
  | [] => if current.isEmpty then [] else [current.reverse]
  | c :: cs =>
    if 0 < used && limit < used + width c then
      current.reverse :: cutToWidth limit [c] (width c) cs
    else cutToWidth limit (c :: current) (used + width c) cs

/-- A word, cut if it does not fit into a line. -/
def Word.fitted (limit : Nat) (w : Word) : List Word :=
  if textWidth w.text ≤ limit then [w]
  else match (cutToWidth limit [] 0 w.text).reverse with
    | [] => []
    | last :: before => before.reverse.map (⟨·, []⟩) ++ [⟨last, w.spaces⟩]

/-- The words of a line of text. -/
def words (limit : Nat) (line : List Char) : List Word :=
  let pieces := joinLast (joinHyphens (LineBreak.pieces line))
  (pieces.flatMap fun piece => (Word.ofPiece piece).parts).flatMap (Word.fitted limit)

/-- Words set in lines of the given width. `current`, with the last word first,
    and its width `used` belong to the line under construction. -/
def fill (limit : Nat) (current : List Word) (used : Nat) : List Word → List (List Word)
  | [] => [current.reverse]
  | w :: ws =>
    let next := textWidth w.text + w.spaces.length
    if limit < used + textWidth w.text && !current.isEmpty then
      current.reverse :: fill limit [w] next ws
    else fill limit (w :: current) (used + next) ws

/-- The text of a line, without the spaces at its end. -/
def lineText : List Word → List Char
  | [] => []
  | [w] => w.text
  | w :: ws => w.text ++ w.spaces ++ lineText ws

/-- A text in lines of the given width. The first line starts with `first` and
    all others with `rest`, which must be equally wide. -/
def wrap (first rest : String) (limit : Nat) (text : String) : List String :=
  let room := limit - textWidth first.toList
  let lines := (Text.splitChars (· == '\n') text.toList).flatMap fun line =>
    fill room [⟨[], []⟩] 0 (words room line)
  lines.zipIdx.map fun (line, i) =>
    (if i = 0 then first else rest) ++ String.ofList (lineText line)

end JavaLint.Wrapping
