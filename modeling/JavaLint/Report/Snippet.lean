import JavaLint.Unicode.Width
import JavaLint.Text.LineIndex
/-!
# Source snippets

A snippet shows the line of a source on which a label stands, the lines around
it, and the label below what it is about.

## Main definitions

- `Snippet.Label` — a text about some bytes of a source
- `Snippet.excerpt` — the bytes around a label that are shown
- `Snippet.place` — the line and column that the headline of a snippet gives
- `Snippet.render` — the lines of a snippet

## Design notes

Offsets, lengths and the column of the headline count bytes. A carriage return
of its own ends a line where lines are counted, but not where they are shown.
-/

namespace JavaLint.Snippet

/-- A text about `length` bytes of a source from `offset` on. -/
structure Label where
  offset : Nat
  length : Nat
  text : String
  deriving DecidableEq, Repr

/-! ## What is shown -/

/-- The characters of a source by the byte offsets at which they start, with
    the two characters of a line end in one. -/
structure Glyph where
  offset : Nat
  size : Nat
  endsLine : Bool
  deriving Repr

/-- The glyphs of a text that starts at a byte offset. -/
def glyphs (offset : Nat) : List Char → List Glyph
  | [] => []
  | '\r' :: '\n' :: cs => ⟨offset, 2, true⟩ :: glyphs (offset + 2) cs
  | c :: cs =>
    ⟨offset, c.utf8Size, c = '\n' || c = '\r'⟩ :: glyphs (offset + c.utf8Size) cs

/-- The last byte of a glyph. -/
def Glyph.last (g : Glyph) : Nat :=
  g.offset + g.size - 1

/-- The last byte that a label is about; the start of one that is about no bytes. -/
def Label.last (l : Label) : Nat :=
  l.offset + l.length - 1

/-- Does the line that a glyph ends lie before the label? -/
def Glyph.endsBefore (g : Glyph) (l : Label) : Bool :=
  g.endsLine && g.last < l.offset

/-- The offsets at which the lines before the label and its own line start. -/
def lineStarts (gs : List Glyph) (l : Label) : List Nat :=
  0 :: (gs.filter (·.endsBefore l)).map fun g => g.last + 1

/-- Where the part that is shown ends: after the line of the label and one
    more. A line end that the label itself is about does not count. -/
def excerptEnd (gs : List Glyph) (l : Label) (size : Nat) : Nat :=
  match gs.filter fun g => g.endsLine && l.last < g.offset with
  | _ :: g :: _ => g.last + 1
  | _ => size

/-- The part of a source that is shown, by its first and last offset, and the
    number of lines before it. -/
def excerpt (source : List Char) (l : Label) : Nat × Nat × Nat :=
  let gs := glyphs 0 source
  let size := (gs.getLast?.map fun g => g.last + 1).getD 0
  let starts := lineStarts gs l
  let shown := starts.length - 2
  (starts[shown]?.getD 0, excerptEnd gs l size, shown)

/-- The line and column of a label, both counted from zero. -/
def place (source : List Char) (l : Label) : Nat × Nat :=
  let starts := lineStarts (glyphs 0 source) l
  (starts.length - 1, l.offset - starts.getLastD 0)

/-! ## How it is shown -/

/-- A line of the part that is shown. `length` counts the bytes of the text and
    of the line end. -/
structure ShownLine where
  number : Nat
  offset : Nat
  length : Nat
  text : List Char
  deriving Repr

/-- The lines of the text `cs`, which starts at byte `pos`. Byte `start` is that
    of the current line, of which `current` holds the characters read so far,
    the last one first; `number` is that of the current line. A last line that
    ends in a carriage return of its own goes by the number of the line before. -/
def shownLines (number start pos : Nat) (current : List Char) : List Char → List ShownLine
  | [] =>
    if pos = start then []
    else [⟨if current.head? == some '\r' then number - 1 else number, start, pos - start,
      current.reverse⟩]
  | '\r' :: '\n' :: cs =>
    ⟨number, start, pos + 2 - start, current.reverse⟩ ::
      shownLines (number + 1) (pos + 2) (pos + 2) [] cs
  | c :: cs =>
    if c = '\n' then
      ⟨number, start, pos + 1 - start, current.reverse⟩ ::
        shownLines (number + 1) (pos + 1) (pos + 1) [] cs
    else shownLines number start (pos + c.utf8Size) (c :: current) cs

/-- The distance of tab stops. -/
def tabWidth : Nat := 4

/-- The columns that the characters of a line take. `column` counts the columns
    so far, and `escaped` says that a control sequence is going on; its
    characters take none. -/
def columns (column : Nat) (escaped : Bool) : List Char → List (Char × Nat)
  | [] => []
  | c :: cs =>
    if escaped then (c, 0) :: columns column (c != 'm') cs
    else if c = '\x1b' then (c, 0) :: columns column true cs
    else
      let taken := if c = '\t' then tabWidth - column % tabWidth else Unicode.width c
      (c, taken) :: columns (column + taken) false cs

/-- A row of the same character. -/
def row (count : Nat) (c : Char) : String :=
  String.ofList (List.replicate count c)

/-- A line with spaces in place of tabs. -/
def expandTabs (text : List Char) : String :=
  String.ofList ((columns 0 false text).flatMap fun (c, taken) =>
    if c = '\t' then List.replicate taken ' ' else [c])

/-- The column at which a byte of a line is shown. -/
def columnOf (line : ShownLine) (offset : Nat) : Nat :=
  let before := (Text.takeBytes? (offset - line.offset) line.text).getD line.text
  (columns 0 false before).foldl (fun n column => n + column.2) 0

/-- Does a label stand on a line? -/
def standsOn (l : Label) (line : ShownLine) : Bool :=
  line.offset ≤ l.offset && l.offset < line.offset + line.length &&
    l.offset + l.length ≤ line.offset + line.length

/-- The mark below what a label is about, and the label itself below that, each
    without what stands to its left. -/
def marks (l : Label) (line : ShownLine) : List String :=
  let start := columnOf line l.offset
  let stop := if l.length = 0 then start + 1 else max (columnOf line (l.offset + l.length)) (start + 1)
  let middle := (start + stop) / 2
  let pointer := if l.length = 0 then "▲" else "┬"
  [row start ' ' ++ row (middle - start) '─' ++ pointer ++ row (stop - middle - 1) '─',
    row middle ' ' ++ "╰── " ++ l.text]

/-- A number at the right end of a column. -/
def rightAligned (width : Nat) (n : Nat) : String :=
  row (width - (toString n).length) ' ' ++ toString n

/-- A line of the source, and the label below it if that stands on it. -/
def renderLine (l : Label) (numberWidth : Nat) (line : ShownLine) : List String :=
  let below := if standsOn l line then marks l line else []
  (" " ++ rightAligned numberWidth line.number ++ " │ " ++ expandTabs line.text) ::
    below.map fun mark => " " ++ row numberWidth ' ' ++ " · " ++ mark

/-- The lines of the snippet of a source for a label. -/
def render (name : String) (source : List Char) (l : Label) : List String :=
  let (start, stop, before) := excerpt source l
  let text := (Text.slice? source start stop).getD []
  let lines := shownLines (before + 1) start start [] text
  let numberWidth := (toString ((lines.getLast?.map (·.number)).getD 0)).length
  let margin := row (numberWidth + 2) ' '
  let (line, column) := place source l
  [margin ++ "╭─[" ++ name ++ ":" ++ toString (line + 1) ++ ":" ++ toString (column + 1) ++ "]"] ++
    lines.flatMap (renderLine l numberWidth) ++ [margin ++ "╰────"]

end JavaLint.Snippet
