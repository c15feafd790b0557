/-!
# Lines and tab-expanded columns

Offsets into a source text count UTF-8 bytes. This module turns them into
1-based lines and 1-based columns, where a tab reaches to the next multiple of
the tab width and any other character takes one column. Only a line feed ends
a line.

## Main definitions

- `Text.Line` — one line of a text together with the byte offset it starts at
- `Text.columnAfter` — the column reached after a text
- `Text.search` — the place of a number among increasing ones
- `Text.LineIndex` — the lines of a source text and its tab width
- `Text.LineIndex.position` — the line and column of a byte offset

## Design notes

Columns are 64-bit words, like the tab width they are computed from; the
arithmetic wraps where a column would not fit. The line of an offset is found by
binary search among the places that lines start at.
-/

namespace JavaLint.Text

/-- A line of a text: the byte offset of its first character, and its
    characters without the line feed that ends it. -/
structure Line where
  start : Nat
  text : List Char
  deriving Repr, DecidableEq

/-- The lines of a text whose first character stands at byte `pos`; `start`
    and the reversed `current` belong to the line under construction. -/
def linesFrom (start pos : Nat) (current : List Char) : List Char → List Line
  | [] => [⟨start, current.reverse⟩]
  | c :: cs =>
    if c = '\n' then ⟨start, current.reverse⟩ :: linesFrom (pos + 1) (pos + 1) [] cs
    else linesFrom start (pos + c.utf8Size) (c :: current) cs

/-- The lines of a text; there is always at least one. -/
def lines (s : String) : List Line :=
  linesFrom 0 0 [] s.toList

/-- The column after `c`, where `column` and the result count from zero. -/
def advance (tabWidth column : UInt64) (c : Char) : UInt64 :=
  if c = '\t' then (column / tabWidth + 1) * tabWidth else column + 1

/-- A tab width of zero stands for one. -/
def tabStop (tabWidth : UInt64) : UInt64 :=
  if tabWidth = 0 then 1 else tabWidth

/-- The 1-based column reached after the characters `before`. -/
def columnAfter (before : List Char) (tabWidth : UInt64) : UInt64 :=
  before.foldl (advance (tabStop tabWidth)) 0 + 1

/-- The characters of the first `k` bytes, or all of them if there are fewer
    bytes. `none` means that byte `k` lies inside a character. -/
def takeBytes? : Nat → List Char → Option (List Char)
  | 0, _ => some []
  | _ + 1, [] => some []
  | k + 1, c :: cs =>
    if k + 1 < c.utf8Size then none
    else (takeBytes? (k + 1 - c.utf8Size) cs).map (c :: ·)
termination_by _ cs => cs.length

/-- The characters after the first `k` bytes. `none` means that byte `k` lies
    inside a character. -/
def dropBytes? : Nat → List Char → Option (List Char)
  | 0, cs => some cs
  | _ + 1, [] => some []
  | k + 1, c :: cs =>
    if k + 1 < c.utf8Size then none
    else dropBytes? (k + 1 - c.utf8Size) cs
termination_by _ cs => cs.length

/-- The characters of the bytes from `start` up to `stop`. `none` means that one
    of the two ends lies inside a character. -/
def slice? (cs : List Char) (start stop : Nat) : Option (List Char) :=
  (dropBytes? start cs).bind (takeBytes? (stop - start))

/-- The place of `x` among increasing numbers from index `lo` up to `hi`: the index
    of `x` if it is there, or else, as an error, the index to put it in at. -/
def searchBetween (xs : Array Nat) (x lo hi : Nat) : Except Nat Nat :=
  if lo < hi then
    let mid := lo + (hi - lo) / 2
    match xs[mid]? with
    | none => .error lo
    | some y =>
      if y = x then .ok mid
      else if y < x then searchBetween xs x (mid + 1) hi
      else searchBetween xs x lo mid
  else .error lo
termination_by hi - lo

/-- The place of `x` among increasing numbers. -/
def search (xs : Array Nat) (x : Nat) : Except Nat Nat :=
  searchBetween xs x 0 xs.size

/-- How many numbers are not above one with the given place. -/
def rank : Except Nat Nat → Nat
  | .ok i => i + 1
  | .error i => i

/-- The lines of a source text, with the tab width that its columns use. -/
structure LineIndex where
  lines : List Line
  tabWidth : UInt64
  deriving Repr

namespace LineIndex

/-- Indexes a source text. -/
def ofSource (source : String) (tabWidth : UInt64) : LineIndex :=
  ⟨Text.lines source, tabWidth⟩

/-- The number of lines of the source. -/
def lineCount (index : LineIndex) : Nat :=
  index.lines.length

/-- The places that lines start at. -/
def starts (index : LineIndex) : Array Nat :=
  (index.lines.map (·.start)).toArray

/-- The 1-based line that contains `offset`: the one that starts there, or else the
    last one that starts before. -/
def line (index : LineIndex) (offset : Nat) : Nat :=
  rank (search index.starts offset)

/-- The 1-based column of `offset` on `line`: one if the offset lies inside a
    character, and the end of the line if it lies past the source. -/
def columnOn (index : LineIndex) (line : Line) (offset : Nat) : UInt64 :=
  columnAfter ((takeBytes? (offset - line.start) line.text).getD []) index.tabWidth

/-- The 1-based line and tab-expanded column of `offset`. -/
def position (index : LineIndex) (offset : Nat) : Nat × UInt64 :=
  let number := index.line offset
  match index.lines[number - 1]? with
  | some line => (number, index.columnOn line offset)
  | none => (number, 1)

end LineIndex

end JavaLint.Text
