/-!
# Splitting and joining

## Main definitions

- `Text.splitChars` — the pieces of a text between separators
- `Text.splitCommas`, `Text.words`, `Text.splitLines` — the pieces between commas, blanks and
  line feeds
- `Text.join` — pieces joined with a separator
-/

namespace JavaLint.Text

/-- The pieces of a list between the elements that `stop` marks; one more than there are marks. -/
def splitChars (stop : Char → Bool) : List Char → List (List Char)
  | [] => [[]]
  | c :: cs =>
    match splitChars stop cs with
    | [] => [[]]
    | piece :: rest => if stop c then [] :: piece :: rest else (c :: piece) :: rest

/-- The pieces of a text between commas; one more than there are commas. -/
def splitCommas (s : String) : List String :=
  (splitChars (· == ',') s.toList).map String.ofList

/-- The pieces of a text between blanks and line feeds that are not empty. -/
def words (s : String) : List String :=
  ((splitChars (fun c => c == ' ' || c == '\n') s.toList).filter fun word => !word.isEmpty).map
    String.ofList

/-- A line without the carriage return at its end. -/
def dropReturn (line : List Char) : List Char :=
  match line.getLast? with
  | some '\r' => line.dropLast
  | _ => line

/-- The lines of a text, each without the line feed, or carriage return and
    line feed, that ends it. What follows the last line feed is a line if it is not empty. -/
def splitLines (cs : List Char) : List (List Char) :=
  let pieces := splitChars (· == '\n') cs
  let ended := pieces.dropLast.map dropReturn
  match pieces.getLast? with
  | none | some [] => ended
  | some last => ended ++ [last]

/-- The pieces joined with `between` between each two of them. -/
def join (between : String) : List String → String
  | [] => ""
  | [s] => s
  | s :: rest => s ++ between ++ join between rest

end JavaLint.Text
