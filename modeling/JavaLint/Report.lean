import JavaLint.Findings.Json
import JavaLint.Json.Printer
import JavaLint.Report.Snippet
import JavaLint.Report.Wrapping
/-!
# Reports

The findings of a run as they are written to the terminal.

## Main definitions

- `Report.Format` — the forms of a report
- `Report.textEntries`, `Report.compactEntries`, `Report.prettyEntries` — the violations of a
  report, one entry for each of them
- `Report.render` — a report
-/

namespace JavaLint.Report

/-- The forms of a report. -/
inductive Format where
  /-- Lines grouped by file. -/
  | text
  /-- Snippets of the sources. -/
  | pretty
  | json
  /-- One line for each violation. -/
  | compact
  deriving DecidableEq, Repr, Inhabited

namespace Format

/-- Every form of a report. -/
def all : List Format := [.text, .pretty, .json, .compact]

/-- The name of a form on the command line. -/
def name : Format → String
  | .text => "text"
  | .pretty => "pretty"
  | .json => "json"
  | .compact => "compact"

/-- The form with exactly the given name. -/
def ofName? (s : String) : Option Format :=
  all.find? (·.name == s)

end Format

/-! ## Colours -/

/-- The colours of a terminal. -/
inductive Colour where
  | red
  | green
  | yellow
  | blue
  deriving DecidableEq, Repr

/-- The control sequence that switches to a colour. -/
def Colour.start : Colour → String
  | .red => "\x1b[31m"
  | .green => "\x1b[32m"
  | .yellow => "\x1b[33m"
  | .blue => "\x1b[34m"

/-- A text in a colour. -/
def Colour.paint (c : Colour) (text : String) : String :=
  c.start ++ text ++ "\x1b[0m"

/-- The colour of a severity. -/
def severityColour : Severity → Colour
  | .error => .red
  | .warning => .yellow
  | .info => .blue

/-- The colour of the summary of findings. -/
def summaryColour (f : Findings) : Colour :=
  if 0 < f.count .error then .red else if 0 < f.count .warning then .yellow else .green

/-- The last line of a report. -/
def summary (f : Findings) : String :=
  (summaryColour f).paint ("Found " ++ toString (f.count .error) ++ " error(s), " ++
    toString (f.count .warning) ++ " warning(s), " ++ toString (f.count .info) ++
    " info(s) in " ++ toString f.filesChecked ++ " file(s)")

/-! ## Entries -/

/-- The line of a violation below its file. -/
def textEntry (v : Violation) : String :=
  "  " ++ (severityColour v.severity).paint v.severity.name ++ " " ++ v.reportLine ++
    " [" ++ v.code ++ "]"

/-- The entries of a report in lines grouped by file. -/
def textEntries (f : Findings) : List (String × List String) :=
  f.byFile.map fun (file, vs) => (file, vs.map textEntry)

/-- The entries of a report with one line for each violation. -/
def compactEntries (f : Findings) : List String :=
  f.violations.map Violation.display

/-- The number of columns that the headline of a snippet may take. -/
def headlineWidth : Nat := 78

/-- A violation with its headline and a snippet of the source. -/
def prettyEntry (file source : String) (v : Violation) : String :=
  Text.join "\n"
    (Wrapping.wrap "  × " "  │ " headlineWidth v.headline ++
      Snippet.render file source.toList ⟨v.location.offset, v.location.length, v.check⟩) ++ "\n"

/-- The entries of a report with snippets. Where a source cannot be read, the
    entry of a violation is its line. -/
def prettyEntries (source? : String → Option String) (f : Findings) : List String :=
  f.byFile.flatMap fun (file, vs) =>
    match source? file with
    | some source => vs.map (prettyEntry file source)
    | none => vs.map Violation.display

/-! ## Whole reports -/

/-- The lines of a report. -/
def lines (source? : String → Option String) (format : Format) (f : Findings) : List String :=
  match format with
  | .text => ((textEntries f).flatMap fun (file, entries) => file :: entries ++ [""]) ++ [summary f]
  | .pretty => prettyEntries source? f ++ [summary f]
  | .json => [f.toJson.pretty]
  | .compact => compactEntries f

/-- A report. `source?` gives the text of a file by the path that violations name. -/
def render (source? : String → Option String) (format : Format) (f : Findings) : String :=
  String.join ((lines source? format f).map (· ++ "\n"))

end JavaLint.Report
