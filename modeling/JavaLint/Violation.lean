import JavaLint.Files.Path
import JavaLint.Message
/-!
# Violations and findings

A violation is one finding of a check: what is wrong, how bad it is and where.
The findings of a run are its violations together with the number of files.

## Main definitions

- `Severity`, `Location`, `Violation` — a single finding
- `Findings` — the result of a run
- `Findings.sort`, `Findings.byFile` — order and groups for output
-/

namespace JavaLint

/-- How bad a violation is. -/
inductive Severity where
  | info
  | warning
  | error
  deriving DecidableEq, Repr, Inhabited

namespace Severity

/-- Every severity, mildest first. -/
def all : List Severity := [.info, .warning, .error]

/-- The name of a severity in configuration files and reports. -/
def name : Severity → String
  | .info => "info"
  | .warning => "warning"
  | .error => "error"

/-- The severity with exactly the given name. -/
def ofName? (s : String) : Option Severity :=
  all.find? (·.name == s)

end Severity

/-- A place in a file. `offset` and `length` count bytes. -/
structure Location where
  file : String
  line : Nat
  column : Nat
  offset : Nat := 0
  length : Nat := 0
  deriving DecidableEq, Repr, Inhabited

/-- A finding of a check. -/
structure Violation where
  code : String
  check : String
  severity : Severity
  location : Location
  messageKey : String
  messageArgs : List String
  message : String
  deriving DecidableEq, Repr, Inhabited

namespace Violation

/-- A violation whose message is the text of its key and arguments. -/
def ofMessage (code check : String) (severity : Severity) (location : Location)
    (key : String) (args : List String) : Violation :=
  ⟨code, check, severity, location, key, args, Message.render key args⟩

/-- The place and text of a violation within its file. -/
def reportLine (v : Violation) : String :=
  toString v.location.line ++ ":" ++ toString v.location.column ++ ": " ++ v.message

/-- A violation on one line, with its file, severity and code. -/
def display (v : Violation) : String :=
  v.location.file ++ ":" ++ toString v.location.line ++ ":" ++ toString v.location.column ++
    ": " ++ v.severity.name ++ " [" ++ v.code ++ "] " ++ v.message

/-- Violations of one file are ordered by line and then by column. -/
def comparePosition (a b : Violation) : Ordering :=
  (compare a.location.line b.location.line).then (compare a.location.column b.location.column)

/-- Violations are ordered by file, then by line, then by column. -/
def comparePlace (a b : Violation) : Ordering :=
  (Path.compare a.location.file b.location.file).then (comparePosition a b)

/-- The headline of a violation in the report with source snippets. -/
def headline (v : Violation) : String :=
  "[" ++ v.code ++ "] " ++ v.message

end Violation

/-- The result of a run. -/
structure Findings where
  violations : List Violation := []
  filesChecked : Nat := 0
  deriving DecidableEq, Repr, Inhabited

namespace Findings

/-- Is there a violation of severity `error`? -/
def hasErrors (f : Findings) : Bool :=
  f.violations.any (·.severity == .error)

/-- The number of violations of a severity. -/
def count (f : Findings) (severity : Severity) : Nat :=
  f.violations.countP (·.severity == severity)

/-- The findings ordered by place; violations at one place keep their order. -/
def sort (f : Findings) : Findings :=
  { f with violations := f.violations.mergeSort fun a b => (a.comparePlace b).isLE }

/-- The findings with another severity of the violation number `index`, if there is one. -/
def setSeverity (f : Findings) (index : Nat) (severity : Severity) : Findings :=
  { f with violations := f.violations.modify index ({ · with severity }) }

/-- The groups with one more violation: at the end of the last group if that is
    of its file, else as a group of its own, under the file as the violation writes it. -/
def addToGroups (groups : List (String × List Violation)) (v : Violation) :
    List (String × List Violation) :=
  match groups.getLast? with
  | some (file, group) =>
    if Path.same file v.location.file then groups.dropLast ++ [(file, group ++ [v])]
    else groups ++ [(v.location.file, [v])]
  | none => [(v.location.file, [v])]

/-- Neighbouring violations of one file, grouped by file, in their order. -/
def byFile (f : Findings) : List (String × List Violation) :=
  f.violations.foldl addToGroups []

end Findings

end JavaLint
