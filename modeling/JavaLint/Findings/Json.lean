import JavaLint.Json.Parser
import JavaLint.Violation
/-!
# Findings as JSON

The written form of findings is an object; each part of it can also be read
from an array of its fields in their order. Unknown fields are skipped,
missing and repeated ones are refused.

## Main definitions

- `Findings.toJson`, `Findings.ofJson?` — findings to JSON and back
- `Findings.parse?` — the findings that a text writes
-/

namespace JavaLint

/-- The JSON form of a place. -/
def Location.toJson (l : Location) : Json :=
  .object [("file", .string l.file), ("line", .integer l.line), ("column", .integer l.column),
    ("offset", .integer l.offset), ("length", .integer l.length)]

/-- The JSON form of a violation. -/
def Violation.toJson (v : Violation) : Json :=
  .object [("code", .string v.code), ("check", .string v.check),
    ("severity", .string v.severity.name), ("location", v.location.toJson),
    ("message_key", .string v.messageKey),
    ("message_args", .array (v.messageArgs.map .string)), ("message", .string v.message)]

/-- The JSON form of findings. -/
def Findings.toJson (f : Findings) : Json :=
  .object [("violations", .array (f.violations.map Violation.toJson)),
    ("files_checked", .integer f.filesChecked)]

/-- The values of the fields with the given names: those of an object, where
    each name occurs once, or the items of an array of that length. -/
def Json.fields? (names : List String) : Json → Option (List Json)
  | .array items => if items.length = names.length then some items else none
  | .object members =>
    names.mapM fun name => match members.filter (·.1 == name) with
      | [(_, value)] => some value
      | _ => none
  | _ => none

/-- A severity: its name, or an object that maps its name to null. -/
def Severity.ofJson? : Json → Option Severity
  | .string name => Severity.ofName? name
  | .object [(name, .null)] => Severity.ofName? name
  | _ => none

/-- The place that a JSON value writes. -/
def Location.ofJson? (j : Json) : Option Location := do
  match ← j.fields? ["file", "line", "column", "offset", "length"] with
  | [file, line, column, offset, length] =>
    return ⟨← file.text?, ← line.word?, ← column.word?, ← offset.word?, ← length.word?⟩
  | _ => none

/-- The violation that a JSON value writes; its message is taken as it stands. -/
def Violation.ofJson? (j : Json) : Option Violation := do
  match ← j.fields? ["code", "check", "severity", "location", "message_key", "message_args",
      "message"] with
  | [code, check, severity, location, key, args, message] =>
    return ⟨← code.text?, ← check.text?, ← Severity.ofJson? severity,
      ← Location.ofJson? location, ← key.text?, ← args.texts?, ← message.text?⟩
  | _ => none

/-- The findings that a JSON value writes. -/
def Findings.ofJson? (j : Json) : Option Findings := do
  match ← j.fields? ["violations", "files_checked"] with
  | [violations, files] =>
    return ⟨← (← violations.items?).mapM Violation.ofJson?, ← files.word?⟩
  | _ => none

/-- The findings that a text writes. -/
def Findings.parse? (text : String) : Option Findings :=
  (Json.parse? text).bind Findings.ofJson?

end JavaLint
