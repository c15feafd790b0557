import JavaLint.Config.Checks
import JavaLint.Files.Discovery
import JavaLint.Frontend
import JavaLint.CheckSet
/-!
# Runs

A run checks all files at or below a root. What can be wrong with its checks
and patterns shows up when it is set up, before any file is read.

## Main definitions

- `RunError` — why a run has no findings
- `Run`, `Run.Setup`, `Run.ofSetup` — a run and what it is made of
- `Run.checkSource` — the violations of a source text
- `Run.checkFile` — the violations of a file, or why it cannot be checked
- `Run.findings` — the findings of a run

## Design notes

A file is checked without regard to the others. In a strict run the first file
that cannot be checked is the error of the run; in any other run a violation
stands for it.
-/

namespace JavaLint

/-- Why a file cannot be checked. -/
inductive FileError where
  /-- The file is no text. -/
  | unreadable (message : String)
  | unparsable (cause : ParseError)
  deriving DecidableEq, Repr

namespace FileError

/-- What is wrong with a file that is not encoded well. -/
def notText : FileError :=
  .unreadable "stream did not contain valid UTF-8"

/-- The violation for a file that cannot be checked. -/
def violation (path : String) : FileError → Violation
  | .unreadable message => readViolation path message
  | .unparsable cause => cause.violation path

end FileError

/-- Why a run has no findings. -/
inductive RunError where
  /-- There is no language to parse files with. -/
  | missingFrontend
  /-- A pattern for the files to leave out is malformed. -/
  | badGlob (pattern : String)
  /-- The checks of the run cannot be combined. -/
  | badChecks (cause : CheckSetError)
  /-- The files below the root cannot be listed. -/
  | noFiles (root : String)
  /-- A file cannot be checked. -/
  | badFile (path : String) (cause : FileError)
  deriving DecidableEq, Repr

/-- The text of the error of a run. -/
def RunError.message : RunError → String
  | .missingFrontend => "no source parser configured"
  | .badGlob pattern => "Invalid glob pattern: " ++ pattern
  | .badChecks cause => cause.message
  | .noFiles root => "Failed to walk directory: " ++ root
  | .badFile path (.unreadable message) => "Failed to read " ++ path ++ ": " ++ message
  | .badFile path (.unparsable cause) => "Parse error in " ++ path ++ ": " ++ cause.message

/-- A run, ready to start. -/
structure Run where
  selection : Selection
  checks : CheckSet
  frontend : Frontend
  config : Config
  /-- Does the first file that cannot be checked end the run? -/
  strict : Bool

namespace Run

/-- What a run is made of. -/
structure Setup where
  /-- The directory or file to check, if it is not that of the configuration. -/
  root : Option String := none
  registrations : List Registration := []
  frontend : Option Frontend := none
  /-- Patterns of files to leave out, besides those of the configuration. -/
  excludes : List String := []
  config : Config := {}
  /-- Is the run strict? Without a value the configuration decides. -/
  failOnParseError : Option Bool := none

/-- The pattern that a text writes. -/
def glob (text : String) : Except RunError Glob :=
  match Glob.parse? text with
  | some g => .ok g
  | none => .error (.badGlob text)

/-- The extensions of the files of a run: those of the configuration, or else
    those of the language. -/
def extensions (config : Config) (frontend : Frontend) : List String :=
  if config.checker.extensions.isEmpty then frontend.extensions else config.checker.extensions

/-- The run of a setup, started in a directory with an absolute path. -/
def ofSetup (directory : String) (s : Setup) : Except RunError Run := do
  let some frontend := s.frontend | throw .missingFrontend
  let checker := s.config.checker
  let excludes ← (s.excludes ++ checker.exclude).mapM glob
  let enabled := s.registrations.filter fun registration =>
    s.config.isEnabled registration.check.name
  let checks ← (CheckSet.ofRegistrations enabled).mapError .badChecks
  let selection : Selection :=
    { root := Path.join directory (s.root.getD checker.root)
      extensions := extensions s.config frontend
      excludes, respectGitignore := checker.respectGitignore }
  return { selection, checks, frontend, config := s.config
           strict := s.failOnParseError.getD checker.failOnParseError }

/-- A violation with the severity that the configuration sets for its check. -/
def withConfiguredSeverity (c : Config) (v : Violation) : Violation :=
  match c.severity? v.check with
  | some severity => { v with severity }
  | none => v

/-- The violations of a source text, reported under a path. -/
def checkSource (r : Run) (path source : String) : Except ParseError (List Violation) := do
  let unit := (Path.fileName? path).getD ""
  let tree ← r.frontend.parse unit source r.config.checker.tabWidth.toUInt64
  return (r.checks.inspect { path, tree }).map (withConfiguredSeverity r.config)

/-- The violations of a file, or why it cannot be checked. -/
def checkFile (r : Run) (file : SourceFile) : Except FileError (List Violation) :=
  match String.fromUTF8? file.bytes with
  | none => .error .notText
  | some source => (r.checkSource file.path source).mapError .unparsable

/-- What a file adds to the findings of a run that goes on. -/
def violations (r : Run) (file : SourceFile) : List Violation :=
  match r.checkFile file with
  | .ok vs => vs
  | .error e => [e.violation file.path]

/-- What a file adds to the findings of the run. -/
def outcome (r : Run) (file : SourceFile) : Except RunError (List Violation) :=
  match r.strict, r.checkFile file with
  | true, .error e => .error (.badFile file.path e)
  | _, _ => .ok (r.violations file)

/-- The files of the run, in the order of their paths. -/
def files (r : Run) (t : FileTree) : Except RunError (List SourceFile) :=
  match r.selection.files? t with
  | some files => .ok files
  | none => .error (.noFiles r.selection.root)

/-- The findings of the run on the files of a tree, ordered by place. -/
def findings (r : Run) (t : FileTree) : Except RunError Findings := do
  let files ← r.files t
  let outcomes ← files.mapM r.outcome
  return Findings.sort { violations := outcomes.flatten, filesChecked := files.length }

end Run

end JavaLint
