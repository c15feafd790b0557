import JavaLint.Files.Glob
import JavaLint.Files.IgnoreFile
/-!
# The files of a run

A run is about the files at or below its root that have the right extension
and that neither an ignore file nor a pattern leaves out.

## Main definitions

- `SourceFile` — a file of a run
- `Selection` — what decides about a file
- `Selection.files?` — the files of a run, in the order of their paths

## Design notes

What decides about one file is a condition on that file alone, so the files of
a run are the listing of the tree, filtered.
-/

namespace JavaLint

/-- A file of a run. -/
structure SourceFile where
  /-- The path from the root, or the name of the file if it is the root. -/
  path : String
  bytes : ByteArray

/-- What decides which files a run is about. -/
structure Selection where
  /-- The absolute path of the directory or file to check. -/
  root : String
  extensions : List String
  excludes : List Glob
  /-- Do files named `.gitignore` count? -/
  respectGitignore : Bool

namespace Selection

/-- The path of the file at `names` below the root; the root itself has the empty one. -/
def relativePath (names : Place) : String :=
  Text.join "/" names

/-- The absolute path of the file at `names` below the root. -/
def absolutePath (s : Selection) (names : Place) : String :=
  if names.isEmpty then s.root else Path.join s.root (relativePath names)

/-- Does a pattern match the path of a file from the root, or the absolute one? -/
def isExcluded (s : Selection) (names : Place) : Bool :=
  s.excludes.any fun g => g.accepts (relativePath names) || g.accepts (s.absolutePath names)

/-- Does the file at a place have one of the extensions? -/
def hasExtension (s : Selection) (place : Place) : Bool :=
  ((place.getLast?.bind Path.extensionOf?).any s.extensions.contains)

/-- Is the file at `names` below the root, which stands at `base`, one of the run? -/
def selects (s : Selection) (ignoreFiles : List IgnoreFile) (base names : Place) : Bool :=
  s.hasExtension (base ++ names) && !s.isExcluded names &&
    !IgnoreFile.ignores ignoreFiles base names

/-- Is an ignore file above the root broken? -/
def brokenAbove (ignoreFiles : List IgnoreFile) (base : Place) : Bool :=
  ignoreFiles.any fun f =>
    f.directory != base && f.directory.isPrefixOf base && f.isMalformed

/-- A file as it is reported: a root that is a file goes by its name. -/
def sourceFile (base names : Place) (bytes : ByteArray) : SourceFile :=
  { path := if names.isEmpty then base.getLastD "" else relativePath names, bytes }

/-- The files of a run. There are none if nothing stands at the root, or if it
    is a directory and an ignore file above it is broken. -/
def files? (s : Selection) (t : FileTree) : Option (List SourceFile) :=
  (t.locate? s.root).bind fun base =>
    let ignoreFiles := IgnoreFile.all t s.respectGitignore
    if t.isDirectory base && brokenAbove ignoreFiles base then none
    else
      let found := (t.filesBelow base).filter fun (names, _) => s.selects ignoreFiles base names
      some (found.map fun (names, bytes) => sourceFile base names bytes)

end Selection

end JavaLint
