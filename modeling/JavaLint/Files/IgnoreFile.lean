import JavaLint.Files.FileTree
import JavaLint.Files.IgnorePattern
import JavaLint.Text.Blank
/-!
# Ignore files

A directory may hold files that say which entries below it are left out of a
run. Each line is a pattern; one that starts with `!` brings entries back.

## Main definitions

- `IgnoreLine.ofText` — what a line says
- `IgnoreFile` — the lines of a file, with the directory they are about
- `IgnoreFile.all` — the ignore files of a tree, the decisive ones first
- `IgnoreFile.ignores` — is an entry left out?

## Design notes

Of the lines of a file that match an entry the last one counts, of the files
of one kind the one that is nearest to the entry, and of the kinds the first
one in `IgnoreFile.kinds`. An entry below an ignored directory is ignored as
well, whatever is said about it.
-/

namespace JavaLint

/-- A rule of an ignore file. -/
structure IgnoreRule where
  /-- What the path of an entry, seen from the file, must look like. -/
  pattern : Regex
  /-- Is the rule about directories only? -/
  onlyDirectories : Bool
  /-- Does the rule bring entries back? -/
  keeps : Bool
  deriving DecidableEq, Inhabited

/-- What a line of an ignore file says. -/
inductive IgnoreLine where
  | blank
  /-- The line is no pattern; it is passed over. -/
  | malformed
  | rule (r : IgnoreRule)
  deriving DecidableEq, Inhabited

namespace IgnoreLine

/-- A line without the blanks at its end, unless the last one is escaped. -/
def trimEnd (cs : List Char) : List Char :=
  match cs.reverse with
  | ' ' :: '\\' :: _ => cs
  | reversed => (reversed.dropWhile Text.isBlank).reverse

/-- The marks at the start of a pattern: does it bring entries back, does it
    start at the directory of the file, and what is left? -/
def marks : List Char → Bool × Bool × List Char
  | '\\' :: '!' :: cs => (false, false, '!' :: cs)
  | '\\' :: '#' :: cs => (false, false, '#' :: cs)
  | '!' :: '/' :: cs => (true, true, cs)
  | '!' :: cs => (true, false, cs)
  | '/' :: cs => (false, true, cs)
  | cs => (false, false, cs)

/-- The slash at the end of a pattern: is it there, and what stands before it? -/
def finalSlash (cs : List Char) : Bool × List Char :=
  match cs.reverse with
  | '/' :: '\\' :: rest => (true, rest.reverse)
  | '/' :: rest => (true, rest.reverse)
  | _ => (false, cs)

/-- A pattern as one for the whole path from the directory of the file. One
    without a slash may match at any depth, and one that ends in `/**` does not
    match the directory itself. -/
def anchored (fromStart : Bool) (cs : List Char) : String :=
  let text := String.ofList cs
  let text :=
    if fromStart || cs.contains '/' || text == "**" then text else "**/" ++ text
  if text.endsWith "/**" then text ++ "/*" else text

/-- What a line says. -/
def ofText (line : String) : IgnoreLine :=
  match line.toList with
  | '#' :: _ => .blank
  | cs => match trimEnd cs with
    | [] => .blank
    | cs =>
      let (keeps, fromStart, cs) := marks cs
      let (onlyDirectories, cs) := finalSlash cs
      match IgnorePattern.compile? (anchored fromStart cs) with
      | some pattern => .rule { pattern, onlyDirectories, keeps }
      | none => .malformed

end IgnoreLine

/-- An ignore file, with the directory that its rules are about. -/
structure IgnoreFile where
  directory : Place
  lines : List IgnoreLine
  deriving Inhabited

namespace IgnoreFile

/-- The lines of a file up to the first one that is not encoded well. -/
def linesOfBytes (bytes : ByteArray) : List String :=
  (Text.splitLines (bytes.toList.map fun b => Char.ofNat b.toNat)).map decode? |>.takeWhile
    Option.isSome |>.filterMap id
where
  /-- The text of a line, given with a character for each byte. -/
  decode? (line : List Char) : Option String :=
    String.fromUTF8? ⟨(line.map fun c => c.toNat.toUInt8).toArray⟩

/-- The mark that a file may start with to say how it is encoded. -/
def byteOrderMark : Char := Char.ofNat 0xFEFF

/-- What the bytes of an ignore file say. -/
def linesOf (bytes : ByteArray) : List IgnoreLine :=
  match linesOfBytes bytes with
  | [] => []
  | first :: rest =>
    (String.ofList (first.toList.dropWhile (· == byteOrderMark)) :: rest).map IgnoreLine.ofText

/-- The places of ignore files below their directory, in the order in which
    they decide. The second one only counts if `git` is set. -/
def kinds (git : Bool) : List Place :=
  [[".ignore"]] ++ (if git then [[".gitignore"]] else []) ++ [[".git", "info", "exclude"]]

/-- The directory of an ignore file of some kind that stands at a place. -/
def directory? (kind place : Place) : Option Place :=
  (kind.reverse.isPrefixOf? place.reverse).map List.reverse

/-- The ignore files of one kind, those with the longest way to them first. -/
def ofKind (t : FileTree) (kind : Place) : List IgnoreFile :=
  let files := (t.filesBelow []).filterMap fun (place, bytes) =>
    (directory? kind place).map fun directory => { directory, lines := linesOf bytes }
  files.mergeSort fun a b => b.directory.length ≤ a.directory.length

/-- The ignore files of a tree, the decisive ones first. -/
def all (t : FileTree) (git : Bool) : List IgnoreFile :=
  (kinds git).flatMap (ofKind t)

/-- Is some line of the file no pattern? -/
def isMalformed (f : IgnoreFile) : Bool :=
  f.lines.any (· == .malformed)

/-- Does a rule say something about an entry with this path? -/
def applies (path : String) (isDirectory : Bool) (r : IgnoreRule) : Bool :=
  (isDirectory || !r.onlyDirectories) && r.pattern.isMatch path

/-- The rules of a file, the last ones first. -/
def rulesReversed (f : IgnoreFile) : List IgnoreRule :=
  f.lines.reverse.filterMap fun line =>
    match line with
    | .rule r => some r
    | _ => none

/-- The rule of a file that decides about an entry below its directory. -/
def deciding? (f : IgnoreFile) (place : Place) (isDirectory : Bool) : Option IgnoreRule :=
  match f.directory.isPrefixOf? place with
  | none | some [] => none
  | some names =>
    f.rulesReversed.find? (applies (IgnorePattern.byteText (Text.join "/" names)) isDirectory)

/-- Do the files, the decisive ones first, leave out an entry? -/
def leaveOut (files : List IgnoreFile) (place : Place) (isDirectory : Bool) : Bool :=
  (files.findSome? (·.deciding? place isDirectory)).any fun r => !r.keeps

/-- Is the file at `base ++ below` left out, because it or a directory on the
    way from `base` to it is? -/
def ignores (files : List IgnoreFile) (base below : Place) : Bool :=
  (List.range below.length).any fun i =>
    leaveOut files (base ++ below.take (i + 1)) (i + 1 != below.length)

end IgnoreFile

end JavaLint
