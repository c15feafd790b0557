import JavaLint.Regex.Basic
/-!
# Patterns of ignore files

A pattern of an ignore file describes whole paths, byte by byte. `?` and `*`
do not stand for a slash; `**` as a whole step stands for any number of steps;
braces enclose alternatives; a backslash takes the special meaning from the
character after it.

## Main definitions

- `IgnorePattern.Part` — the parts of a pattern
- `IgnorePattern.parts?` — the parts that a text writes
- `IgnorePattern.compile?`, `IgnorePattern.byteText` — the pattern as a regular expression
  over bytes, and the text it is matched against

## Design notes

A regular expression over bytes is one over the characters up to `ÿ`; the
bytes of a path are turned into such characters before they are matched.
-/

namespace JavaLint.IgnorePattern

/-- The parts of a pattern. -/
inductive Part where
  /-- A character that stands for itself. -/
  | literal (c : Char)
  /-- One byte other than a slash. -/
  | anyByte
  /-- Any bytes other than slashes. -/
  | anyName
  /-- Any steps at the start of a path. -/
  | leadingSteps
  /-- A slash and any steps at the end of a path. -/
  | trailingSteps
  /-- A slash, or any steps between two slashes. -/
  | innerSteps
  /-- One byte of a set, or one byte that is not in it. -/
  | byteOf (negated : Bool) (ranges : List (Char × Char))
  /-- One of several alternatives, none of which is empty. -/
  | group (alternatives : List Regex)
  deriving Inhabited

/-! ## Sets in brackets -/

/-- What follows an opening bracket. -/
inductive Bracket where
  | set (negated : Bool) (ranges : List (Char × Char)) (rest : List Char)
  | unclosed
  | malformed

/-- The rest of a set. `ranges` has the latest range first, `isOpen` says that it
    waits for its upper end, and `first` that no member has been read. -/
def bracketItems (negated : Bool) (ranges : List (Char × Char)) (isOpen first : Bool) :
    List Char → Bracket
  | [] => .unclosed
  | c :: cs =>
    if c = ']' && !first then
      .set negated (if isOpen then ranges ++ [('-', '-')] else ranges) cs
    else if c = '-' && !first && !isOpen then bracketItems negated ranges true false cs
    else match isOpen, ranges with
      | true, (lo, _) :: more =>
        if c < lo then .malformed else bracketItems negated ((lo, c) :: more) false false cs
      | _, _ => bracketItems negated ((c, c) :: ranges) false false cs

/-- The set after an opening bracket. -/
def bracket : List Char → Bracket
  | '!' :: cs | '^' :: cs => bracketItems true [] false true cs
  | cs => bracketItems false [] false true cs

/-- What follows a set is shorter than the text after its bracket. -/
theorem length_of_bracketItems {negated negated' : Bool} {ranges ranges' : List (Char × Char)}
    {isOpen first : Bool} {cs rest : List Char}
    (h : bracketItems negated ranges isOpen first cs = .set negated' ranges' rest) :
    rest.length < cs.length := by
  induction cs generalizing ranges isOpen first with
  | nil => cases h
  | cons c cs ih =>
    have up {n : Nat} (hn : n < cs.length) : n < (c :: cs).length := Nat.lt_succ_of_lt hn
    simp only [bracketItems] at h
    split at h
    · obtain ⟨-, -, rfl⟩ := Bracket.set.inj h
      exact Nat.lt_succ_self _
    · split at h
      · exact up (ih h)
      · split at h
        · split at h
          · cases h
          · exact up (ih h)
        · exact up (ih h)

/-- A set takes at least one character. -/
theorem length_of_bracket {negated : Bool} {ranges : List (Char × Char)} {cs rest : List Char}
    (h : bracket cs = .set negated ranges rest) : rest.length < cs.length := by
  unfold bracket at h
  split at h
  · exact Nat.lt_succ_of_lt (length_of_bracketItems h)
  · exact Nat.lt_succ_of_lt (length_of_bracketItems h)
  · exact length_of_bracketItems h

/-! ## Expressions over bytes -/

/-- The byte `b` as a set. -/
def byteSet (b : UInt8) : CharSet := .range b.toNat b.toNat

/-- All bytes but the slash. -/
def notSlash : CharSet := .compl (.single '/')

/-- Any number of bytes of a set. -/
def many (set : CharSet) : Regex := .repetition (.chars set) 0 none

/-- A slash. -/
def slash : Regex := .chars (.single '/')

/-- The bytes that a range of characters stands for: those from the last byte
    of the first character to the first byte of the last one, and the other
    bytes of both. -/
def rangeSet (lo hi : Char) : CharSet :=
  let low := lo.toString.toUTF8.toList
  let high := hi.toString.toUTF8.toList
  if lo = hi then .unions (low.map byteSet)
  else .unions ((low.dropLast ++ high.drop 1).map byteSet ++
    [.range (low.getLastD 0).toNat (high.headD 0).toNat])

/-- A part as an expression, unless it stands for nothing at all. -/
def Part.regex? : Part → Option Regex
  | .literal c => some (.concats (c.toString.toUTF8.toList.map fun b => .chars (byteSet b)))
  | .anyByte => some (.chars notSlash)
  | .anyName => some (many notSlash)
  | .leadingSteps => some (.alt (.repetition slash 0 (some 1)) (.concat (many .all) slash))
  | .trailingSteps => some (.concat slash (many .all))
  | .innerSteps => some (.alt slash (.concats [slash, many .all, slash]))
  | .byteOf negated ranges =>
    let set := CharSet.unions (ranges.map fun (lo, hi) => rangeSet lo hi)
    some (.chars (if negated then .compl set else set))
  | .group [] => none
  | .group alternatives => some (.alts alternatives)

/-- Parts one after the other, unless all of them stand for nothing. -/
def regexOf? (parts : List Part) : Option Regex :=
  match parts.filterMap Part.regex? with
  | [] => none
  | rs => some (.concats rs)

/-! ## Reading a pattern -/

/-- The alternatives of a pair of braces, or a whole pattern: the finished
    alternatives and the parts of the current one, the latest ones first. -/
structure Level where
  finished : List (List Part) := []
  parts : List Part := []
  deriving Inhabited

/-- The parts read so far: those of the innermost level and of the ones around it. -/
structure Reading where
  level : Level := {}
  outer : List Level := []
  deriving Inhabited

namespace Reading

/-- One more part. -/
def push (r : Reading) (part : Part) : Reading :=
  { r with level.parts := part :: r.level.parts }

/-- Is the reader between braces? -/
def inBraces (r : Reading) : Bool :=
  !r.outer.isEmpty

/-- An opening brace. -/
def openBrace (r : Reading) : Reading :=
  { level := {}, outer := r.level :: r.outer }

/-- A comma, which ends an alternative between braces. -/
def comma (r : Reading) : Reading :=
  if r.inBraces then { r with level := ⟨r.level.parts :: r.level.finished, []⟩ }
  else r.push (.literal ',')

/-- A closing brace. -/
def closeBrace? (r : Reading) : Option Reading :=
  match r.outer with
  | [] => none
  | level :: outer =>
    let alternatives := (r.level.parts :: r.level.finished).reverse.map List.reverse
    some { level := { level with parts := .group (alternatives.filterMap regexOf?) :: level.parts }
           outer }

/-- Two stars with steps on both sides, or at the end of a path if `atEnd`.
    They take the place of the slash before them. -/
def steps (r : Reading) (atEnd : Bool) : Reading :=
  let part : Part := match r.level.parts.head? with
    | some .leadingSteps => .leadingSteps
    | some .trailingSteps => .trailingSteps
    | _ => if atEnd then .trailingSteps else .innerSteps
  { r with level.parts := part :: r.level.parts.drop 1 }

/-- Two stars before `rest`, after the character `before`, and whether the
    slash that starts `rest` belongs to them. -/
def twoStars (r : Reading) (before : Option Char) (rest : List Char) : Reading × Bool :=
  let next := rest.head?
  if r.level.parts.isEmpty then
    if next.all (· == '/') then (r.push .leadingSteps, next == some '/')
    else (r.push .anyName, false)
  else if before != some '/' && !(r.inBraces && (before == some ',' || before == some '\x7b')) then
    (r.push .anyName, false)
  else if next == none || (r.inBraces && (next == some ',' || next == some '\x7d')) then
    (r.steps true, false)
  else if next == some '/' then (r.steps false, true)
  else (r.push .anyName, false)

end Reading

/-- The parts of a pattern. `before` is the character just read, and
    `plainBrackets` says that an opening bracket stands for itself. -/
def read? (before : Option Char) (plainBrackets : Bool) (r : Reading) :
    List Char → Option Reading
  | [] => some r
  | '?' :: cs => read? (some '?') plainBrackets (r.push .anyByte) cs
  | '*' :: '*' :: cs =>
    let (r, takesSlash) := r.twoStars before cs
    if takesSlash then read? (some '/') plainBrackets r (cs.drop 1)
    else read? (some '*') plainBrackets r cs
  | '*' :: cs => read? (some '*') plainBrackets (r.push .anyName) cs
  | '\x7b' :: cs => read? (some '\x7b') plainBrackets r.openBrace cs
  | '\x7d' :: cs => r.closeBrace?.bind fun r => read? (some '\x7d') plainBrackets r cs
  | ',' :: cs => read? (some ',') plainBrackets r.comma cs
  | '\\' :: c :: cs => read? (some c) plainBrackets (r.push (.literal c)) cs
  | ['\\'] => none
  | c :: cs =>
    if c = '[' && !plainBrackets then
      match h : bracket cs with
      | .set negated ranges rest =>
        have := length_of_bracket h
        read? (some ']') plainBrackets (r.push (.byteOf negated ranges)) rest
      | .unclosed => read? (some '[') true (r.push (.literal '[')) cs
      | .malformed => none
    else read? (some c) plainBrackets (r.push (.literal c)) cs
termination_by cs => cs.length
decreasing_by all_goals simp_wf <;> omega

/-- The parts of the pattern that a text writes. Braces must be closed. -/
def parts? (text : String) : Option (List Part) := do
  let r ← read? none false {} text.toList
  if r.inBraces then none else some r.level.parts.reverse

/-- The expression that matches the whole of a path. Two stars alone match every path. -/
def whole : List Part → Regex
  | [.leadingSteps] => .concats [.look .textStart, many .all, .look .textEnd]
  | parts => .concats ([.look .textStart] ++ parts.filterMap Part.regex? ++ [.look .textEnd])

/-- The pattern that a text writes. -/
def compile? (text : String) : Option Regex :=
  (parts? text).map whole

/-- A path with a character for each of its bytes. -/
def byteText (path : String) : String :=
  String.ofList (path.toUTF8.toList.map fun b => Char.ofNat b.toNat)

end JavaLint.IgnorePattern
