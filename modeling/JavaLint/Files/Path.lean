import JavaLint.Text.Split
/-!
# File paths

A path is a text; what it names is its list of components. Repeated and
trailing slashes and inner `.` steps do not count, a leading `.` does.

## Main definitions

- `Path.Component`, `Path.components` — the steps of a path
- `Path.compare`, `Path.same` — order and equality by components
- `Path.fileName?`, `Path.extension?`, `Path.parent?`, `Path.join` — parts of a path
- `Path.ancestors` — a path and those above it
-/

namespace JavaLint.Path

/-- A step of a path, in the order of the constructors. -/
inductive Component where
  | root
  | current
  | parent
  | name (text : String)
  deriving DecidableEq, Repr, Inhabited

namespace Component

/-- The place of the kind of a step in the order. -/
def rank : Component → Nat
  | .root => 0
  | .current => 1
  | .parent => 2
  | .name _ => 3

/-- Steps compare by kind and names by their characters. -/
def compare (a b : Component) : Ordering :=
  match a, b with
  | .name s, .name t => Ord.compare s t
  | a, b => Ord.compare a.rank b.rank

/-- A step as it is written. -/
def text : Component → String
  | .root => "/"
  | .current => "."
  | .parent => ".."
  | .name s => s

end Component

/-- The pieces of a path between slashes. -/
def pieces (cs : List Char) : List (List Char) :=
  Text.splitChars (· == '/') cs

/-- The steps of the pieces of a path; only the first piece may be a `.` that counts. -/
def stepsOf (first : Bool) : List (List Char) → List Component
  | [] => []
  | piece :: rest =>
    if piece = [] then stepsOf first rest
    else if piece = ['.'] then
      if first then .current :: stepsOf false rest else stepsOf false rest
    else if piece = ['.', '.'] then .parent :: stepsOf false rest
    else .name (String.ofList piece) :: stepsOf false rest

/-- The steps of a path. -/
def components (path : String) : List Component :=
  match path.toList with
  | '/' :: rest => .root :: stepsOf false (pieces rest)
  | cs => stepsOf true (pieces cs)

/-- Lists of steps compare step by step; a list sorts before its extensions. -/
def compareSteps : List Component → List Component → Ordering
  | [], [] => .eq
  | [], _ :: _ => .lt
  | _ :: _, [] => .gt
  | a :: as, b :: bs => (a.compare b).then (compareSteps as bs)

/-- Paths compare by their steps. -/
def compare (a b : String) : Ordering :=
  compareSteps (components a) (components b)

/-- Two paths are the same if their steps are. -/
def same (a b : String) : Bool :=
  components a == components b

/-- A path that starts at the root. -/
def isAbsolute (path : String) : Bool :=
  path.toList.head? == some '/'

/-- The text of a list of steps. -/
def ofComponents : List Component → String
  | [] => ""
  | .root :: rest => "/" ++ relative rest
  | steps => relative steps
where
  /-- The steps with a slash between each two of them. -/
  relative : List Component → String
    | [] => ""
    | [step] => step.text
    | step :: rest => step.text ++ "/" ++ relative rest

/-- The path `path` seen from `base`; an absolute path stays as it is. -/
def join (base path : String) : String :=
  if isAbsolute path || base.isEmpty then path
  else if base.toList.getLast? == some '/' then base ++ path
  else base ++ "/" ++ path

/-- The last step of a path, if it is a name. -/
def fileName? (path : String) : Option String :=
  match (components path).getLast? with
  | some (.name s) => some s
  | _ => none

/-- The text after the last dot of a file name; a leading dot starts no extension. -/
def extensionOf? (name : String) : Option String :=
  let cs := name.toList.reverse
  match cs.dropWhile (· != '.') with
  | [] | [_] => none
  | _ :: _ :: _ => some (String.ofList (cs.takeWhile (· != '.')).reverse)

/-- The extension of the file name of a path. -/
def extension? (path : String) : Option String :=
  match fileName? path with
  | some ".." => none
  | some name => extensionOf? name
  | none => none

/-- Pieces of a path without those at the end that are no steps. The first
    piece stays: it says where the path starts. -/
def trimPieces (ps : List (List Char)) : List (List Char) :=
  ps.take 1 ++ ((ps.drop 1).reverse.dropWhile fun piece => piece = [] || piece = ['.']).reverse

/-- The path without its last step, otherwise as it is written; the root and
    the empty path have no parent. -/
def parent? (path : String) : Option String :=
  match trimPieces (pieces path.toList) with
  | [] | [[]] => none
  | ps => match trimPieces ps.dropLast with
    | [] => some ""
    | [[]] => some "/"
    | ps => some (Text.join "/" (ps.map String.ofList))

/-- A path, its parent, the parent of that and so on; `count` bounds their number. -/
def ancestorsUpTo : (count : Nat) → String → List String
  | 0, _ => []
  | count + 1, path => path :: (match parent? path with
    | some parent => ancestorsUpTo count parent
    | none => [])

/-- A path and all paths above it, as far as its text shows them. -/
def ancestors (path : String) : List String :=
  ancestorsUpTo (path.length + 1) path

end JavaLint.Path
