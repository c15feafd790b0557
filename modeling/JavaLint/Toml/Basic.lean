import JavaLint.Number.Binary64
/-!
# TOML values

## Main definitions

- `Toml` — a TOML value
- `Toml.text?`, `Toml.flag?`, `Toml.texts?`, `Toml.word?` — the contents of a value, by kind
-/

namespace JavaLint

/-- A TOML value. A date or time is kept in its normal form. -/
inductive Toml where
  | string (text : String)
  | integer (value : Int)
  | float (value : Binary64)
  | boolean (value : Bool)
  | datetime (text : String)
  | array (items : List Toml)
  /-- The entries of a table; each key occurs once. -/
  | table (entries : List (String × Toml))
  deriving Repr, Inhabited

/-- The entries of a TOML table. -/
abbrev TomlTable := List (String × Toml)

namespace Toml

/-- The text of a string. -/
def text? : Toml → Option String
  | .string text => some text
  | _ => none

/-- The truth value of a boolean. -/
def flag? : Toml → Option Bool
  | .boolean value => some value
  | _ => none

/-- The items of an array. -/
def items? : Toml → Option (List Toml)
  | .array items => some items
  | _ => none

/-- The texts of an array of strings. -/
def texts? (v : Toml) : Option (List String) :=
  v.items?.bind (·.mapM text?)

/-- The entries of a table. -/
def entries? : Toml → Option TomlTable
  | .table entries => some entries
  | _ => none

/-- The value of an integer that is not negative. -/
def word? : Toml → Option Nat
  | .integer n => if 0 ≤ n then some n.toNat else none
  | _ => none

/-- An array or a table without contents. -/
def isVoid : Toml → Bool
  | .array items => items.isEmpty
  | .table entries => entries.isEmpty
  | _ => false

end Toml

end JavaLint
