/-!
# JSON values

## Main definitions

- `Json` — a JSON value
- `Json.text?`, `Json.items?`, `Json.word?` — the contents of a value, by kind
-/

namespace JavaLint

/-- A JSON value. -/
inductive Json where
  | null
  | bool (value : Bool)
  /-- A number without fraction and exponent, other than `-0`. -/
  | integer (value : Int)
  /-- Any other number, as it is written. -/
  | decimal (literal : String)
  | string (text : String)
  /-- A string, or an object with a name, that holds half a surrogate pair and
      so stands for no text. -/
  | unpaired
  | array (items : List Json)
  /-- The members in their order; a name may occur more than once. -/
  | object (members : List (String × Json))
  deriving Repr, Inhabited

namespace Json

/-- The text of a string. -/
def text? : Json → Option String
  | .string text => some text
  | _ => none

/-- The items of an array. -/
def items? : Json → Option (List Json)
  | .array items => some items
  | _ => none

/-- The number of an integer from 0 to 2^64 - 1. -/
def word? : Json → Option Nat
  | .integer n => if 0 ≤ n && n < UInt64.size then some n.toNat else none
  | _ => none

/-- The texts of an array of strings. -/
def texts? (j : Json) : Option (List String) :=
  j.items?.bind (·.mapM text?)

end Json

end JavaLint
