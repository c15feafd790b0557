import JavaLint.Json.Basic
import JavaLint.Text.Digits
import JavaLint.Text.Split
/-!
# Writing JSON

Values are written over several lines: each item and each member stands on a
line of its own, two columns further in than what encloses it.

## Main definitions

- `Json.quoted` — the written form of a string
- `Json.pretty` — the written form of a value
-/

namespace JavaLint.Json

/-- The written form of a character of a string. Quotes, backslashes and
    control characters are escaped. -/
def quotedChar (c : Char) : List Char :=
  match c with
  | '"' => ['\\', '"']
  | '\\' => ['\\', '\\']
  | '\x08' => ['\\', 'b']
  | '\x0c' => ['\\', 'f']
  | '\n' => ['\\', 'n']
  | '\r' => ['\\', 'r']
  | '\t' => ['\\', 't']
  | c => if c.toNat < 0x20 then '\\' :: 'u' :: Text.hexText 4 c.toNat else [c]

/-- The written form of a string. -/
def quoted (text : String) : String :=
  String.ofList ('"' :: text.toList.flatMap quotedChar ++ ['"'])

/-- A new line that starts `depth` levels in. -/
def lineBreak (depth : Nat) : String :=
  String.ofList ('\n' :: List.replicate (2 * depth) ' ')

/-- Entries between `opening` and `closing`, one to a line; without entries,
    both marks stand together. -/
def block (depth : Nat) (opening closing : String) (entries : List String) : String :=
  if entries.isEmpty then opening ++ closing
  else
    opening ++ lineBreak (depth + 1) ++ Text.join ("," ++ lineBreak (depth + 1)) entries ++
      lineBreak depth ++ closing

mutual

/-- The written form of a value that stands `depth` levels in. -/
def prettyAt (depth : Nat) : Json → String
  | .null | .unpaired => "null"
  | .bool value => if value then "true" else "false"
  | .integer value => toString value
  | .decimal literal => literal
  | .string text => quoted text
  | .array items => block depth "[" "]" (prettyItems (depth + 1) items)
  | .object members => block depth "\x7b" "\x7d" (prettyMembers (depth + 1) members)

/-- The written forms of the items of an array. -/
def prettyItems (depth : Nat) : List Json → List String
  | [] => []
  | item :: rest => prettyAt depth item :: prettyItems depth rest

/-- The written forms of the members of an object. -/
def prettyMembers (depth : Nat) : List (String × Json) → List String
  | [] => []
  | (name, value) :: rest =>
    (quoted name ++ ": " ++ prettyAt depth value) :: prettyMembers depth rest

end

/-- The written form of a value. -/
def pretty (json : Json) : String :=
  prettyAt 0 json

end JavaLint.Json
