import JavaLint.Text.Digits
import JavaLint.Text.Split
/-!
# Message texts

A violation carries a key and arguments; the text comes from a catalog of
templates. A placeholder `{0}` stands for the first argument, and so on.

## Main definitions

- `Message.template?` — the template of a key
- `Message.substitution?` — the argument that the text after an opening brace asks for
- `Message.renderTemplate` — a template with its placeholders replaced by arguments
- `Message.render` — the text of a key with its arguments

## Design notes

A template is read once from left to right. What is written already is not looked
at again, so the text of an argument is never searched for placeholders.
-/

namespace JavaLint.Message

/-- The key of a name that does not match its pattern. Arguments: the name and the pattern. -/
def invalidPattern : String := "name.invalidPattern"

/-- The key of a file that cannot be parsed. Argument: what the parser says. -/
def parseError : String := "parse.error"

/-- The key of a file that cannot be read. Argument: what the file system says. -/
def readError : String := "read.error"

/-- The templates, by key. -/
def catalog : List (String × String) :=
  [(invalidPattern, "Name '\x7b0\x7d' must match pattern '\x7b1\x7d'."),
    (parseError, "Unable to parse file: \x7b0\x7d"),
    (readError, "Unable to read file: \x7b0\x7d")]

/-- The template of a key. -/
def template? (key : String) : Option String :=
  catalog.lookup key

/-- The opening brace of a placeholder. -/
def openBrace : Char := '\x7b'

/-- The closing brace of a placeholder. -/
def closeBrace : Char := '\x7d'

/-- The index that the text of a placeholder names: decimal digits, after an
    optional plus sign. -/
def index? (source : List Char) : Option Nat :=
  let digits := match source with
    | '+' :: rest => rest
    | _ => source
  if !digits.isEmpty && digits.all Char.isDigit then some (Text.digitsValue 10 digits) else none

/-- The argument in place of an opening brace and what follows up to the next
    closing one, and the text behind that, if an argument is asked for there. -/
def substitution? (args : List String) (after : List Char) : Option (String × List Char) :=
  match after.dropWhile (· != closeBrace) with
  | [] => none
  | _ :: rest =>
    ((index? (after.takeWhile (· != closeBrace))).bind fun index => args[index]?).map fun arg =>
      (arg, rest)

theorem length_lt_of_dropWhile_eq_cons {stop : Char → Bool} {cs rest : List Char} {c : Char}
    (h : cs.dropWhile stop = c :: rest) : rest.length < cs.length := by
  have hle : (c :: rest).length ≤ cs.length := h ▸ (List.dropWhile_suffix stop).length_le
  exact hle

/-- An argument is put in place of a text that is not empty. -/
theorem length_lt_of_substitution? {args : List String} {after rest : List Char} {arg : String}
    (h : substitution? args after = some (arg, rest)) : rest.length < after.length := by
  unfold substitution? at h
  split at h
  · cases h
  · next hdrop =>
    obtain ⟨_, -, heq⟩ := Option.map_eq_some_iff.1 h
    obtain ⟨-, rfl⟩ := Prod.mk.inj heq
    exact length_lt_of_dropWhile_eq_cons hdrop

/-- Writes the rest of a template behind `out`, with arguments in place of the
    placeholders. A brace that opens no placeholder stands for itself, and text
    after it may open one again. -/
def renderRest (args : List String) (out rest : List Char) : List Char :=
  match _ : rest.dropWhile (· != openBrace) with
  | [] => out ++ rest
  | _ :: after =>
    let out := out ++ rest.takeWhile (· != openBrace)
    match _ : substitution? args after with
    | some (arg, behind) => renderRest args (out ++ arg.toList) behind
    | none => renderRest args (out ++ [openBrace]) after
termination_by rest.length
decreasing_by
  · exact Nat.lt_trans (length_lt_of_substitution? ‹_›) (length_lt_of_dropWhile_eq_cons ‹_›)
  · exact length_lt_of_dropWhile_eq_cons ‹_›

/-- A template with its placeholders replaced by the arguments. -/
def renderTemplate (template : String) (args : List String) : String :=
  String.ofList (renderRest args [] template.toList)

/-- The text of a key with its arguments. An unknown key is written as it is,
    followed by its arguments. -/
def render (key : String) (args : List String) : String :=
  match template? key with
  | some template => renderTemplate template args
  | none => if args.isEmpty then key else key ++ ": " ++ Text.join ", " args

end JavaLint.Message
