import JavaLint.Config.Error
import JavaLint.KeyMap
import JavaLint.Toml.Document
import JavaLint.Violation
/-!
# Check sections

The configuration of a check is a section: whether the check is enabled, its
severity, and options that only the check itself understands.

## Main definitions

- `Section` — the configuration of a check
- `Section.flag?`, `Section.text?`, `Section.scope?`, `Section.tokens?` — options by type
- `Section.overlay` — a section laid over another one
- `Section.parse?` — the section that a text writes
-/

namespace JavaLint

/-- The configuration of a check. -/
structure Section where
  enabled : Option Bool := none
  severity : Option Severity := none
  options : KeyMap String Toml := .empty
  deriving Inhabited

namespace Section

/-- The key of the option that says whether a check is enabled. -/
def enabledKey : String := "enabled"

/-- The key of the option that sets the severity of a check. -/
def severityKey : String := "severity"

/-- The error about an option of the wrong type. -/
def wrongType (key expected : String) : ConfigError :=
  .invalidOption key expected

/-- The value of a boolean option. -/
def flag? (s : Section) (key : String) : Except ConfigError (Option Bool) :=
  match s.options.get? key with
  | none => .ok none
  | some v => match v.flag? with
    | some value => .ok (some value)
    | none => .error (wrongType key "a boolean")

/-- The value of a text option. -/
def text? (s : Section) (key : String) : Except ConfigError (Option String) :=
  match s.options.get? key with
  | none => .ok none
  | some v => match v.text? with
    | some text => .ok (some text)
    | none => .error (wrongType key "a string")

/-- The value of an option that names a scope. -/
def scope? (s : Section) (key : String) : Except ConfigError (Option Scope) :=
  match s.text? key with
  | .error e => .error e
  | .ok none => .ok none
  | .ok (some name) => match Scope.ofName? name with
    | some scope => .ok (some scope)
    | none => .error (.unknownScope name)

/-- The token with a given name. -/
def tokenNamed (name : String) : Except ConfigError Token :=
  match Token.ofName? name with
  | some token => .ok token
  | none => .error (.unknownToken name)

/-- The names in an option that lists tokens: the items of an array of texts,
    or the pieces of a text between commas other than blank ones. -/
def tokenNames (key : String) : Toml → Except ConfigError (List String)
  | .string text => .ok ((Text.splitCommas text).filter fun piece => !(Text.trim piece).isEmpty)
  | .array items => items.mapM fun item => match item.text? with
    | some name => .ok name
    | none => .error (wrongType key "an array of strings")
  | _ => .error (wrongType key "an array of token names")

/-- The value of an option that lists tokens. -/
def tokens? (s : Section) (key : String) : Except ConfigError (Option (List Token)) :=
  match s.options.get? key with
  | none => .ok none
  | some v => match tokenNames key v with
    | .error e => .error e
    | .ok names => match names.mapM tokenNamed with
      | .error e => .error e
      | .ok tokens => .ok (some tokens)

/-- The section `top` laid over `base`: whatever `top` sets wins. -/
def overlay (base top : Section) : Section :=
  { enabled := top.enabled.or base.enabled
    severity := top.severity.or base.severity
    options := base.options.overlay top.options }

/-- A severity: its name, or a table that maps its name to an empty array or table. -/
def severityOf? : Toml → Option Severity
  | .string name => Severity.ofName? name
  | .table [(name, v)] => if v.isVoid then Severity.ofName? name else none
  | _ => none

/-- The value that a reader finds in an entry; without the entry there is none,
    and an entry that the reader refuses is an error. -/
def optional? {α : Type} (read : Toml → Option α) : Option Toml → Option (Option α)
  | none => some none
  | some v => (read v).map some

/-- The section that a TOML value writes. -/
def ofToml? (v : Toml) : Option Section := do
  let entries ← v.entries?
  let enabled ← optional? Toml.flag? (entries.lookup enabledKey)
  let severity ← optional? severityOf? (entries.lookup severityKey)
  let options := entries.filter fun (key, _) => key != enabledKey && key != severityKey
  return { enabled, severity, options := KeyMap.ofList options }

/-- The section that a text writes. -/
def parse? (text : String) : Option Section :=
  (Toml.parse? text).bind fun entries => ofToml? (.table entries)

end Section

end JavaLint
