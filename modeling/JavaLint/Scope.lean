import JavaLint.Text.Blank
import JavaLint.Text.Split
/-!
# Visibility scopes

A scope says from where a declaration can be reached. Scopes are ordered from
the most to the least visible one.

## Main definitions

- `Scope` — the five visibility classes
- `Scope.isIn` — "at least as visible as"
- `Scope.leastVisible` — the less visible of two scopes
- `ScopeFilter` — a range of scopes, and `ScopeFilter.accepts`
-/

namespace JavaLint

/-- The visibility class of a declaration, most visible first: public,
    protected, package, private, and `anonInner`, the scope of everything inside
    the body of an anonymous class. -/
inductive Scope where
  | pub
  | prot
  | pack
  | priv
  | anonInner
  deriving DecidableEq, Repr, Inhabited

namespace Scope

/-- Every scope, most visible first. -/
def all : List Scope := [.pub, .prot, .pack, .priv, .anonInner]

/-- The name of a scope in configuration files. -/
def name : Scope → String
  | .pub => "public"
  | .prot => "protected"
  | .pack => "package"
  | .priv => "private"
  | .anonInner => "anoninner"

/-- The place of a scope in the order, zero for the most visible one. -/
def rank : Scope → Nat
  | .pub => 0
  | .prot => 1
  | .pack => 2
  | .priv => 3
  | .anonInner => 4

/-- `a.isIn b` holds if `a` is at least as visible as `b`. -/
def isIn (a b : Scope) : Bool :=
  a.rank ≤ b.rank

/-- The less visible of two scopes. -/
def leastVisible (a b : Scope) : Scope :=
  if a.isIn b then b else a

/-- Scopes compare by their place in the order. -/
instance : Ord Scope := ⟨fun a b => compare a.rank b.rank⟩

/-- The scope with the given name; surrounding blanks and ASCII case do not matter. -/
def ofName? (s : String) : Option Scope :=
  all.find? fun scope => Text.sameIgnoringCase scope.name (Text.trim s)

/-- What is said about a name that no scope has. -/
def unknownMessage (s : String) : String :=
  "unknown scope '" ++ s ++ "' (expected one of: " ++ Text.join ", " (all.map name) ++ ")"

end Scope

/-- A range of scopes: from the most visible one down to `floor`, without
    `excluded` and everything more visible than that. -/
structure ScopeFilter where
  /-- The least visible scope accepted; without it there is no lower end. -/
  floor : Option Scope := none
  /-- The least visible scope that is refused. -/
  excluded : Option Scope := none
  deriving DecidableEq, Repr, Inhabited

namespace ScopeFilter

/-- Refusal wins over the floor. -/
def accepts (filter : ScopeFilter) (resolved : Scope) : Bool :=
  !(filter.excluded.any resolved.isIn) && filter.floor.all resolved.isIn

end ScopeFilter

end JavaLint
