import JavaLint.Config.Checks
/-!
# Tables that repeat the standard settings

A configuration without a table for the checker has the standard settings. One whose
table writes nothing but standard values has them too, apart from the patterns of files
to leave out: these are the standard ones only if the table writes them.

## Main definitions

- `CheckerSettings.Restates` — a table writes nothing but standard values
- `CheckerSettings.restated` — the settings of such a table
- `Config.AddsCheckerTable` — a table for the checker is added to a configuration

## Main statements

- `CheckerSettings.ofToml?_of_restates` — what a table of standard values sets
- `Config.parse_of_addsCheckerTable` — what becomes of a configuration by adding it
-/

namespace JavaLint

namespace CheckerSettings

variable {settings : TomlTable}

/-- A table writes nothing but standard values. -/
structure Restates (settings : TomlTable) : Prop where
  root : ∀ v, settings.lookup "root" = some v → v.text? = some standard.root
  exclude : ∀ v, settings.lookup "exclude" = some v → v.texts? = some standard.exclude
  extensions : ∀ v, settings.lookup "extensions" = some v → v.texts? = some standard.extensions
  respectGitignore : ∀ v, settings.lookup "respect_gitignore" = some v →
    v.flag? = some standard.respectGitignore
  tabWidth : ∀ v, settings.lookup "tab_width" = some v → v.word? = some standard.tabWidth
  failOnParseError : ∀ v, settings.lookup "fail_on_parse_error" = some v →
    v.flag? = some standard.failOnParseError

/-- Does a table write the patterns of files to leave out? -/
def writesExclude (settings : TomlTable) : Bool :=
  (settings.lookup "exclude").isSome

/-- The standard settings, where patterns of files to leave out hold if they are written. -/
def restated (settings : TomlTable) : CheckerSettings :=
  { standard with exclude := if writesExclude settings then standard.exclude else [] }

theorem restated_of_writesExclude (h : writesExclude settings = true) : restated settings = standard := by
  unfold restated
  rw [if_pos h]

theorem restated_of_not_writesExclude (h : writesExclude settings = false) :
    restated settings = { standard with exclude := [] } := by
  unfold restated
  rw [if_neg (Bool.not_eq_true _ ▸ h)]

/-- A setting that is not written, or written as its default, has its default. -/
theorem setting?_eq_some {α : Type} {read : Toml → Option α} {default : α} {entry : Option Toml}
    (h : ∀ v, entry = some v → read v = some default) : setting? read default entry = some default := by
  cases entry with
  | none => rfl
  | some v => exact h v rfl

/-- A table that writes nothing but standard values sets them, apart from patterns that it
    does not write. -/
theorem ofToml?_of_restates (h : Restates settings) :
    ofToml? (.table settings) = some (restated settings) := by
  have hexclude : setting? Toml.texts? [] (settings.lookup "exclude") =
      some (if writesExclude settings then standard.exclude else []) := by
    unfold writesExclude
    cases hentry : settings.lookup "exclude" with
    | none => rfl
    | some v => exact h.exclude v hentry
  have hroot := setting?_eq_some h.root
  have hextensions := setting?_eq_some h.extensions
  have hgitignore := setting?_eq_some h.respectGitignore
  have htab := setting?_eq_some h.tabWidth
  have hfail := setting?_eq_some h.failOnParseError
  simp only [standard] at hroot hextensions hgitignore htab hfail
  simp only [ofToml?, values?, keys, List.map_cons, List.map_nil, Option.bind_eq_bind, Option.bind_some,
    hexclude, hroot, hextensions, hgitignore, htab, hfail]
  rfl

end CheckerSettings

namespace Config

variable {entries entries' settings : TomlTable} {text text' : String} {c : Config}

/-- The entries of a configuration without a table for the checker, and with one. -/
structure AddsCheckerTable (entries entries' settings : TomlTable) : Prop where
  lookup_eq_none : entries.lookup "checker" = none
  lookup_eq_some : entries'.lookup "checker" = some (.table settings)
  lookup_eq : ∀ key, key ≠ "checker" → entries'.lookup key = entries.lookup key

/-- The configuration with the settings of a table that writes nothing but standard values. -/
def withRestated (c : Config) (settings : TomlTable) : Config :=
  { c with checker := .restated settings }

theorem ofTable?_of_addsCheckerTable (h : AddsCheckerTable entries entries' settings)
    (hsettings : CheckerSettings.Restates settings) :
    ofTable? entries' = (ofTable? entries).map (·.withRestated settings) := by
  have hpreset := h.lookup_eq "preset" (by decide)
  have hchecks := h.lookup_eq "checks" (by decide)
  have hchecker : CheckerSettings.setting? CheckerSettings.ofToml? .standard
      (some (.table settings)) = some (.restated settings) :=
    CheckerSettings.ofToml?_of_restates hsettings
  have hstandard : CheckerSettings.setting? CheckerSettings.ofToml? .standard none = some .standard :=
    rfl
  unfold ofTable?
  rw [h.lookup_eq_none, h.lookup_eq_some, hpreset, hchecks, hchecker, hstandard]
  cases Section.optional? Toml.text? (entries.lookup "preset") with
  | none => rfl
  | some preset =>
    cases CheckerSettings.setting? sectionsOf? .empty (entries.lookup "checks") <;> rfl

theorem checker_of_ofTable? (h : entries.lookup "checker" = none) (hc : ofTable? entries = some c) :
    c.checker = .standard := by
  unfold ofTable? at hc
  rw [h] at hc
  obtain ⟨preset, -, hc⟩ := Option.bind_eq_some_iff.1 hc
  obtain ⟨checker, hchecker, hc⟩ := Option.bind_eq_some_iff.1 hc
  obtain ⟨checks, -, hc⟩ := Option.bind_eq_some_iff.1 hc
  rw [← Option.some.inj hc]
  exact (Option.some.inj hchecker).symm

/-- A configuration without a table for the checker has the standard settings. With one
    that writes nothing but standard values it is one just if it was one before, and
    differs in the patterns of files to leave out, unless the table writes them. -/
theorem parse_of_addsCheckerTable (htext : Toml.parse? text = some entries)
    (htext' : Toml.parse? text' = some entries') (h : AddsCheckerTable entries entries' settings)
    (hsettings : CheckerSettings.Restates settings) :
    parse text' = (parse text).map (·.withRestated settings) ∧
      ∀ c, parse text = .ok c → c.checker = .standard := by
  unfold parse
  rw [htext, htext', Option.bind_some, Option.bind_some, ofTable?_of_addsCheckerTable h hsettings]
  cases hc : ofTable? entries with
  | none => exact ⟨rfl, nofun⟩
  | some c =>
    refine ⟨rfl, ?_⟩
    rintro _ ⟨⟩
    exact checker_of_ofTable? h.lookup_eq_none hc

end Config

end JavaLint
