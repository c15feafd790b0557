import JavaLint.Proofs.Config.Faults
/-!
# Settings made one by one

The check of parameter names is set up by a section, or by calls that make one setting
after the other. Only the last call for each setting counts, so both ways lead to the same
check.

## Main definitions

- `ParameterName.Setting` — a call that makes a setting
- `ParameterName.ofSettings` — the check after a sequence of calls
- `Section.Records` — a section that holds the last value of each setting
- `Section.ofSettings` — such a section

## Main statements

- `ParameterName.ofSection_of_set` — one more call, and one option exchanged
- `ParameterName.set_comm` — calls for different settings commute
- `ParameterName.ofSettings_agrees` — a sequence of calls, and any section that records it
-/

namespace JavaLint

namespace ParameterName

/-- A call that makes a setting. -/
inductive Setting where
  | format (source : String)
  | scope (floor : Scope)
  | excludeScope (excluded : Scope)
  | ignoreOverridden (ignore : Bool)
  deriving DecidableEq, Repr

namespace Setting

/-- What a call sets. -/
inductive Kind where
  | format
  | scope
  | excludeScope
  | ignoreOverridden
  deriving DecidableEq, Repr

/-- The key of the option for a kind of settings. -/
def Kind.key : Kind → String
  | format => NamingRule.formatKey
  | scope => NamingRule.scopeKey
  | excludeScope => NamingRule.excludeScopeKey
  | ignoreOverridden => NamingRule.ignoreOverriddenKey

theorem Kind.key_injective : Function.Injective key := by
  intro a b
  cases a <;> cases b <;> decide

/-- What the call sets. -/
def kind : Setting → Kind
  | format _ => .format
  | scope _ => .scope
  | excludeScope _ => .excludeScope
  | ignoreOverridden _ => .ignoreOverridden

/-- The value of the option for a setting; scopes go by their names. -/
def value : Setting → Toml
  | format source => .string source
  | scope floor => .string floor.name
  | excludeScope excluded => .string excluded.name
  | ignoreOverridden ignore => .boolean ignore

/-- A setting can be made unless it is a pattern that does not compile. -/
def Compiles (setting : Setting) : Prop :=
  ∀ source, setting = format source → ∃ pattern, NamePattern.ofSource source = .ok pattern

/-- The value of the last call of a kind. -/
def lastValue? (settings : List Setting) (kind : Kind) : Option Toml :=
  ((settings.filter fun setting => setting.kind = kind).getLast?).map value

theorem lastValue?_append (settings : List Setting) (setting : Setting) (kind : Kind) :
    lastValue? (settings ++ [setting]) kind =
      if kind = setting.kind then some setting.value else lastValue? settings kind := by
  unfold lastValue?
  rw [List.filter_append]
  by_cases h : setting.kind = kind
  · simp [h]
  · simp [h, Ne.symm h]

end Setting

/-- The check after one more call. -/
def set (p : ParameterName) : Setting → Except ConfigError ParameterName
  | .format source => p.withFormat source
  | .scope floor => .ok (p.withScope floor)
  | .excludeScope excluded => .ok (p.withExcludeScope excluded)
  | .ignoreOverridden ignore => .ok (p.withIgnoreOverridden ignore)

/-- The check after a sequence of calls. -/
def ofSettings (settings : List Setting) : Except ConfigError ParameterName := do
  settings.foldlM set (← standard)

end ParameterName

open ParameterName (Setting)

namespace Section

/-- A section has the last value of each setting that is made at all. -/
def Records (s : Section) (settings : List Setting) : Prop :=
  ∀ kind : Setting.Kind, s.options.get? kind.key = Setting.lastValue? settings kind

/-- The section with the values of all calls, of which later ones hide earlier ones. -/
def ofSettings (settings : List Setting) : Section :=
  { options := .ofList (settings.map fun setting => (setting.kind.key, setting.value)) }

theorem records_ofSettings (settings : List Setting) : (ofSettings settings).Records settings := by
  intro kind
  unfold ofSettings
  rw [KeyMap.get?_ofList]
  induction settings using List.reverseRecOn with
  | nil => rfl
  | append_singleton settings setting ih =>
    rw [Setting.lastValue?_append, ← ih, List.map_append, List.reverse_append]
    by_cases h : kind = setting.kind
    · simp [h]
    · have hkey : kind.key ≠ setting.kind.key := Setting.Kind.key_injective.ne h
      simp [h, List.lookup_cons, beq_false_of_ne hkey]

end Section

/-- What is registered shows in a check and in the tokens whose nodes it is handed. -/
theorem CheckSet.ofRegistrations_singleton_congr {r r' : Registration} (hcheck : r'.check = r.check)
    (hwanted : r'.wanted = r.wanted) : ofRegistrations [r'] = ofRegistrations [r] := by
  simp only [ofRegistrations, List.foldlM_cons, add, hcheck, hwanted]

namespace ParameterName

variable {s s' : Section} {p p' : ParameterName} {setting : Setting} {settings : List Setting}

/-- The check that a section sets up, by what is read from its options. -/
theorem ofSection_eq_ok_iff : ofSection s = .ok p ↔ ∃ format pattern floor excluded ignore,
    s.text? NamingRule.formatKey = .ok format ∧
      NamePattern.ofSource (format.getD defaultFormat) = .ok pattern ∧
      s.scope? NamingRule.scopeKey = .ok floor ∧
      s.scope? NamingRule.excludeScopeKey = .ok excluded ∧
      s.flag? NamingRule.ignoreOverriddenKey = .ok ignore ∧
      p = { rule := { pattern, filter := ⟨floor, excluded⟩,
                      ignoreOverridden := ignore.getD false } } := by
  unfold ofSection NamingRule.ofSection
  simp only [Except.bind_eq_ok_iff, pure, Except.pure, Except.ok.injEq]
  grind

/-- One more call does to the check what exchanging an option does to the section. -/
theorem ofSection_of_set (h : ofSection s = .ok p) (hset : p.set setting = .ok p')
    (hothers : ∀ kind ≠ setting.kind, s'.options.get? kind.key = s.options.get? kind.key)
    (hvalue : s'.options.get? setting.kind.key = some setting.value) : ofSection s' = .ok p' := by
  obtain ⟨format, pattern, floor, excluded, ignore, hformat, hpattern, hfloor, hexcluded, hignore,
    rfl⟩ := ofSection_eq_ok_iff.1 h
  -- what is read from the other options is as before
  replace hformat := fun hkind => (Section.text?_congr (hothers .format hkind)).trans hformat
  replace hfloor := fun hkind => (Section.scope?_congr (hothers .scope hkind)).trans hfloor
  replace hexcluded := fun hkind =>
    (Section.scope?_congr (hothers .excludeScope hkind)).trans hexcluded
  replace hignore := fun hkind =>
    (Section.flag?_congr (hothers .ignoreOverridden hkind)).trans hignore
  refine ofSection_eq_ok_iff.2 ?_
  cases setting with
  | format source =>
    obtain ⟨pattern', hpattern', ⟨⟩⟩ := Except.bind_eq_ok_iff.1 hset
    have hsource : s'.text? NamingRule.formatKey = .ok (some source) :=
      Section.text?_eq_ok_iff.2 hvalue
    exact ⟨some source, pattern', floor, excluded, ignore, hsource, hpattern', hfloor nofun,
      hexcluded nofun, hignore nofun, rfl⟩
  | scope floor' =>
    cases hset
    have hfloor' := Section.scope?_of_isNamed hvalue floor'.isNamed_name
    exact ⟨format, pattern, some floor', excluded, ignore, hformat nofun, hpattern, hfloor',
      hexcluded nofun, hignore nofun, rfl⟩
  | excludeScope excluded' =>
    cases hset
    have hexcluded' := Section.scope?_of_isNamed hvalue excluded'.isNamed_name
    exact ⟨format, pattern, floor, some excluded', ignore, hformat nofun, hpattern, hfloor nofun,
      hexcluded', hignore nofun, rfl⟩
  | ignoreOverridden ignore' =>
    cases hset
    have hignore' : s'.flag? NamingRule.ignoreOverriddenKey = .ok (some ignore') :=
      Section.flag?_eq_ok_iff.2 hvalue
    exact ⟨format, pattern, floor, excluded, some ignore', hformat nofun, hpattern, hfloor nofun,
      hexcluded nofun, hignore', rfl⟩

theorem exists_set (p : ParameterName) (hcompiles : setting.Compiles) :
    ∃ p', p.set setting = .ok p' := by
  cases setting with
  | format source =>
    obtain ⟨pattern, hpattern⟩ := hcompiles source rfl
    exact ⟨_, Except.bind_eq_ok_iff.2 ⟨pattern, hpattern, rfl⟩⟩
  | _ => exact ⟨_, rfl⟩

theorem ofSettings_append (settings : List Setting) (setting : Setting) :
    ofSettings (settings ++ [setting]) = ofSettings settings >>= fun p => p.set setting := by
  unfold ofSettings
  simp only [List.foldlM_append, List.foldlM_cons, List.foldlM_nil, bind_pure, bind_assoc]

/-- Without calls the check is the standard one, which any section without the options
    sets up. -/
theorem exists_ofSettings_nil :
    ∃ p, ofSettings [] = .ok p ∧ ∀ s : Section, s.Records [] → ofSection s = .ok p := by
  obtain ⟨pattern, hpattern⟩ := exists_ofSource_defaultFormat
  have hrecords : ∀ s : Section, s.Records [] → ofSection s = .ok { rule := { pattern } } := by
    intro s hs
    exact ofSection_eq_ok_iff.2 ⟨none, pattern, none, none, none,
      Section.text?_eq_ok_iff.2 (hs .format), hpattern, Section.scope?_of_get?_eq_none (hs .scope),
      Section.scope?_of_get?_eq_none (hs .excludeScope),
      Section.flag?_eq_ok_iff.2 (hs .ignoreOverridden), rfl⟩
  have hstandard : standard = .ok { rule := { pattern } } := hrecords {} fun _ => rfl
  exact ⟨_, Except.bind_eq_ok_iff.2 ⟨_, hstandard, rfl⟩, hrecords⟩

/-- Where all patterns compile the calls make a check, and every section that records them
    sets up that check. -/
theorem exists_ofSettings (hcompiles : ∀ setting ∈ settings, setting.Compiles) :
    ∃ p, ofSettings settings = .ok p ∧ ∀ s : Section, s.Records settings → ofSection s = .ok p := by
  -- by induction on the calls, from the last one
  induction settings using List.reverseRecOn with
  | nil => exact exists_ofSettings_nil
  | append_singleton settings setting ih =>
    obtain ⟨p, hp, hrecords⟩ := ih fun setting h => hcompiles setting (List.mem_append_left _ h)
    obtain ⟨p', hset⟩ := exists_set p (hcompiles setting List.mem_concat_self)
    have hp' : ofSettings (settings ++ [setting]) = .ok p' :=
      (ofSettings_append settings setting).trans (Except.bind_eq_ok_iff.2 ⟨p, hp, hset⟩)
    refine ⟨p', hp', fun s hs => ?_⟩
    -- a section that records all calls but the last one differs in one option
    have hearlier : (Section.ofSettings settings).Records settings :=
      Section.records_ofSettings settings
    refine ofSection_of_set (hrecords _ hearlier) hset (fun kind hkind => ?_) ?_
    · rw [hs kind, Setting.lastValue?_append, if_neg hkind, hearlier kind]
    · rw [hs setting.kind, Setting.lastValue?_append, if_pos rfl]

/-- Calls for different settings commute. -/
theorem set_comm (p : ParameterName) {a b : Setting} (h : a.kind ≠ b.kind) :
    (p.set a >>= fun p => p.set b) = p.set b >>= fun p => p.set a := by
  -- of two such calls one at most can fail, that for the pattern
  have hformat : ∀ source (setting : Setting), setting.kind ≠ .format →
      (p.set (.format source) >>= fun p => p.set setting) =
        p.set setting >>= fun p => p.set (.format source) := by
    intro source setting hkind
    cases setting with
    | format _ => exact absurd rfl hkind
    | _ =>
      simp only [set, withFormat]
      cases NamePattern.ofSource source <;> rfl
  cases a with
  | format source => exact hformat source b h.symm
  | _ =>
    cases b with
    | format source => exact (hformat source _ h).symm
    | _ => first | rfl | exact absurd rfl h

/-- Two calls for different settings that follow each other can change places. -/
theorem ofSettings_swap (before after : List Setting) {a b : Setting} (h : a.kind ≠ b.kind) :
    ofSettings (before ++ b :: a :: after) = ofSettings (before ++ a :: b :: after) := by
  unfold ofSettings
  simp only [List.foldlM_append, List.foldlM_cons]
  refine congrArg _ (funext fun p => congrArg _ (funext fun p => ?_))
  rw [← bind_assoc, ← bind_assoc, set_comm p h]

/-! ## What the checks report -/

/-- The calls make the check that a section with the last value of each setting sets up, and
    there is such a section. Calls for different settings commute. In a run the check reports
    the same, whether it is registered as it is or by a section, even if the section also
    lists tokens. -/
theorem ofSettings_agrees {settings : List Setting}
    (hcompiles : ∀ setting ∈ settings, setting.Compiles) :
    (∃ p, ofSettings settings = .ok p ∧ (Section.ofSettings settings).Records settings ∧
      ∀ s : Section, s.Records settings → ofSection s = .ok p ∧
        (s.options.get? Checks.tokensKey = none →
          Checks.build? name s = .ok (some { check := p.toCheck })) ∧
        ∀ reg, Checks.build? name s = .ok (some reg) →
          ∃ set set', CheckSet.ofRegistrations [{ check := p.toCheck }] = .ok set ∧
            CheckSet.ofRegistrations [reg] = .ok set' ∧ ∀ u, set'.inspect u = set.inspect u) ∧
      ∀ before a b after, settings = before ++ a :: b :: after → a.kind ≠ b.kind →
        ofSettings (before ++ b :: a :: after) = ofSettings settings := by
  obtain ⟨p, hp, hrecords⟩ := exists_ofSettings hcompiles
  refine ⟨⟨p, hp, Section.records_ofSettings settings, fun s hs => ?_⟩, ?_⟩
  · have hsection : ofSection s = .ok p := hrecords s hs
    refine ⟨hsection, fun htokens => ?_, fun reg hreg => ?_⟩
    · refine Checks.build?_eq_ok_some_iff.2 ⟨rfl, p, hsection, ?_⟩
      exact Except.bind_eq_ok_iff.2 ⟨none, Section.tokens?_of_get?_eq_none htokens, rfl⟩
    · obtain ⟨-, p', hp', hreg⟩ := Checks.build?_eq_ok_some_iff.1 hreg
      obtain rfl : p = p' := Except.ok.inj (hsection.symm.trans hp')
      have hplain : Checks.withTokens p.toCheck {} = .ok { check := p.toCheck } := rfl
      have hsame : CheckSet.ofRegistrations [reg] = CheckSet.ofRegistrations [{ check := p.toCheck }] :=
        CheckSet.ofRegistrations_singleton_congr (Checks.check_of_withTokens hreg)
          ((Checks.wanted_of_withTokens hreg).trans (Checks.wanted_of_withTokens hplain).symm)
      obtain ⟨set, hset⟩ : ∃ set, CheckSet.ofRegistrations [{ check := p.toCheck }] = .ok set := by
        refine CheckSet.exists_ofRegistrations_iff.2 fun r hr => ?_
        rw [List.mem_singleton.1 hr]
        exact (Registration.wanted_eq_ok_iff.1 (Checks.wanted_of_withTokens hplain)).1
      exact ⟨set, set, hset, hsame.trans hset, fun _ => rfl⟩
  · rintro before a b after rfl h
    exact ofSettings_swap before after h

/-- Calls that set the pattern and the least visible scope twice. -/
def repeatedSettings : List Setting :=
  [.format "[a-z]", .scope .anonInner, .ignoreOverridden true, .scope .pub, .format "h"]

/-- A section with what they come to, and a list of tokens. -/
def repeatedSection : Section :=
  { options := .ofList [(Checks.tokensKey, .string "PARAMETER_DEF"),
      (NamingRule.ignoreOverriddenKey, .boolean true), (NamingRule.scopeKey, .string "public"),
      (NamingRule.formatKey, .string "h")] }

theorem ofSettings_agrees_repeatedSettings :
    ∃ p, ofSettings repeatedSettings = .ok p ∧ ofSection repeatedSection = .ok p ∧
      ofSettings [.format "[a-z]", .ignoreOverridden true, .scope .anonInner, .scope .pub,
        .format "h"] = .ok p ∧
      ∃ reg, Checks.build? name repeatedSection = .ok (some reg) ∧ reg.tokens = some [.parameterDef] ∧
        ∃ set set', CheckSet.ofRegistrations [{ check := p.toCheck }] = .ok set ∧
          CheckSet.ofRegistrations [reg] = .ok set' ∧ ∀ u, set'.inspect u = set.inspect u := by
  have hcompiles : ∀ setting ∈ repeatedSettings, setting.Compiles := by
    have hletter : ∃ pattern, NamePattern.ofSource "[a-z]" = .ok pattern :=
      Except.exists_eq_ok_of_isOk (by cbv)
    have hh : ∃ pattern, NamePattern.ofSource "h" = .ok pattern :=
      Except.exists_eq_ok_of_isOk (by cbv)
    rintro setting hsetting source rfl
    simp only [repeatedSettings, List.mem_cons, Setting.format.injEq, reduceCtorEq, false_or,
      List.not_mem_nil, or_false] at hsetting
    rcases hsetting with rfl | rfl
    · exact hletter
    · exact hh
  have hrecords : repeatedSection.Records repeatedSettings := by
    intro kind
    cases kind <;> rfl
  obtain ⟨⟨p, hp, -, hsections⟩, hswap⟩ := ofSettings_agrees hcompiles
  obtain ⟨hsection, -, hreports⟩ := hsections repeatedSection hrecords
  have hbuild := Checks.build?_eq_ok_some_iff.2 ⟨rfl, p, hsection, rfl⟩
  refine ⟨p, hp, hsection, ?_, _, hbuild, rfl, hreports _ hbuild⟩
  have hkind : (Setting.scope .anonInner).kind ≠ (Setting.ignoreOverridden true).kind := by decide
  exact (hswap [.format "[a-z]"] _ _ _ rfl hkind).trans hp

end ParameterName

end JavaLint
