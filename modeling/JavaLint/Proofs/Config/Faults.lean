import Mathlib
import JavaLint.Proofs.Config.Checks
import JavaLint.Proofs.Config.Options
import JavaLint.Proofs.Dispatch
import JavaLint.Proofs.KeyMap
/-!
# Why a configuration is refused

All that can be wrong with a configuration is found when its checks are set up: no
preset has the name that it gives, or the options of a check are at fault. Options of
checks that are not selected, or switched off, are not looked at.

## Main definitions

- `Section.PatternFault`, `Section.ForeignTokens` — what is wrong with an option that can be read
- `ParameterName.faults` — what can be wrong with a section, in the order in which it counts
- `Config.Chooses` — the preset that a configuration starts from
- `Checks.Refuses` — what is wrong with a configuration, for a selection of checks

## Main statements

- `Checks.failsBy_build?` — the first fault of a section is the error
- `Checks.ofConfig_eq_error_iff` — the same for configurations
- `Checks.ofConfig_refuses_or_registers` — what is not refused makes a set of checks
-/

namespace JavaLint

theorem NamePattern.ofSource_eq_error_iff {source : String} {e : ConfigError} :
    ofSource source = .error e ↔
      (∀ regex, Regex.compile (anchored source) ≠ .ok regex) ∧ e = .invalidPattern source := by
  unfold ofSource
  cases Regex.compile (anchored source) <;> simp [eq_comm]

/-- The pattern that stands for a missing one compiles. -/
theorem ParameterName.exists_ofSource_defaultFormat :
    ∃ pattern, NamePattern.ofSource defaultFormat = .ok pattern :=
  Except.exists_eq_ok_of_isOk (by cbv)

/-! ## Faults of a section -/

namespace Section

/-- An option is the source of a pattern that does not compile. -/
def PatternFault (s : Section) (key : String) (e : ConfigError) : Prop :=
  ∃ source, s.options.get? key = some (.string source) ∧
    (∀ regex, Regex.compile (NamePattern.anchored source) ≠ .ok regex) ∧ e = .invalidPattern source

/-- An option lists tokens that the check cannot process; the first one of them counts. -/
def ForeignTokens (s : Section) (key : String) (acceptable : List Token) (e : ConfigError) : Prop :=
  ∃ before token after, s.ListsTokens key (before ++ token :: after) ∧
    (∀ t ∈ before, t ∈ acceptable) ∧ token ∉ acceptable ∧
      e = .invalidOption (key ++ " (" ++ token.name ++ ")") "a list of acceptable tokens"

end Section

/-- What can be wrong with the options of a naming rule, in the order in which it counts. -/
def NamingRule.faults (s : Section) : List (ConfigError → Prop) :=
  [s.Mistyped formatKey Toml.string "a string", s.PatternFault formatKey, s.ScopeFault scopeKey,
    s.ScopeFault excludeScopeKey, s.Mistyped ignoreOverriddenKey Toml.boolean "a boolean"]

/-- What can be wrong with the section of the check, in the order in which it counts. -/
def ParameterName.faults (s : Section) : List (ConfigError → Prop) :=
  NamingRule.faults s ++ [s.TokensFault Checks.tokensKey, s.ForeignTokens Checks.tokensKey tokens]

variable {s base : Section} {e : ConfigError}

theorem NamingRule.failsBy_ofSection {default : String}
    (hdefault : ∃ pattern, NamePattern.ofSource default = .ok pattern) :
    (ofSection s default).FailsBy (faults s) := by
  refine .bind_of_iff (fun _ => Section.text?_eq_error_iff) fun format hformat => ?_
  have hget := Section.text?_eq_ok_iff.1 hformat
  refine .bind_of_iff (fun e => ?_) fun pattern _ => ?_
  · cases format with
    | none =>
      obtain ⟨pattern, hpattern⟩ := hdefault
      rw [Option.getD_none, hpattern]
      refine ⟨nofun, ?_⟩
      rintro ⟨source, hsource, -⟩
      exact nomatch hget.symm.trans hsource
    | some source =>
      refine NamePattern.ofSource_eq_error_iff.trans ⟨fun h => ⟨source, hget, h⟩, ?_⟩
      rintro ⟨source', hsource, h⟩
      obtain rfl : source = source' := Toml.string.inj (Option.some.inj (hget.symm.trans hsource))
      exact h
  refine .bind_of_iff (fun _ => Section.scope?_eq_error_iff) fun floor _ => ?_
  refine .bind_of_iff (fun _ => Section.scope?_eq_error_iff) fun excluded _ => ?_
  exact .bind_of_iff (fun _ => Section.flag?_eq_error_iff) fun ignore _ => Except.failsBy_ok _

namespace Checks

variable {c : Config} {only : Option (List String)} {check : Check} {reg : Registration}
  {regs : List Registration} {preset : Preset}

/-- The first token that is not acceptable, if there is one. -/
theorem find?_foreign_eq_some_iff {tokens acceptable : List Token} {token : Token} :
    tokens.find? (fun token => decide (token ∉ acceptable)) = some token ↔
      ∃ before after, tokens = before ++ token :: after ∧ (∀ t ∈ before, t ∈ acceptable) ∧
        token ∉ acceptable := by
  simp [List.find?_eq_some_iff_append]
  tauto

theorem failsBy_withTokens : (withTokens check s).FailsBy
    [s.TokensFault tokensKey, s.ForeignTokens tokensKey check.acceptable] := by
  refine .bind_of_iff (fun _ => Section.tokens?_eq_error_iff) fun tokens? htokens =>
    .of_iff fun e => ?_
  cases tokens? with
  | none =>
    refine ⟨nofun, ?_⟩
    rintro ⟨before, token, after, hlists, -⟩
    exact nomatch htokens.symm.trans (Section.tokens?_eq_ok_some_iff.2 hlists)
  | some tokens =>
    have hlists : ∀ tokens', s.ListsTokens tokensKey tokens' ↔ tokens' = tokens := fun tokens' => by
      rw [← Section.tokens?_eq_ok_some_iff, htokens]
      simp [eq_comm]
    have hforeign : s.ForeignTokens tokensKey check.acceptable e ↔ ∃ token,
        tokens.find? (fun token => decide (token ∉ check.acceptable)) = some token ∧
        e = .invalidOption (tokensKey ++ " (" ++ token.name ++ ")") "a list of acceptable tokens" := by
      simp only [Section.ForeignTokens, hlists, find?_foreign_eq_some_iff]
      grind
    rw [hforeign]
    dsimp only
    cases tokens.find? fun token => decide (token ∉ check.acceptable) with
    | none => simp [pure, Except.pure]
    | some token => simp [throw, throwThe, MonadExceptOf.throw, eq_comm]

/-- The first fault of the section of a check is the error. -/
theorem failsBy_build? : (build? ParameterName.name s).FailsBy (ParameterName.faults s) := by
  have hrule : (NamingRule.ofSection s ParameterName.defaultFormat).FailsBy (NamingRule.faults s) :=
    NamingRule.failsBy_ofSection ParameterName.exists_ofSource_defaultFormat
  have hcheck : (ParameterName.ofSection s).FailsBy (NamingRule.faults s) :=
    hrule.bind_ok fun rule => ⟨_, rfl⟩
  unfold build?
  rw [if_pos rfl]
  refine hcheck.bind fun p _ => ?_
  exact failsBy_withTokens.bind_ok fun reg => ⟨_, rfl⟩

/-! ## The section of a check -/

/-- The options of a check are those of the configuration, laid over those of the preset. -/
theorem get?_sectionFor (c : Config) (name key : String) (base : Section) :
    (sectionFor c name base).options.get? key =
      ((c.section? name).bind fun user => user.options.get? key).or (base.options.get? key) := by
  unfold sectionFor
  cases c.section? name with
  | none => rfl
  | some user => exact KeyMap.get?_overlay base.options user.options key

theorem enabled_sectionFor (c : Config) (name : String) (base : Section) :
    (sectionFor c name base).enabled =
      ((c.section? name).bind fun user => user.enabled).or base.enabled := by
  unfold sectionFor
  cases c.section? name <;> rfl

theorem isSelected_eq_true_iff {name : String} :
    isSelected only name = true ↔ ∀ names, only = some names → name ∈ names := by
  cases only <;> simp [isSelected]

/-- A check is registered if it is selected and not switched off. -/
def Registers (c : Config) (only : Option (List String)) (name : String) (base : Section) : Prop :=
  (∀ names, only = some names → name ∈ names) ∧ (sectionFor c name base).enabled ≠ some false

theorem registration?_of_registers {name : String} (h : Registers c only name base) :
    registration? c only name base =
      (build? name (sectionFor c name base)).mapError (.inCheck name) := by
  obtain ⟨hselected, henabled⟩ := h
  refine if_neg ?_
  simp [isSelected_eq_true_iff.2 hselected, henabled]

theorem registration?_of_not_registers {name : String} (h : ¬ Registers c only name base) :
    registration? c only name base = .ok none := by
  refine if_pos ?_
  rw [Registers, ← isSelected_eq_true_iff] at h
  grind

end Checks

/-! ## Faults of a configuration -/

/-- The preset that a configuration starts from has the name that it gives, apart from
    surrounding blanks and case; without a name it is the standard one. -/
def Config.Chooses (c : Config) (preset : Preset) : Prop :=
  match c.preset with
  | none => preset = .standard
  | some name => preset.name = Preset.normalName name

namespace Preset

variable {c : Config} {preset : Preset}

theorem ofName?_eq_some_iff {name : String} :
    ofName? name = some preset ↔ preset.name = normalName name := by
  have hunique : ∀ a b : Preset, (a.name == normalName name) = true →
      (b.name == normalName name) = true → a = b := by
    intro a b ha hb
    have hname : a.name = b.name := (eq_of_beq ha).trans (eq_of_beq hb).symm
    revert hname
    cases a <;> cases b <;> decide
  have hall : ∀ preset : Preset, preset ∈ all := fun preset => by cases preset <;> decide
  exact (List.find?_eq_some_iff_of_unique hall hunique).trans beq_iff_eq

theorem ofConfig_eq_ok_iff : ofConfig c = .ok preset ↔ c.Chooses preset := by
  unfold ofConfig Config.Chooses
  cases c.preset with
  | none => simp [eq_comm]
  | some name =>
    dsimp only
    rw [← ofName?_eq_some_iff]
    cases ofName? name <;> simp

theorem ofConfig_eq_error_iff : ofConfig c = .error e ↔ ∃ name, c.preset = some name ∧
    (∀ preset : Preset, preset.name ≠ normalName name) ∧ e = .unknownPreset (normalName name) := by
  unfold ofConfig
  cases c.preset with
  | none => simp
  | some name =>
    simp only [Option.some.injEq, exists_eq_left', ne_eq, ← ofName?_eq_some_iff,
      ← Option.eq_none_iff_forall_ne_some]
    cases ofName? name <;> simp [eq_comm]

/-- A preset has the section of one check. -/
theorem exists_entries_eq (preset : Preset) :
    ∃ base, preset.sections.get? ParameterName.name = some base ∧
      preset.sections.entries = [(ParameterName.name, base)] := by
  cases preset <;> exact ⟨_, rfl, rfl⟩

end Preset

namespace Checks

/-- What is wrong with a configuration, for a selection of checks. -/
inductive Refuses (c : Config) (only : Option (List String)) : ConfigError → Prop
  /-- No preset has the name that the configuration gives. -/
  | unknownPreset {name : String} : c.preset = some name →
      (∀ preset : Preset, preset.name ≠ Preset.normalName name) →
      Refuses c only (.unknownPreset (Preset.normalName name))
  /-- The section of the check, laid over that of the preset, is at fault. -/
  | inCheck {preset : Preset} {base : Section} {cause : ConfigError} : c.Chooses preset →
      preset.sections.get? ParameterName.name = some base → Registers c only ParameterName.name base →
      Except.FirstOf (ParameterName.faults (sectionFor c ParameterName.name base)) cause →
      Refuses c only (.inCheck ParameterName.name cause)

/-- The checks of a preset with one section are that of the section. -/
theorem ofConfig_of_entries_eq {name : String} (hpreset : c.Chooses preset)
    (hentries : preset.sections.entries = [(name, base)]) :
    ofConfig c only = Option.toList <$> registration? c only name base := by
  unfold ofConfig
  rw [Preset.ofConfig_eq_ok_iff.2 hpreset]
  change (preset.sections.entries.mapM (fun e => registration? c only e.1 e.2) >>= fun found =>
    pure (found.filterMap id)) = _
  rw [hentries, List.mapM_cons, List.mapM_nil]
  cases registration? c only name base with
  | error e => rfl
  | ok reg? => cases reg? <;> rfl

/-- Where the preset and its section are known, only the section can be at fault. -/
theorem refuses_iff_of_chooses (hchooses : c.Chooses preset)
    (hbase : preset.sections.get? ParameterName.name = some base) :
    Refuses c only e ↔ Registers c only ParameterName.name base ∧ ∃ cause,
      Except.FirstOf (ParameterName.faults (sectionFor c ParameterName.name base)) cause ∧
        e = .inCheck ParameterName.name cause := by
  have hpreset := Preset.ofConfig_eq_ok_iff.2 hchooses
  constructor
  · rintro (⟨hname, hunknown⟩ | ⟨hchooses', hbase', hregisters, hfirst⟩)
    · rw [Preset.ofConfig_eq_error_iff.2 ⟨_, hname, hunknown, rfl⟩] at hpreset
      cases hpreset
    · rw [Preset.ofConfig_eq_ok_iff.2 hchooses'] at hpreset
      obtain rfl := Except.ok.inj hpreset
      obtain rfl := Option.some.inj (hbase.symm.trans hbase')
      exact ⟨hregisters, _, hfirst, rfl⟩
  · rintro ⟨hregisters, cause, hfirst, rfl⟩
    exact .inCheck hchooses hbase hregisters hfirst

/-- A configuration is refused for the first of its faults. -/
theorem ofConfig_eq_error_iff : ofConfig c only = .error e ↔ Refuses c only e := by
  cases hpreset : Preset.ofConfig c with
  | error e' =>
    obtain ⟨name, hname, hunknown, rfl⟩ := Preset.ofConfig_eq_error_iff.1 hpreset
    have herror : ofConfig c only = .error (.unknownPreset (Preset.normalName name)) := by
      unfold ofConfig
      rw [hpreset]
      rfl
    rw [herror]
    constructor
    · rintro ⟨⟩
      exact .unknownPreset hname hunknown
    · rintro (⟨hname', -⟩ | ⟨hchooses, -⟩)
      · obtain rfl := Option.some.inj (hname.symm.trans hname')
        rfl
      · rw [Preset.ofConfig_eq_ok_iff.2 hchooses] at hpreset
        cases hpreset
  | ok preset =>
    have hchooses := Preset.ofConfig_eq_ok_iff.1 hpreset
    obtain ⟨base, hbase, hentries⟩ := preset.exists_entries_eq
    rw [refuses_iff_of_chooses hchooses hbase, ofConfig_of_entries_eq hchooses hentries,
      Except.map_eq_error_iff]
    by_cases hregisters : Registers c only ParameterName.name base
    · rw [registration?_of_registers hregisters, Except.mapError_eq_error_iff]
      simp only [failsBy_build? _, hregisters, true_and, eq_comm]
    · rw [registration?_of_not_registers hregisters]
      simp [hregisters]

/-! ## Registrations of a configuration -/

/-- What `withTokens` makes asks for tokens that the check accepts. -/
theorem mem_acceptable_of_withTokens (h : withTokens check s = .ok reg)
    (hdefault : ∀ token ∈ check.default, token ∈ check.acceptable) :
    ∀ token ∈ reg.configured, token ∈ check.acceptable := by
  obtain ⟨tokens?, -, h⟩ := Except.bind_eq_ok_iff.1 h
  split at h
  · obtain rfl := Except.ok.inj h
    exact hdefault
  · next tokens =>
    split at h
    · cases h
    · next hnone =>
      obtain rfl := Except.ok.inj h
      intro token htoken
      simpa using List.find?_eq_none.1 hnone token htoken

theorem build?_eq_ok_some_iff {name : String} : build? name s = .ok (some reg) ↔
    name = ParameterName.name ∧
      ∃ p, ParameterName.ofSection s = .ok p ∧ withTokens p.toCheck s = .ok reg := by
  unfold build?
  split
  · next hname =>
    simp only [Except.bind_eq_ok_iff, pure, Except.pure, Except.ok.injEq, Option.some.injEq,
      exists_eq_right, hname, true_and]
  · next hname => simp [pure, Except.pure, hname]

/-- A check of parameter names is handed the parameters, whether its tokens are listed or not. -/
theorem wanted_of_withTokens {p : ParameterName} (h : withTokens p.toCheck s = .ok reg) :
    reg.wanted = .ok [.parameterDef] := by
  have hcheck : reg.check = p.toCheck := check_of_withTokens h
  have hconfigured : ∀ token ∈ reg.configured, token ∈ reg.check.acceptable := by
    rw [hcheck]
    exact mem_acceptable_of_withTokens h fun token htoken => htoken
  obtain ⟨tokens, hwanted⟩ : ∃ tokens, reg.wanted = .ok tokens :=
    ⟨_, Registration.wanted_eq_ok_iff.2 ⟨hconfigured, rfl⟩⟩
  have hmem : ∀ token, token ∈ tokens ↔ token ∈ [Token.parameterDef] := by
    intro token
    rw [Registration.mem_iff_asks_of_wanted hwanted, Registration.Asks]
    rw [hcheck] at hconfigured ⊢
    exact ⟨fun hasks => hasks.elim (hconfigured token) id, .inr⟩
  have hperm : tokens.Perm [Token.parameterDef] :=
    (List.perm_ext_iff_of_nodup (Registration.nodup_of_wanted hwanted)
      (List.pairwise_singleton _ _)).2 hmem
  rw [hwanted, List.perm_singleton.1 hperm]

theorem wanted_of_mem_ofConfig (h : ofConfig c only = .ok regs) (hreg : reg ∈ regs) :
    reg.wanted = .ok [.parameterDef] := by
  obtain ⟨preset, -, hpreset, -⟩ := ofConfig_eq_ok_iff.1 h
  obtain ⟨base, -, hentries⟩ := preset.exists_entries_eq
  rw [ofConfig_of_entries_eq (Preset.ofConfig_eq_ok_iff.1 hpreset) hentries,
    Except.map_eq_ok_iff] at h
  obtain ⟨reg?, hreg?, rfl⟩ := h
  obtain rfl := Option.mem_toList.1 hreg
  by_cases hregisters : Registers c only ParameterName.name base
  · rw [registration?_of_registers hregisters, Except.mapError_eq_ok_iff] at hreg?
    obtain ⟨-, p, -, hp⟩ := build?_eq_ok_some_iff.1 hreg?
    exact wanted_of_withTokens hp
  · rw [registration?_of_not_registers hregisters] at hreg?
    cases hreg?

/-- A configuration is refused just for the first of its faults. A section that is not
    selected, or is switched off, has none. What is registered otherwise are checks for
    parameters, and any of them can be combined. -/
theorem ofConfig_refuses_or_registers (c : Config) (only : Option (List String)) :
    (∀ e, ofConfig c only = .error e ↔ Refuses c only e) ∧
      (∀ preset base, c.Chooses preset → preset.sections.get? ParameterName.name = some base →
        ¬ Registers c only ParameterName.name base → ofConfig c only = .ok []) ∧
      ∀ regs, ofConfig c only = .ok regs →
        (∀ reg ∈ regs, reg.wanted = .ok [.parameterDef]) ∧
          ∀ chosen : List Registration, (∀ reg ∈ chosen, reg ∈ regs) →
            ∃ set, CheckSet.ofRegistrations chosen = .ok set := by
  refine ⟨fun e => ofConfig_eq_error_iff, ?_, fun regs hregs => ?_⟩
  · intro preset base hchooses hbase hnot
    obtain ⟨base', hbase', hentries⟩ := preset.exists_entries_eq
    obtain rfl := Option.some.inj (hbase.symm.trans hbase')
    rw [ofConfig_of_entries_eq hchooses hentries, registration?_of_not_registers hnot]
    rfl
  · have hwanted : ∀ reg ∈ regs, reg.wanted = .ok [.parameterDef] :=
      fun reg => wanted_of_mem_ofConfig hregs
    refine ⟨hwanted, fun chosen hchosen => CheckSet.exists_ofRegistrations_iff.2 fun reg hreg => ?_⟩
    exact (Registration.wanted_eq_ok_iff.1 (hwanted reg (hchosen reg hreg))).1

/-- A configuration with one section for the check, over the given preset. -/
def sectionConfig (preset : String) (s : Section) : Config :=
  { preset := some preset, checks := .ofList [(ParameterName.name, s)] }

/-- A section whose scope to leave out is unknown, and whose tokens are no list. -/
def twoFaultsSection : Section :=
  { options := .ofList [(NamingRule.excludeScopeKey, .string "module"), (tokensKey, .boolean true)] }

/-- A section that lists the token that the check needs. -/
def listedTokenSection : Section :=
  { options := .ofList [(tokensKey, .string " parameter_def ,")] }

theorem exists_ofConfig_listedTokenSection :
    ∃ reg, ofConfig (sectionConfig "recommended" listedTokenSection) none = .ok [reg] := by
  have hchooses : (sectionConfig "recommended" listedTokenSection).Chooses .recommended :=
    show Preset.recommended.name = Preset.normalName "recommended" by decide
  obtain ⟨pattern, hpattern⟩ := ParameterName.exists_ofSource_defaultFormat
  have hrule : NamingRule.ofSection listedTokenSection ParameterName.defaultFormat =
      .ok { pattern } :=
    Except.bind_eq_ok_iff.2 ⟨none, rfl, Except.bind_eq_ok_iff.2 ⟨pattern, hpattern, rfl⟩⟩
  have hcheck : ParameterName.ofSection listedTokenSection = .ok { rule := { pattern } } :=
    Except.bind_eq_ok_iff.2 ⟨_, hrule, rfl⟩
  let check : Check := ({ rule := { pattern } } : ParameterName).toCheck
  have hbuild : build? ParameterName.name listedTokenSection =
      .ok (some { check, tokens := some [.parameterDef] }) :=
    Except.bind_eq_ok_iff.2 ⟨_, hcheck, rfl⟩
  refine ⟨{ check, tokens := some [.parameterDef] }, ?_⟩
  rw [ofConfig_of_entries_eq hchooses rfl, Except.map_eq_ok_iff]
  exact ⟨_, Except.mapError_eq_ok_iff.2 hbuild, rfl⟩

/-- Of two faults the first one is the error; with the check switched off, or with a good
    section, there is none. -/
theorem ofConfig_refuses_or_registers_excludeScope :
    ofConfig (sectionConfig " Recommended" twoFaultsSection) (some [ParameterName.name]) =
        .error (.inCheck ParameterName.name (.unknownScope "module")) ∧
      ofConfig (sectionConfig "recommended" { twoFaultsSection with enabled := some false }) none =
        .ok [] ∧
      ∃ reg, ofConfig (sectionConfig "recommended" listedTokenSection) none = .ok [reg] ∧
        reg.wanted = .ok [.parameterDef] ∧ ∃ set, CheckSet.ofRegistrations [reg] = .ok set := by
  have hbase : Preset.recommended.sections.get? ParameterName.name = some {} := rfl
  refine ⟨?_, ?_, ?_⟩
  · have hchooses : (sectionConfig " Recommended" twoFaultsSection).Chooses .recommended :=
      show Preset.recommended.name = Preset.normalName " Recommended" by decide
    have hregisters : Registers (sectionConfig " Recommended" twoFaultsSection)
        (some [ParameterName.name]) ParameterName.name {} := by
      refine ⟨?_, nofun⟩
      rintro names ⟨⟩
      exact List.mem_singleton_self _
    have hunknown : ∀ scope : Scope, ¬ scope.IsNamed "module" := by
      intro scope
      unfold Scope.IsNamed
      cases scope <;> decide
    refine ((ofConfig_refuses_or_registers _ _).1 _).2 (.inCheck hchooses hbase hregisters ?_)
    have hformat : ∀ v, (sectionFor (sectionConfig " Recommended" twoFaultsSection)
        ParameterName.name {}).options.get? NamingRule.formatKey ≠ some v := nofun
    have hscope : ∀ v, (sectionFor (sectionConfig " Recommended" twoFaultsSection)
        ParameterName.name {}).options.get? NamingRule.scopeKey ≠ some v := nofun
    -- neither a format nor a least visible scope is there to be at fault
    refine .there ?_ (.there ?_ (.there ?_ (.here (.unknown rfl hunknown))))
    · rintro e ⟨⟨v, hv, -⟩, -⟩
      exact hformat v hv
    · rintro e ⟨source, hsource, -⟩
      exact hformat _ hsource
    · rintro e (⟨⟨v, hv, -⟩, -⟩ | ⟨hname, -⟩)
      · exact hscope v hv
      · exact hscope _ hname
  · have hchooses : (sectionConfig "recommended"
        { twoFaultsSection with enabled := some false }).Chooses .recommended :=
      show Preset.recommended.name = Preset.normalName "recommended" by decide
    exact (ofConfig_refuses_or_registers _ _).2.1 _ _ hchooses hbase fun h => h.2 rfl
  · obtain ⟨reg, hreg⟩ := exists_ofConfig_listedTokenSection
    obtain ⟨hwanted, hset⟩ := (ofConfig_refuses_or_registers _ _).2.2 _ hreg
    exact ⟨reg, hreg, hwanted reg (List.mem_singleton_self reg), hset [reg] fun _ => id⟩

end Checks

end JavaLint
