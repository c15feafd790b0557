import JavaLint.Config.Section
import JavaLint.Proofs.Except
/-!
# Options of a section

An option is read as a value of one kind. Without the option there is none, and a
value of another kind is an error that names the option.

## Main definitions

- `Scope.IsNamed`, `Token.IsNamed` — a text is the name of a scope or of a token
- `Section.Mistyped` — an option is there and of another kind
- `Section.ScopeFault` — what is wrong with an option that names a scope
- `Toml.Lists` — the names that the value of an option lists

## Main statements

- `Section.text?_eq_ok_iff`, `Section.flag?_eq_ok_iff`, `Section.scope?_eq_ok_iff` — what is read
- `Section.text?_eq_error_iff`, `Section.flag?_eq_error_iff`, `Section.scope?_eq_error_iff` — when
  nothing can be read
- `Section.tokens?_eq_ok_iff` — the tokens that an option lists
-/

namespace JavaLint

/-! ## Names of scopes and tokens -/

theorem List.find?_eq_some_iff_of_unique {α : Type} {p : α → Bool} {l : List α} {a : α}
    (hall : ∀ a, a ∈ l) (hunique : ∀ a b, p a = true → p b = true → a = b) :
    l.find? p = some a ↔ p a = true := by
  constructor
  · exact List.find?_some
  · intro ha
    cases hfind : l.find? p with
    | none => exact absurd ha (List.find?_eq_none.1 hfind a (hall a))
    | some b => rw [hunique b a (List.find?_some hfind) ha]

/-- A text names a scope up to surrounding blanks and ASCII case. -/
def Scope.IsNamed (scope : Scope) (text : String) : Prop :=
  Text.sameIgnoringCase scope.name (Text.trim text) = true

/-- A text names a token up to surrounding blanks and ASCII case. -/
def Token.IsNamed (token : Token) (text : String) : Prop :=
  Text.sameIgnoringCase token.name (Text.trim text) = true

theorem Text.lowerAscii_eq_of_sameIgnoringCase {a b c : String}
    (ha : sameIgnoringCase a c = true) (hb : sameIgnoringCase b c = true) :
    lowerAscii a = lowerAscii b :=
  (eq_of_beq ha).trans (eq_of_beq hb).symm

theorem Scope.eq_of_lowerAscii_name_eq (a b : Scope)
    (h : Text.lowerAscii a.name = Text.lowerAscii b.name) : a = b := by
  revert h
  cases a <;> cases b <;> decide

theorem Token.eq_of_lowerAscii_name_eq (a b : Token)
    (h : Text.lowerAscii a.name = Text.lowerAscii b.name) : a = b := by
  revert h
  cases a <;> cases b <;> decide

theorem Scope.ofName?_eq_some_iff {scope : Scope} {text : String} :
    ofName? text = some scope ↔ scope.IsNamed text :=
  List.find?_eq_some_iff_of_unique (fun scope => by cases scope <;> decide) fun a b ha hb =>
    eq_of_lowerAscii_name_eq a b (Text.lowerAscii_eq_of_sameIgnoringCase ha hb)

theorem Token.ofName?_eq_some_iff {token : Token} {text : String} :
    ofName? text = some token ↔ token.IsNamed text :=
  List.find?_eq_some_iff_of_unique (fun token => by cases token <;> decide) fun a b ha hb =>
    eq_of_lowerAscii_name_eq a b (Text.lowerAscii_eq_of_sameIgnoringCase ha hb)

theorem Scope.ofName?_eq_none_iff {text : String} :
    ofName? text = none ↔ ∀ scope : Scope, ¬ scope.IsNamed text := by
  simp only [Option.eq_none_iff_forall_ne_some, ne_eq, ofName?_eq_some_iff]

theorem Token.ofName?_eq_none_iff {text : String} :
    ofName? text = none ↔ ∀ token : Token, ¬ token.IsNamed text := by
  simp only [Option.eq_none_iff_forall_ne_some, ne_eq, ofName?_eq_some_iff]

/-- The name of a scope in configurations names it. -/
theorem Scope.isNamed_name (scope : Scope) : scope.IsNamed scope.name := by
  unfold IsNamed
  cases scope <;> decide

/-! ## Lists of names -/

/-- Values that all are of the form that the results have are those of the results. -/
theorem List.map_eq_map_ok_iff {ε α β : Type} {f : α → Except ε β} {g : β → α} {l : List α}
    {bs : List β} (h : ∀ a b, f a = .ok b ↔ a = g b) : l.map f = bs.map .ok ↔ l = bs.map g := by
  induction l generalizing bs with
  | nil => cases bs <;> simp
  | cons a l ih =>
    cases bs with
    | nil => simp
    | cons b bs => simp only [List.map_cons, List.cons.injEq, h, ih]

/-- The value of an option lists names: a text by its pieces between commas other than
    blank ones, an array by its items. -/
inductive Toml.Lists : Toml → List String → Prop
  | pieces (text : String) : Lists (.string text)
      ((Text.splitCommas text).filter fun piece => !(Text.trim piece).isEmpty)
  | items (names : List String) : Lists (.array (names.map .string)) names

namespace Section

variable {s s' : Section} {key name : String} {v : Toml} {names : List String}
  {tokens : List Token} {e : ConfigError}

theorem text?_eq_some_iff : v.text? = some name ↔ v = .string name := by
  cases v <;> simp [Toml.text?]

/-- The items of an array of texts, if it is one. -/
def texts (e : ConfigError) (items : List Toml) : Except ConfigError (List String) :=
  items.mapM fun item => match item.text? with
    | some name => .ok name
    | none => .error e

theorem texts_eq_ok_iff {items : List Toml} :
    texts e items = .ok names ↔ items = names.map .string := by
  refine List.mapM_eq_ok_iff.trans (List.map_eq_map_ok_iff fun item name => ?_)
  rw [← text?_eq_some_iff]
  cases item.text? <;> simp

/-- An item that is no text is the one reason against an array of texts. -/
theorem texts_eq_error_iff {items : List Toml} {e' : ConfigError} :
    texts e items = .error e' ↔ (∃ item ∈ items, ∀ text, item ≠ .string text) ∧ e' = e := by
  have hitem : ∀ (item : Toml) (e' : ConfigError), (match item.text? with
      | some name => .ok name
      | none => .error e) = (Except.error e' : Except ConfigError String) ↔
        (∀ text, item ≠ .string text) ∧ e' = e := by
    intro item e'
    simp only [ne_eq, ← text?_eq_some_iff, ← Option.eq_none_iff_forall_ne_some]
    cases item.text? <;> simp [eq_comm]
  constructor
  · intro h
    obtain ⟨before, item, after, rfl, -, h⟩ := List.mapM_eq_error_iff.1 h
    obtain ⟨hno, rfl⟩ := (hitem item e').1 h
    exact ⟨⟨item, List.mem_append_right _ List.mem_cons_self, hno⟩, rfl⟩
  · rintro ⟨⟨item, hmem, hno⟩, rfl⟩
    cases h : texts e' items with
    | ok names =>
      rw [texts_eq_ok_iff.1 h] at hmem
      obtain ⟨name, -, hname⟩ := List.mem_map.1 hmem
      exact absurd hname.symm (hno name)
    | error e =>
      obtain ⟨before, other, after, rfl, -, h⟩ := List.mapM_eq_error_iff.1 h
      rw [((hitem other e).1 h).2]

theorem tokenNames_eq_ok_iff : tokenNames key v = .ok names ↔ v.Lists names := by
  constructor
  · intro h
    unfold tokenNames at h
    split at h
    · next text =>
      rw [← Except.ok.inj h]
      exact .pieces text
    · next items =>
      rw [texts_eq_ok_iff.1 h]
      exact .items names
    · cases h
  · rintro (text | names)
    · rfl
    · exact texts_eq_ok_iff.2 rfl

theorem tokenNamed_eq_ok_iff {token : Token} : tokenNamed name = .ok token ↔ token.IsNamed name := by
  rw [← Token.ofName?_eq_some_iff]
  unfold tokenNamed
  cases Token.ofName? name <;> simp

theorem tokenNamed_eq_error_iff :
    tokenNamed name = .error e ↔ (∀ token : Token, ¬ token.IsNamed name) ∧ e = .unknownToken name := by
  rw [← Token.ofName?_eq_none_iff]
  unfold tokenNamed
  cases Token.ofName? name <;> simp [eq_comm]

/-! ## What is read -/

theorem text?_congr (h : s'.options.get? key = s.options.get? key) : s'.text? key = s.text? key := by
  rw [text?, text?, h]

theorem flag?_congr (h : s'.options.get? key = s.options.get? key) : s'.flag? key = s.flag? key := by
  rw [flag?, flag?, h]

theorem scope?_congr (h : s'.options.get? key = s.options.get? key) :
    s'.scope? key = s.scope? key := by
  rw [scope?, scope?, text?_congr h]

theorem tokens?_congr (h : s'.options.get? key = s.options.get? key) :
    s'.tokens? key = s.tokens? key := by
  rw [tokens?, tokens?, h]

theorem text?_eq_ok_iff {text? : Option String} :
    s.text? key = .ok text? ↔ s.options.get? key = text?.map .string := by
  unfold Section.text?
  cases s.options.get? key with
  | none => cases text? <;> simp
  | some v => cases text? <;> cases v <;> simp [Toml.text?]

theorem flag?_eq_ok_iff {flag? : Option Bool} :
    s.flag? key = .ok flag? ↔ s.options.get? key = flag?.map .boolean := by
  unfold Section.flag?
  cases s.options.get? key with
  | none => cases flag? <;> simp
  | some v => cases flag? <;> cases v <;> simp [Toml.flag?]

theorem scope?_of_get?_eq_none (h : s.options.get? key = none) : s.scope? key = .ok none := by
  have htext : s.text? key = .ok none := text?_eq_ok_iff.2 h
  rw [scope?, htext]

theorem scope?_of_isNamed {scope : Scope} (h : s.options.get? key = some (.string name))
    (hname : scope.IsNamed name) : s.scope? key = .ok (some scope) := by
  have htext : s.text? key = .ok (some name) := text?_eq_ok_iff.2 h
  rw [scope?, htext]
  dsimp only
  rw [Scope.ofName?_eq_some_iff.2 hname]

theorem mapM_tokenNamed_eq_ok_iff : names.mapM tokenNamed = .ok tokens ↔
    List.Forall₂ (fun name token => Token.IsNamed token name) names tokens := by
  simp only [← tokenNamed_eq_ok_iff]
  rw [List.mapM_eq_ok_iff, ← List.forall₂_eq_eq_eq, List.forall₂_map_left_iff,
    List.forall₂_map_right_iff]

/-- An option lists the tokens that its names name, in order. -/
structure ListsTokens (s : Section) (key : String) (tokens : List Token) : Prop where
  exists_names : ∃ v names, s.options.get? key = some v ∧ v.Lists names ∧
    List.Forall₂ (fun name token => Token.IsNamed token name) names tokens

theorem tokens?_of_get?_eq_none (h : s.options.get? key = none) : s.tokens? key = .ok none := by
  rw [tokens?, h]

theorem tokens?_of_get?_eq_some (h : s.options.get? key = some v) :
    s.tokens? key = some <$> (tokenNames key v >>= fun names => names.mapM tokenNamed) := by
  rw [tokens?, h]
  dsimp only
  cases tokenNames key v with
  | error e => rfl
  | ok names =>
    have hbind : (.ok names >>= fun names => names.mapM tokenNamed) = names.mapM tokenNamed := rfl
    rw [hbind]
    dsimp only
    cases names.mapM tokenNamed <;> rfl

theorem tokens?_eq_ok_some_iff : s.tokens? key = .ok (some tokens) ↔ s.ListsTokens key tokens := by
  cases h : s.options.get? key with
  | none =>
    rw [tokens?_of_get?_eq_none h]
    refine ⟨nofun, ?_⟩
    rintro ⟨v, names, hv, -⟩
    rw [h] at hv
    cases hv
  | some v =>
    rw [tokens?_of_get?_eq_some h, Except.map_eq_ok_iff]
    simp only [Option.some.injEq, exists_eq_right, Except.bind_eq_ok_iff, tokenNames_eq_ok_iff,
      mapM_tokenNamed_eq_ok_iff]
    constructor
    · rintro ⟨names, hlists, htokens⟩
      exact ⟨v, names, h, hlists, htokens⟩
    · rintro ⟨v', names, hv, hlists, htokens⟩
      obtain rfl := Option.some.inj (h.symm.trans hv)
      exact ⟨names, hlists, htokens⟩

/-! ## What cannot be read -/

/-- An option is there and is not of the kind that is expected, whose values `kind` makes. -/
def Mistyped {α : Type} (s : Section) (key : String) (kind : α → Toml) (expected : String)
    (e : ConfigError) : Prop :=
  (∃ v, s.options.get? key = some v ∧ ∀ a, v ≠ kind a) ∧ e = .invalidOption key expected

/-- What is wrong with an option that is to name a scope. -/
inductive ScopeFault (s : Section) (key : String) : ConfigError → Prop
  | mistyped {e : ConfigError} : s.Mistyped key Toml.string "a string" e → ScopeFault s key e
  | unknown {name : String} : s.options.get? key = some (.string name) →
      (∀ scope : Scope, ¬ scope.IsNamed name) → ScopeFault s key (.unknownScope name)

/-- What is wrong with an option that is to list tokens. -/
inductive TokensFault (s : Section) (key : String) : ConfigError → Prop
  | shape {v : Toml} : s.options.get? key = some v → (∀ text, v ≠ .string text) →
      (∀ items, v ≠ .array items) →
      TokensFault s key (.invalidOption key "an array of token names")
  | item {items : List Toml} : s.options.get? key = some (.array items) →
      (∃ item ∈ items, ∀ text, item ≠ .string text) →
      TokensFault s key (.invalidOption key "an array of strings")
  /-- The first name that no token has is the one that counts. -/
  | unknown {v : Toml} {before after : List String} {name : String} :
      s.options.get? key = some v → v.Lists (before ++ name :: after) →
      (∀ known ∈ before, ∃ token : Token, token.IsNamed known) →
      (∀ token : Token, ¬ token.IsNamed name) → TokensFault s key (.unknownToken name)

theorem text?_eq_error_iff :
    s.text? key = .error e ↔ s.Mistyped key Toml.string "a string" e := by
  unfold Section.text? Mistyped
  cases s.options.get? key with
  | none => simp
  | some v => cases v <;> simp [Toml.text?, wrongType, eq_comm]

theorem flag?_eq_error_iff :
    s.flag? key = .error e ↔ s.Mistyped key Toml.boolean "a boolean" e := by
  unfold Section.flag? Mistyped
  cases s.options.get? key with
  | none => simp
  | some v => cases v <;> simp [Toml.flag?, wrongType, eq_comm]

theorem scope?_eq_error_iff : s.scope? key = .error e ↔ s.ScopeFault key e := by
  have hfault : s.ScopeFault key e ↔ s.text? key = .error e ∨
      ∃ name, s.text? key = .ok (some name) ∧ (∀ scope : Scope, ¬ scope.IsNamed name) ∧
        e = .unknownScope name := by
    simp only [text?_eq_error_iff, text?_eq_ok_iff, Option.map_some]
    constructor
    · rintro (hmistyped | ⟨hname, hunknown⟩)
      · exact .inl hmistyped
      · exact .inr ⟨_, hname, hunknown, rfl⟩
    · rintro (hmistyped | ⟨name, hname, hunknown, rfl⟩)
      · exact .mistyped hmistyped
      · exact .unknown hname hunknown
  simp only [hfault, ← Scope.ofName?_eq_none_iff]
  unfold scope?
  cases s.text? key with
  | error e' => simp
  | ok text? =>
    cases text? with
    | none => simp
    | some name => cases hscope : Scope.ofName? name <;> simp [hscope, eq_comm]

theorem tokenNames_eq_error_iff : tokenNames key v = .error e ↔
    (∀ text, v ≠ .string text) ∧ (∀ items, v ≠ .array items) ∧
        e = .invalidOption key "an array of token names" ∨
      ∃ items, v = .array items ∧ (∃ item ∈ items, ∀ text, item ≠ .string text) ∧
        e = .invalidOption key "an array of strings" := by
  cases v with
  | string text => simp [tokenNames]
  | array items =>
    refine (texts_eq_error_iff (e := wrongType key "an array of strings")).trans ?_
    simp [wrongType]
  | _ => simp [tokenNames, wrongType, eq_comm]

theorem mapM_tokenNamed_eq_error_iff : names.mapM tokenNamed = .error e ↔
    ∃ before name after, names = before ++ name :: after ∧
      (∀ known ∈ before, ∃ token : Token, token.IsNamed known) ∧
      (∀ token : Token, ¬ token.IsNamed name) ∧ e = .unknownToken name := by
  simp only [List.mapM_eq_error_iff, tokenNamed_eq_ok_iff, tokenNamed_eq_error_iff]

theorem tokens?_eq_error_iff : s.tokens? key = .error e ↔ s.TokensFault key e := by
  cases hv : s.options.get? key with
  | none =>
    rw [tokens?_of_get?_eq_none hv]
    refine ⟨nofun, ?_⟩
    rintro (⟨hsome, -⟩ | ⟨hsome, -⟩ | ⟨hsome, -⟩) <;> exact nomatch hv.symm.trans hsome
  | some v =>
    rw [tokens?_of_get?_eq_some hv, Except.map_eq_error_iff, Except.bind_eq_error_iff,
      tokenNames_eq_error_iff]
    simp only [tokenNames_eq_ok_iff, mapM_tokenNamed_eq_error_iff]
    constructor
    · rintro ((⟨hstring, harray, rfl⟩ | ⟨items, rfl, hitem, rfl⟩) |
        ⟨_, hlists, before, name, after, rfl, hbefore, hname, rfl⟩)
      · exact .shape hv hstring harray
      · exact .item hv hitem
      · exact .unknown hv hlists hbefore hname
    · rintro (⟨hget, hstring, harray⟩ | ⟨hget, hitem⟩ | ⟨hget, hlists, hbefore, hname⟩) <;>
        obtain rfl := Option.some.inj (hv.symm.trans hget)
      · exact .inl (.inl ⟨hstring, harray, rfl⟩)
      · exact .inl (.inr ⟨_, rfl, hitem, rfl⟩)
      · exact .inr ⟨_, hlists, _, _, _, rfl, hbefore, hname, rfl⟩

end Section

end JavaLint
