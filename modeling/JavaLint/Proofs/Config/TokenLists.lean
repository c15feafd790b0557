import JavaLint.Proofs.Config.Options
import JavaLint.Proofs.KeyMap
import JavaLint.Proofs.Text.Gaps
import JavaLint.Proofs.Text.Split
import Mathlib.Data.List.TakeWhile
/-!
# Two ways to list tokens

An option lists tokens as an array of their names, or as one text with commas
between the names. Both ways come to the same, in what is read and in what is
refused, as long as the names can be told apart in the text.

## Main definitions

- `Token.Spells` — a token is written by its name in any case, with blanks around it
- `Section.IsListable` — names that can be listed in one text
- `Section.ReadsTokens` — what a list of names is read as

## Main statements

- `Token.isNamed_iff_spells` — the texts that name a token
- `Section.tokenNames_join` — the names in a text are those that it was joined from
- `Section.tokens?_of_joined_names` — both ways of listing tokens agree
-/

namespace JavaLint

/-! ## Spellings of a token -/

namespace Text

variable {before word after cs : List Char} {c : Char} {a b : String}

/-- Blanks around a text that has none at its ends are removed, and nothing else is. -/
theorem stripChars_append (hbefore : ∀ c ∈ before, isBlank c = true)
    (hafter : ∀ c ∈ after, isBlank c = true) (hword : IsTrimmed word) :
    stripChars isBlank (before ++ word ++ after) = word := by
  have hkeep : ∀ rest, (word ++ rest).dropWhile isBlank = word ++ rest := by
    intro rest
    obtain ⟨c, cs, rfl⟩ := List.exists_cons_of_ne_nil hword.ne_nil
    rw [List.cons_append, List.dropWhile_cons_of_neg (Bool.eq_false_iff.1 (hword.head rfl))]
  have hafter' : ∀ c ∈ after.reverse, isBlank c = true :=
    fun c hc => hafter c (List.mem_reverse.1 hc)
  have hself := hkeep []
  rw [List.append_nil] at hself
  calc stripChars isBlank (before ++ word ++ after)
      = ((word ++ after).reverse.dropWhile isBlank).reverse := by
        rw [stripChars, List.append_assoc, List.dropWhile_append_of_pos hbefore, hkeep]
    _ = ((word.dropWhile isBlank).reverse.dropWhile isBlank).reverse := by
        rw [List.reverse_append, List.dropWhile_append_of_pos hafter', hself]
    _ = word := hword.stripChars_eq

/-- What is removed from the ends of a text is what is to be removed. -/
theorem exists_stripChars_append (drop : Char → Bool) (cs : List Char) :
    ∃ before after, cs = before ++ stripChars drop cs ++ after ∧
      (∀ c ∈ before, drop c = true) ∧ ∀ c ∈ after, drop c = true := by
  refine ⟨cs.takeWhile drop, ((cs.dropWhile drop).reverse.takeWhile drop).reverse, ?_, ?_, ?_⟩
  · rw [stripChars, List.append_assoc, ← List.reverse_append, List.takeWhile_append_dropWhile,
      List.reverse_reverse, List.takeWhile_append_dropWhile]
  · exact fun c hc => List.mem_takeWhile_imp hc
  · exact fun c hc => List.mem_takeWhile_imp (List.mem_reverse.1 hc)

/-- A text with a character that is no blank is not empty without its blanks. -/
theorem trim_ne_empty (hc : c ∈ a.toList) (hblank : isBlank c = false) : trim a ≠ "" := by
  intro hempty
  have hstrip : stripChars isBlank a.toList = [] := by
    have hlist := congrArg String.toList hempty
    rwa [trim, String.toList_ofList] at hlist
  obtain ⟨before, after, heq, hbefore, hafter⟩ := exists_stripChars_append isBlank a.toList
  rw [hstrip, List.append_nil] at heq
  rw [heq] at hc
  rcases List.mem_append.1 hc with hc | hc
  · exact Bool.false_ne_true (hblank.symm.trans (hbefore c hc))
  · exact Bool.false_ne_true (hblank.symm.trans (hafter c hc))

/-- Blanks have no case. -/
theorem isBlank_toLower (h : isBlank c = true) : isBlank c.toLower = true := by
  have hupper : ¬ (c.val ≥ 'A'.val ∧ c.val ≤ 'Z'.val) := by
    rintro ⟨hge, hle⟩
    have hlow : 65 ≤ c.toNat := hge
    have hhigh : c.toNat ≤ 90 := hle
    simp only [isBlank, Bool.or_eq_true, Bool.and_eq_true, decide_eq_true_eq, beq_iff_eq] at h
    omega
  have hsame : c.toLower = c := dif_neg hupper
  rwa [hsame]

theorem sameIgnoringCase_iff :
    sameIgnoringCase a b = true ↔ a.toList.map Char.toLower = b.toList.map Char.toLower := by
  unfold sameIgnoringCase lowerAscii
  rw [beq_iff_eq, String.ofList_inj]

end Text

namespace Token

variable {token : Token} {text : String}

/-- A text spells a token: it is the name of the token in any case, with blanks around it. -/
def Spells (token : Token) (text : String) : Prop :=
  ∃ before word after : List Char, text.toList = before ++ word ++ after ∧
    (∀ c ∈ before, Text.isBlank c = true) ∧ (∀ c ∈ after, Text.isBlank c = true) ∧
    Text.sameIgnoringCase token.name (String.ofList word) = true

/-- The name of a token has no blank in it, in whatever case it is written. -/
theorem isTrimmed_of_sameIgnoringCase {word : List Char}
    (h : Text.sameIgnoringCase token.name (String.ofList word) = true) : Text.IsTrimmed word := by
  rw [Text.sameIgnoringCase_iff, String.toList_ofList] at h
  have hname : token.name.toList.map Char.toLower ≠ [] ∧
      (token.name.toList.map Char.toLower).all (fun c => !Text.isBlank c) = true := by
    cases token <;> exact ⟨by decide, by decide⟩
  rw [h, List.all_map, List.all_eq_true] at hname
  refine Text.isTrimmed_of_all (mt List.map_eq_nil_iff.2 hname.1) (List.all_eq_true.2 fun c hc => ?_)
  -- what is no blank in lower case is none as it is written
  cases hblank : Text.isBlank c with
  | false => rfl
  | true => simpa [Text.isBlank_toLower hblank] using hname.2 c hc

theorem isNamed_iff_spells : token.IsNamed text ↔ token.Spells text := by
  constructor
  · intro h
    obtain ⟨before, after, heq, hbefore, hafter⟩ :=
      Text.exists_stripChars_append Text.isBlank text.toList
    exact ⟨before, _, after, heq, hbefore, hafter, h⟩
  · rintro ⟨before, word, after, heq, hbefore, hafter, hword⟩
    have htrim : Text.trim text = String.ofList word := by
      rw [Text.trim, heq, Text.stripChars_append hbefore hafter
        (isTrimmed_of_sameIgnoringCase hword)]
    rw [IsNamed, htrim]
    exact hword

end Token

/-! ## Lists of tokens -/

namespace Section

variable {joined listed : Section} {key : String} {names : List String}
  {result : Except ConfigError (Option (List Token))}

/-- Names that can be listed in one text: no name has a comma, and none is blank. -/
def IsListable (names : List String) : Prop :=
  ∀ name ∈ names, ',' ∉ name.toList ∧ ∃ c ∈ name.toList, Text.isBlank c = false

/-- A list of names is read as the tokens that they spell, in order, or refused
    with the first name that spells none, quoted as it stands in the list. -/
inductive ReadsTokens (names : List String) : Except ConfigError (Option (List Token)) → Prop
  | tokens {tokens : List Token} :
      List.Forall₂ (fun name token => Token.Spells token name) names tokens →
      ReadsTokens names (.ok (some tokens))
  | unknown {before after : List String} {name : String} :
      names = before ++ name :: after →
      (∀ known ∈ before, ∃ token : Token, token.Spells known) →
      (∀ token : Token, ¬ token.Spells name) → ReadsTokens names (.error (.unknownToken name))

theorem mapM_tokenNamed_eq_iff :
    some <$> names.mapM tokenNamed = result ↔ ReadsTokens names result := by
  constructor
  · rintro rfl
    cases h : names.mapM tokenNamed with
    | ok tokens =>
      have htokens := mapM_tokenNamed_eq_ok_iff.1 h
      exact .tokens (htokens.imp fun _ _ => Token.isNamed_iff_spells.1)
    | error e =>
      obtain ⟨before, name, after, hnames, hbefore, hname, rfl⟩ := mapM_tokenNamed_eq_error_iff.1 h
      simp only [Token.isNamed_iff_spells] at hbefore hname
      exact .unknown hnames hbefore hname
  · rintro (htokens | ⟨hnames, hbefore, hname⟩)
    · rw [mapM_tokenNamed_eq_ok_iff.2 (htokens.imp fun _ _ => Token.isNamed_iff_spells.2)]
      rfl
    · simp only [← Token.isNamed_iff_spells] at hbefore hname
      rw [mapM_tokenNamed_eq_error_iff.2 ⟨_, _, _, hnames, hbefore, hname, rfl⟩]
      rfl

/-- The names in a text are those that it was joined from. -/
theorem tokenNames_join (h : IsListable names) :
    tokenNames key (.string (Text.join "," names)) = .ok names := by
  by_cases hne : names = []
  · subst hne
    rfl
  · have hkeep : ∀ name ∈ names, (!(Text.trim name).isEmpty) = true := by
      intro name hname
      obtain ⟨-, c, hc, hblank⟩ := h name hname
      simpa using Text.trim_ne_empty hc hblank
    rw [tokenNames, Text.splitCommas_join hne fun name hname => (h name hname).1,
      List.filter_eq_self.2 hkeep]

theorem tokens?_eq_of_tokenNames {s : Section} {v : Toml} (hget : s.options.get? key = some v)
    (hnames : tokenNames key v = .ok names) :
    s.tokens? key = some <$> names.mapM tokenNamed := by
  rw [tokens?_of_get?_eq_some hget, hnames]
  rfl

/-- Tokens are listed alike in one text, with commas between their names, and in
    an array of the names: what is read, and which name is refused, depends on
    the names only. -/
theorem tokens?_of_joined_names (h : IsListable names)
    (hjoined : joined.options.get? key = some (.string (Text.join "," names)))
    (hlisted : listed.options.get? key = some (.array (names.map .string))) :
    joined.tokens? key = listed.tokens? key ∧
      ∀ result, joined.tokens? key = result ↔ ReadsTokens names result := by
  have hjoined' := tokens?_eq_of_tokenNames hjoined (tokenNames_join h)
  have hlisted' := tokens?_eq_of_tokenNames hlisted (tokenNames_eq_ok_iff.2 (.items names))
  refine ⟨hjoined'.trans hlisted'.symm, fun result => ?_⟩
  rw [hjoined']
  exact mapM_tokenNamed_eq_iff

/-- Names in different spellings; the second one is that of no token. -/
def spelledNames : List String := [" Parameter_Def\t", "PARAM ", "METHOD_DEF", "?"]

/-- A section with one option. -/
def ofOption (key : String) (v : Toml) : Section :=
  { options := .ofList [(key, v)] }

theorem get?_options_ofOption (key : String) (v : Toml) :
    (ofOption key v).options.get? key = some v := by
  unfold ofOption
  rw [KeyMap.get?_ofList]
  simp

theorem tokens?_of_joined_names_unknown :
    IsListable spelledNames ∧
      (ofOption "tokens" (.string (Text.join "," spelledNames))).tokens? "tokens" =
        .error (.unknownToken "PARAM ") ∧
      (ofOption "tokens" (.array (spelledNames.map .string))).tokens? "tokens" =
        .error (.unknownToken "PARAM ") := by
  have hlistable : IsListable spelledNames := by
    intro name hname
    have hcheck : spelledNames.all (fun name =>
        !name.toList.contains ',' && name.toList.any fun c => !Text.isBlank c) = true := by decide
    simpa using List.all_eq_true.1 hcheck name hname
  obtain ⟨hsame, hreads⟩ := tokens?_of_joined_names hlistable
    (get?_options_ofOption "tokens" (.string (Text.join "," spelledNames)))
    (get?_options_ofOption "tokens" (.array (spelledNames.map .string)))
  have hknown : Token.parameterDef.Spells " Parameter_Def\t" :=
    ⟨[' '], "Parameter_Def".toList, ['\t'], rfl, List.forall_mem_singleton.2 rfl,
      List.forall_mem_singleton.2 rfl, by decide⟩
  have hunknown : ∀ token : Token, ¬ token.Spells "PARAM " := by
    intro token
    rw [← Token.isNamed_iff_spells, Token.IsNamed]
    cases token <;> decide
  have hfirst : ∀ known ∈ [" Parameter_Def\t"], ∃ token : Token, token.Spells known :=
    List.forall_mem_singleton.2 ⟨.parameterDef, hknown⟩
  have herror := (hreads _).2 (.unknown rfl hfirst hunknown)
  exact ⟨hlistable, herror, hsame.symm.trans herror⟩

end Section

end JavaLint
