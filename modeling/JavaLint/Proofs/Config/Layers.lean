import JavaLint.Config.Checks
import JavaLint.Proofs.Config.Options
import JavaLint.Proofs.KeyMap
import Mathlib.Data.List.Induction
/-!
# Layers of sections

Sections are laid over each other. It does not matter which of them are laid
together first, a section without settings changes nothing, and a section laid
over itself neither. Of several layers the last one that has a setting decides
about it, whatever the value is, and an option of the layers is read as in the
layer that decides.

## Main definitions

- `Section.IsSetting` — a part of a section that an upper layer hides
- `Section.deciding` — the last layer that has a setting

## Main statements

- `Section.overlay_assoc`, `Section.empty_overlay`, `Section.overlay_empty`,
  `Section.overlay_self` — the laws of layers
- `Section.IsSetting.get_layers` — a setting of layers is that of the layer that decides
- `Section.overlay_layers` — the laws, and what layers say
-/

namespace JavaLint

/-! ## Maps laid over each other -/

namespace KeyMap

variable {κ α : Type} [LT κ] [DecidableEq κ] [DecidableLT κ] [SortsKeys κ]
  [Std.Irrefl fun a b : κ => a < b]

theorem overlay_assoc (a b c : KeyMap κ α) : (a.overlay b).overlay c = a.overlay (b.overlay c) := by
  refine eq_of_get? fun key => ?_
  simp only [get?_overlay]
  exact Option.or_assoc.symm

theorem overlay_empty (a : KeyMap κ α) : a.overlay empty = a := by
  refine eq_of_get? fun key => ?_
  rw [get?_overlay]
  rfl

theorem empty_overlay (a : KeyMap κ α) : empty.overlay a = a := by
  refine eq_of_get? fun key => ?_
  rw [get?_overlay]
  exact Option.or_none

theorem overlay_self (a : KeyMap κ α) : a.overlay a = a := by
  refine eq_of_get? fun key => ?_
  rw [get?_overlay]
  exact Option.or_self

end KeyMap

/-! ## Sections laid over each other -/

namespace Section

variable {α : Type} {get : Section → Option α} {s s' : Section} {key : String}

theorem overlay_assoc (a b c : Section) : (a.overlay b).overlay c = a.overlay (b.overlay c) := by
  unfold overlay
  rw [KeyMap.overlay_assoc, Option.or_assoc, Option.or_assoc]

theorem overlay_empty (a : Section) : a.overlay {} = a := by
  unfold overlay
  rw [KeyMap.overlay_empty, Option.none_or, Option.none_or]

theorem empty_overlay (a : Section) : overlay {} a = a := by
  unfold overlay
  rw [KeyMap.empty_overlay, Option.or_none, Option.or_none]

theorem overlay_self (a : Section) : a.overlay a = a := by
  unfold overlay
  rw [KeyMap.overlay_self, Option.or_self, Option.or_self]

instance : Std.Associative overlay :=
  ⟨overlay_assoc⟩

/-- What has been laid over a section already can be laid over it again. -/
theorem overlay_overlay_self (a b : Section) : (a.overlay b).overlay b = a.overlay b := by
  rw [overlay_assoc, overlay_self]

/-- Layers can be laid together before they are laid over a section. -/
theorem foldl_overlay_eq (base : Section) (layers : List Section) :
    layers.foldl overlay base = base.overlay (layers.foldl overlay {}) := by
  have hassoc : layers.foldl overlay (base.overlay {}) = base.overlay (layers.foldl overlay {}) :=
    List.foldl_assoc
  rwa [overlay_empty] at hassoc

/-! ## Settings of layers -/

/-- A part of a section that is hidden by the same part of a section laid over it. -/
def IsSetting (get : Section → Option α) : Prop :=
  ∀ base top, get (overlay base top) = (get top).or (get base)

theorem isSetting_enabled : IsSetting Section.enabled :=
  fun _ _ => rfl

theorem isSetting_severity : IsSetting Section.severity :=
  fun _ _ => rfl

theorem isSetting_option (key : String) : IsSetting fun s => s.options.get? key :=
  fun base top => KeyMap.get?_overlay base.options top.options key

/-- The layer that decides about a setting: the last one that has it, or else the section
    below all layers. -/
def deciding (get : Section → Option α) (base : Section) (layers : List Section) : Section :=
  (layers.reverse.find? fun s => (get s).isSome).getD base

theorem deciding_concat (get : Section → Option α) (base : Section) (layers : List Section)
    (s : Section) : deciding get base (layers ++ [s]) =
      if (get s).isSome then s else deciding get base layers := by
  unfold deciding
  rw [List.reverse_append, List.reverse_singleton, List.singleton_append, List.find?_cons]
  cases (get s).isSome <;> rfl

/-- A setting of layers is that of the layer that decides about it. -/
theorem IsSetting.get_layers (h : IsSetting get) (base : Section) (layers : List Section) :
    get (layers.foldl overlay base) = get (deciding get base layers) := by
  induction layers using List.reverseRecOn with
  | nil => rfl
  | append_singleton layers s ih =>
    rw [List.foldl_append, List.foldl_cons, List.foldl_nil, h, ih, deciding_concat]
    cases hs : get s with
    | none => rfl
    | some value => exact hs.symm

/-- An option has the same value in two sections, and is read from them alike. -/
structure ReadsAlike (key : String) (s s' : Section) : Prop where
  get?_eq : s.options.get? key = s'.options.get? key
  flag?_eq : s.flag? key = s'.flag? key
  text?_eq : s.text? key = s'.text? key
  scope?_eq : s.scope? key = s'.scope? key
  tokens?_eq : s.tokens? key = s'.tokens? key

/-- Nothing but the value of an option counts when it is read. -/
theorem readsAlike_of_get?_eq (h : s.options.get? key = s'.options.get? key) :
    ReadsAlike key s s' where
  get?_eq := h
  flag?_eq := flag?_congr h
  text?_eq := text?_congr h
  scope?_eq := scope?_congr h
  tokens?_eq := tokens?_congr h

/-- Sections laid over each other form a monoid in which laying a section over once is as
    good as twice. In layers over a section each of `enabled`, `severity` and the options
    is as in the last layer that has it, or else as in the section below; whatever an
    option is, it is read as in that layer. The section of a check is such a section,
    with the layer of the configuration over that of the preset. -/
theorem overlay_layers :
    (∀ a b c : Section, (a.overlay b).overlay c = a.overlay (b.overlay c)) ∧
      (∀ a : Section, a.overlay {} = a ∧ overlay {} a = a) ∧
      (∀ a b : Section, (a.overlay b).overlay b = a.overlay b) ∧
      (∀ (base : Section) (layers : List Section),
        layers.foldl overlay base = base.overlay (layers.foldl overlay {}) ∧
          (layers.foldl overlay base).enabled =
            (deciding Section.enabled base layers).enabled ∧
          (layers.foldl overlay base).severity =
            (deciding Section.severity base layers).severity ∧
          ∀ key, ReadsAlike key (layers.foldl overlay base)
            (deciding (·.options.get? key) base layers)) ∧
      ∀ (c : Config) (name : String) (base : Section),
        Checks.sectionFor c name base = (c.section? name).toList.foldl overlay base := by
  refine ⟨overlay_assoc, fun a => ⟨overlay_empty a, empty_overlay a⟩, overlay_overlay_self, ?_, ?_⟩
  · intro base layers
    refine ⟨foldl_overlay_eq base layers, isSetting_enabled.get_layers base layers,
      isSetting_severity.get_layers base layers, fun key => ?_⟩
    exact readsAlike_of_get?_eq ((isSetting_option key).get_layers base layers)
  · intro c name base
    unfold Checks.sectionFor
    cases c.section? name <;> rfl

end Section

end JavaLint
