import JavaLint.Proofs.Naming.Runs
/-!
# Receivers among the reported parameters

An explicit receiver is written like a parameter with the name `this`. One that
carries annotations has the form of a formal parameter in the concrete syntax
tree, so a check of parameter names looks at it. It depends on the check whether
it is reported.

## Main definitions

- `Java.DisguisedReceiver` — a receiver that has come to be a formal parameter

## Main statements

- `Run.forall_ne_this_iff` — when a run reports no receiver
- `Run.exists_receiver_reported` — a run that reports one
-/

namespace JavaLint

/-- The name of receivers. -/
def Java.receiverName : String := "this"

/-- A formal parameter of the tree is a receiver: some parameter of the program
    other than those in the form of receivers writes its name, which is `this`. -/
def Java.DisguisedReceiver (s : Source) (program : Cst) (t : Tree) (id : NodeId) : Prop :=
  ∃ node, t.get? id = some node ∧ node.kind = .parameter .formal ∧
    ∃ param name : Cst, param.Within program ∧ param.NamesParameter name ∧
      s.text name = receiverName ∧ s.Writes name node.toDeclaration

/-- A check reports a formal parameter with the name of receivers where it covers
    it and its pattern does not accept that name. -/
theorem ParameterName.exists_reported_iff {p : ParameterName} {s : Java.Source} {unit : String}
    {program : Java.Cst} {t : Tree} {id : NodeId} (ht : s.declarations unit program = .ok t) :
    (∃ node, p.Reported t id node ∧ node.ident = Java.receiverName) ↔
      Java.DisguisedReceiver s program t id ∧ p.covers t id = true ∧
        p.rule.pattern.accepts Java.receiverName = false := by
  constructor
  · rintro ⟨node, hreported, hident⟩
    obtain ⟨param, name, hparam, hname, hwrites⟩ :=
      Java.Source.exists_parameter_of_get? ht hreported.get?_eq hreported.kind_eq
    refine ⟨⟨node, hreported.get?_eq, hreported.kind_eq, param, name, hparam, hname, ?_, hwrites⟩,
      covers_iff.2 ⟨hreported.in_range, hreported.not_left_out⟩, ?_⟩
    · rw [← hwrites.ident_eq]
      exact hident
    · rw [← hident]
      exact hreported.mismatch
  · rintro ⟨⟨node, hnode, hkind, param, name, -, -, htext, hwrites⟩, hcovers, hmismatch⟩
    obtain ⟨hrange, hleft⟩ := covers_iff.1 hcovers
    have hident : node.ident = Java.receiverName := hwrites.ident_eq.trans htext
    exact ⟨node, ⟨hnode, hkind, hrange, hleft, hident ▸ hmismatch⟩, hident⟩

namespace Run

variable {directory path source : String} {setup : Setup} {r : Run} {vs : List Violation}
  {grammar : List Char → Java.Cst}

/-- A run of checks of parameter names reports no receiver of a source text just
    if each of its checks accepts the name of receivers or covers none of those
    that have the form of formal parameters. -/
theorem forall_ne_this_iff (hs : setup.ChecksParameterNames grammar)
    (hr : ofSetup directory setup = .ok r) (hvs : r.checkSource path source = .ok vs) :
    ∃ tree, Java.treeOf grammar ((Path.fileName? path).getD "") source
        setup.config.checker.tabWidth = .ok tree ∧
      ((∀ v ∈ vs, v.messageArgs.head? ≠ some "this") ↔
        ∀ p, setup.Enables p → p.rule.pattern.accepts "this" = true ∨
          ∀ id, Java.DisguisedReceiver (.ofText source setup.config.checker.tabWidth.toUInt64)
            (grammar source.toList) tree id → p.covers tree id = false) := by
  obtain ⟨tree, htree, hmem⟩ := mem_checkSource_iff hs hr hvs
  -- the first argument of each message is the name, whatever severity is configured
  have hargs : ∀ (p : ParameterName) (node : TreeNode),
      (withConfiguredSeverity setup.config (p.violationAt ⟨path, tree⟩ node)).messageArgs.head? =
        some node.ident := by
    intro p node
    obtain ⟨severity, hseverity⟩ :=
      withConfiguredSeverity_eq setup.config (p.violationAt ⟨path, tree⟩ node)
    rw [hseverity]
    rfl
  refine ⟨tree, htree, ?_⟩
  constructor
  · intro hnone p henabled
    by_cases haccepts : p.rule.pattern.accepts "this" = true
    · exact .inl haccepts
    · refine .inr fun id hreceiver => Bool.eq_false_iff.2 fun hcovers => ?_
      obtain ⟨node, hreported, hident⟩ := (ParameterName.exists_reported_iff htree).2
        ⟨hreceiver, hcovers, Bool.eq_false_iff.2 haccepts⟩
      refine hnone _ ((hmem _).2 ⟨p, id, node, henabled, hreported, rfl⟩) ?_
      rw [hargs, hident]
      rfl
  · intro hsafe v hv hthis
    obtain ⟨p, id, node, henabled, hreported, rfl⟩ := (hmem v).1 hv
    rw [hargs] at hthis
    obtain ⟨hreceiver, hcovers, hmismatch⟩ := (ParameterName.exists_reported_iff htree).1
      ⟨node, hreported, Option.some.inj hthis⟩
    rcases hsafe p henabled with haccepts | hnone
    · exact Bool.false_ne_true (hmismatch.symm.trans haccepts)
    · exact Bool.false_ne_true ((hnone id hreceiver).symm.trans hcovers)

end Run

/-- A method with a receiver that carries an annotation. -/
def receiverSource : String := "class A \x7b void m(@B A this) \x7b\x7d \x7d"

open Java in
/-- The concrete syntax tree of that text. -/
def receiverProgram : Cst :=
  .node .program none false 0 32 [
    .node .classDeclaration none false 0 32 [
      .leaf (.token "class") 0 5,
      .node .identifier (some .name) false 6 7 [],
      .node .classBody (some .body) false 8 32 [
        .leaf (.token "\x7b") 8 9,
        .node .methodDeclaration none false 10 30 [
          .leaf .phrase 10 14,
          .node .identifier (some .name) false 15 16 [],
          .node .formalParameters (some .parameters) false 16 27 [
            .leaf (.token "(") 16 17,
            .node .formalParameter none false 17 26 [
              .node .modifiers none false 17 19 [
                .node .annotationUse none false 17 19 [
                  .leaf (.token "@") 17 18,
                  .node .identifier (some .name) false 18 19 []]],
              .leaf .phrase 20 21,
              .node .identifier (some .name) false 22 26 []],
            .leaf (.token ")") 26 27],
          .node .phrase (some .body) false 28 30 [
            .leaf (.token "\x7b") 28 29,
            .leaf (.token "\x7d") 29 30]],
        .leaf (.token "\x7d") 31 32]]]

/-- A setup whose check takes no name but `h`. -/
def receiverSetup : Run.Setup :=
  { registrations := [{ check := ParameterName.onlyH.toCheck }]
    frontend := some (Java.frontendWith fun _ => receiverProgram)
    config := { checker := {} } }

/-- The violation at the receiver. -/
def receiverViolation : Violation :=
  .ofMessage "SC101" "parameter-name" .error
    { file := "A.java", line := 1, column := 23, offset := 22, length := 4 }
    "name.invalidPattern" ["this", "h"]

theorem checksParameterNames_receiverSetup :
    receiverSetup.ChecksParameterNames fun _ => receiverProgram where
  frontend_eq := rfl
  exists_toCheck := by
    rintro r (_ | ⟨_, ⟨⟩⟩)
    exact ⟨_, rfl⟩

theorem exists_run_receiverSetup :
    ∃ r, Run.ofSetup "/" receiverSetup = .ok r ∧
      r.checkSource "A.java" receiverSource = .ok [receiverViolation] :=
  ⟨_, rfl, by decide +kernel⟩

theorem Run.forall_ne_this_iff_receiver :
    ∃ r vs, receiverSetup.ChecksParameterNames (fun _ => receiverProgram) ∧
      ofSetup "/" receiverSetup = .ok r ∧ r.checkSource "A.java" receiverSource = .ok vs ∧
      ∃ tree, Java.treeOf (fun _ => receiverProgram) ((Path.fileName? "A.java").getD "")
          receiverSource receiverSetup.config.checker.tabWidth = .ok tree ∧
        ((∀ v ∈ vs, v.messageArgs.head? ≠ some "this") ↔
          ∀ p, receiverSetup.Enables p → p.rule.pattern.accepts "this" = true ∨
            ∀ id, Java.DisguisedReceiver
              (.ofText receiverSource receiverSetup.config.checker.tabWidth.toUInt64)
              receiverProgram tree id → p.covers tree id = false) := by
  obtain ⟨r, hr, hvs⟩ := exists_run_receiverSetup
  have hs := checksParameterNames_receiverSetup
  exact ⟨r, _, hs, hr, hvs, forall_ne_this_iff hs hr hvs⟩

/-- A run may report a receiver. -/
theorem Run.exists_receiver_reported :
    ∃ r vs, receiverSetup.ChecksParameterNames (fun _ => receiverProgram) ∧
      ofSetup "/" receiverSetup = .ok r ∧ r.checkSource "A.java" receiverSource = .ok vs ∧
      ¬ ∀ v ∈ vs, v.messageArgs.head? ≠ some "this" := by
  obtain ⟨r, hr, hvs⟩ := exists_run_receiverSetup
  refine ⟨r, _, checksParameterNames_receiverSetup, hr, hvs, fun h => ?_⟩
  exact h receiverViolation (List.mem_singleton_self _) rfl

end JavaLint
