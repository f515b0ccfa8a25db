import FlowTemplate.Proofs.Compile.Assembly
import FlowTemplate.Proofs.Json.Excess
import FlowTemplate.Proofs.Reference.Pin
/-!
# How a compilation ends

Whether one state machine compiles is known beforehand, and so is the error if it does not. Five
things can go wrong, and the first of them decides: the block does not have the shape of one, its
text is beyond what the linter reads, the linter rejects it, there are fewer names left than the
definition has outermost intrinsics, or an exact version is asked of a function that has none. What
comes after that cannot fail, for the shape has made sure of all that is looked up there.

Every error but one names the machine. A text that is too deep or has too long an integer is met
with the failure of the reader.
-/

namespace FlowTemplate

open FlowTemplate.Computation

namespace Machine

/-! ## What can go wrong -/

def shapeFailure? (name : String) (machine : Value) : Option CompileError :=
  if shapeReport machine = [] then none else some (.malformed name (shapeReport machine))

/-- A text that is linted may be one that cannot be read. -/
def readingFailure? (context : Context) (definition : Value) : Option CompileError :=
  if context.lints then (Lint.excess? definition).map fun
    | .digits => .misfit .endlessText
    | .depth => .misfit .endless
  else none

def lintFailure? (context : Context) (name : String) (definition : Value) : Option CompileError :=
  if context.lints && !(Lint.findings definition).isEmpty then
    some (.invalidDefinition name ((Lint.findings definition).map Lint.Finding.toValue))
  else none

def namesFailure? (counter : Counter) (name : String) (definition : Value) : Option CompileError :=
  if counter.capacity - counter.issued < (Intrinsic.outermost definition).length then
    some (.exhausted name (.exhausted ⟨counter.capacityText, counter.length⟩))
  else none

/-- The parameters of a definition are its outermost intrinsics, each resolved. -/
def versionFailure? (context : Context) (resources : Entries) (name : String) (machine : Value)
    (definition : Value) : Option CompileError :=
  match usesExactVersions machine with
  | .ok true =>
    (((Intrinsic.outermost definition).map context.resolve).findSome?
      (Reference.unversioned? resources)).map fun logicalId =>
        .unresolvedVersion name (.noVersion logicalId)
  | _ => none

/-- What is wrong with a block or its definition before anything is compiled. -/
def checkFailure? (context : Context) (name : String) (machine : Value) : Option CompileError :=
  shapeFailure? name machine <|> match definition machine with
    | .ok definition => readingFailure? context definition <|> lintFailure? context name definition
    | .error _ => none

/-- What goes wrong when a definition string is made and pinned. -/
def buildFailure? (context : Context) (resources : Entries) (counter : Counter) (name : String)
    (machine : Value) : Option CompileError :=
  match definition machine with
  | .ok definition =>
    namesFailure? counter name definition <|>
      versionFailure? context resources name machine definition
  | .error _ => none

/-- The error of a compilation, if there is one. -/
def failure? (context : Context) (resources : Entries) (counter : Counter) (name : String)
    (machine : Value) : Option CompileError :=
  checkFailure? context name machine <|> buildFailure? context resources counter name machine

/-! ## Checks -/

variable {context : Context} {name : String} {machine definition : Value}

theorem run_lift_ok {ε α : Type} (encode : ε → CompileError) (a : α) (s : Session) :
    (Compile.lift encode (.ok a)).run s = (.ok a, s) := rfl

theorem failsAs_run_lift {α : Type} {failure? : Option CompileError}
    {result : Except CompileError α} (h : FailsAs failure? result) (s : Session) :
    FailsAs failure? ((Compile.lift id result).run s).1 := by
  cases result <;> exact h

theorem run_lintWith (lint : Value → List Value)
    (hdefinition : Machine.definition machine = .ok definition) (s : Session) :
    (lintWith lint name machine).run s = match lint definition with
      | [] => (.ok (), { s with log := s.log ++
          [⟨.info, s!"✓ State machine \"{name}\" definition is valid"⟩] })
      | details => (.error (.invalidDefinition name details), s) := by
  rw [lintWith, hdefinition, run_bind_of_ok (run_lift_ok _ definition s)]
  cases lint definition <;> rfl

theorem checkReadable_eq (hdefinition : Machine.definition machine = .ok definition) :
    checkReadable machine = match Lint.excess? definition with
      | none => .ok ()
      | some .digits => .error .endlessText
      | some .depth => .error .endless := by
  rw [checkReadable, hdefinition]
  change (match Lint.excess? definition with
    | none => (pure () : Except Misfit Unit)
    | some .digits => throw Misfit.endlessText
    | some .depth => throw Misfit.endless) = _
  rcases Lint.excess? definition with _ | _ | _ <;> rfl

/-- What linting a block comes to. Only a success is logged. -/
theorem run_lint (name : String) (hlints : context.lints = true)
    (hdefinition : Machine.definition machine = .ok definition) (s : Session) :
    match readingFailure? context definition <|> lintFailure? context name definition with
    | some e => (lint name machine).run s = (.error e, s)
    | none => ∃ log, (lint name machine).run s = (.ok (), { s with log }) := by
  rw [lint, checkReadable_eq hdefinition, readingFailure?, lintFailure?, hlints, if_pos rfl]
  rcases Lint.excess? definition with _ | _ | _
  · rw [run_bind_of_ok (run_lift_ok _ () s), run_lintWith _ hdefinition]
    cases Lint.findings definition with
    | nil => exact ⟨_, rfl⟩
    | cons finding rest => rfl
  · rfl
  · rfl

/-- What the checks of a block come to. A failure leaves the session as it is. -/
theorem run_checks (context : Context) (name : String)
    (hdefinition : shapeReport machine = [] →
      ∃ definition, Machine.definition machine = .ok definition) (s : Session) :
    match checkFailure? context name machine with
    | some e => (checks context name machine).run s = (.error e, s)
    | none => shapeReport machine = [] ∧
      ∃ log, (checks context name machine).run s = (.ok (), { s with log }) := by
  rw [checkFailure?, shapeFailure?, checks, checkShape]
  cases hshape : shapeReport machine with
  | cons fault rest => rfl
  | nil =>
    obtain ⟨definition, hdefinition⟩ := hdefinition hshape
    rw [run_bind_of_ok (run_lift_ok id () s), if_pos rfl, hdefinition]
    change match readingFailure? context definition <|> lintFailure? context name definition with
      | some e => ((if context.lints then lint name machine else return ()).run s) = (.error e, s)
      | none => [] = [] ∧ ∃ log,
        (if context.lints then lint name machine else return ()).run s = (.ok (), { s with log })
    by_cases hlints : context.lints = true
    · have hlint := run_lint name hlints hdefinition s
      rw [if_pos hlints]
      split at hlint
      · exact hlint
      · exact ⟨rfl, hlint⟩
    · rw [if_neg hlints, readingFailure?, lintFailure?, Bool.eq_false_iff.mpr hlints]
      exact ⟨rfl, s.log, rfl⟩

/-! ## Names -/

/-- Making a definition string fails if the names run out; else the outermost intrinsics of the
definition have become its parameters. -/
theorem run_definitionString (context : Context) (name : String)
    (hdefinition : Machine.definition machine = .ok definition) (htree : definition.isTree = true)
    (hform : (∃ text, definition = .str text) ∨ ∃ entries, definition = .map entries)
    (counter : Counter) (log : List Log.Entry) :
    FailsAs (namesFailure? counter name definition)
      ((definitionString context name machine).run ⟨.counted counter, log⟩).1 ∧
    ∀ built s, (definitionString context name machine).run ⟨.counted counter, log⟩ =
        (.ok built, s) →
      built.parameters.map Prod.snd = (Intrinsic.outermost definition).map context.resolve := by
  rw [definitionString, hdefinition, run_bind_of_ok (run_lift_ok _ definition _)]
  simp only [Value.hasNumbers_of_isTree htree, Bool.false_eq_true, if_false]
  rw [namesFailure?]
  rcases hform with ⟨text, rfl⟩ | ⟨entries, rfl⟩
  · refine ⟨⟨_, rfl⟩, fun built s h => ?_⟩
    cases h
    rfl
  · have hbuild := DefinitionString.run_build_tree context.style Session.nextToken context.resolve
      htree ⟨.counted counter, log⟩
    rw [Session.run_draws_nextToken, TokenSource.run_draws_counted,
      Counter.run_draws_next] at hbuild
    by_cases h : counter.capacity - counter.issued < (Intrinsic.outermost (.map entries)).length
    · rw [if_neg (by omega)] at hbuild
      rw [if_pos h, run_bind, run_adapt, hbuild]
      exact ⟨rfl, fun built s h => by cases h⟩
    · have hdraws := Counter.run_draws_next (Intrinsic.outermost (.map entries)).length counter
      rw [if_pos (by omega)] at hbuild hdraws
      dsimp only [mapError_ok] at hbuild
      have hparameters := DefinitionString.snd_parameters_drawn context.style context.resolve
        (counter.isFresh_next _ _ (Intrinsic.issues_of_draws hdraws)) (counter.length_upcoming _)
      rw [if_neg h, run_bind, run_adapt, hbuild]
      dsimp only
      generalize DefinitionString.drawn context.style context.resolve (.map entries)
        (counter.upcoming (Intrinsic.outermost (.map entries)).length) = drawn at hparameters
      cases drawn with
      | plain text =>
        refine ⟨⟨_, rfl⟩, fun built s h => ?_⟩
        cases h
        exact hparameters
      | substitution text parameters =>
        refine ⟨⟨_, rfl⟩, fun built s h => ?_⟩
        cases h
        exact hparameters

/-! ## Versions -/

theorem usesExactVersions_eq {entries : Entries} (hentries : machine.entries? = some entries) :
    usesExactVersions machine = .ok (entries.find? "useExactVersion" == some (.bool true)) := by
  rw [usesExactVersions, Value.field_eq hentries]
  rfl

theorem mapParameters_failsAs {ε : Type} {f : Value → Except ε Value}
    {failureOf? : Value → Option ε} (h : ∀ v, FailsAs (failureOf? v) (f v)) (built : DefinitionString) :
    FailsAs ((built.parameters.map Prod.snd).findSome? failureOf?) (built.mapParameters f) := by
  cases built with
  | plain text => exact ⟨.plain text, rfl⟩
  | substitution text parameters =>
    have hentries := failsAs_mapM parameters fun entry _ => (h entry.2).map fun v => (entry.1, v)
    rw [List.findSome?_map]
    exact hentries.map (DefinitionString.substitution text)

/-- The error of a machine whose parameters cannot be pinned. -/
def pinError (name : String) : Reference.PinFailure → CompileError
  | .misfit m => .misfit m
  | cause => .unresolvedVersion name cause

/-- Pinning the parameters of a definition string fails for the first of them that is a function
without a version. -/
theorem mapParameters_pin {functions : List String} (hfunctions : context.functions = some functions)
    {template : Entries} (hresources : template.MapsOrLacks "Resources")
    (hversions : Reference.HaveReadableVersions (template.under "Resources")) (name : String)
    (built : DefinitionString) :
    FailsAs (((built.parameters.map Prod.snd).findSome?
        (Reference.unversioned? (template.under "Resources"))).map
          fun logicalId => .unresolvedVersion name (.noVersion logicalId))
      ((built.mapParameters (context.pin (.map template))).mapError (pinError name)) := by
  have hpin (v : Value) : FailsAs
      ((Reference.unversioned? (template.under "Resources") v).map Reference.PinFailure.noVersion)
      (context.pin (.map template) v) := by
    rw [Context.pin, hfunctions]
    exact Reference.pin_failsAs hresources hversions v
  have hfirst (vs : List Value) : vs.findSome? (fun v =>
      (Reference.unversioned? (template.under "Resources") v).map .noVersion) =
      (vs.findSome? (Reference.unversioned? (template.under "Resources"))).map
        Reference.PinFailure.noVersion := List.map_findSome?.symm
  have hparameters := mapParameters_failsAs hpin built
  rw [hfirst] at hparameters
  have hnamed := hparameters.mapError (pinError name)
  rw [Option.map_map] at hnamed
  exact hnamed

/-- What pinning the parameters comes to. -/
theorem pinned_failsAs {functions : List String} (hfunctions : context.functions = some functions)
    {template : Entries} (hresources : template.MapsOrLacks "Resources")
    (hversions : Reference.HaveReadableVersions (template.under "Resources"))
    {entries : Entries} (hentries : machine.entries? = some entries) (name : String)
    {built : DefinitionString} (hbuilt : built.parameters.map Prod.snd =
      (Intrinsic.outermost definition).map context.resolve) :
    FailsAs (versionFailure? context (template.under "Resources") name machine definition)
      (pinned context (.map template) name machine built) := by
  rw [versionFailure?, pinned, usesExactVersions_eq hentries]
  cases entries.find? "useExactVersion" == some (.bool true) with
  | false => exact ⟨built, rfl⟩
  | true =>
    have hparameters := mapParameters_pin hfunctions hresources hversions name built
    rw [hbuilt] at hparameters
    exact hparameters

/-! ## The outcome -/

theorem definition_of_wellShaped {entries : Entries} (hentries : machine.entries? = some entries)
    (hshaped : WellShaped entries) : ∃ definition, Machine.definition machine = .ok definition ∧
      (IsText definition ∨ IsMapping definition) := by
  obtain ⟨definition, hfind⟩ := hshaped.definition
  refine ⟨definition, ?_, ?_⟩
  · rw [Machine.definition, hentries]
    dsimp only
    rw [hfind]
  · exact hshaped.fields ("definition", fun v => IsText v ∨ IsMapping v) (by simp [fieldRules]) _
      hfind

theorem exists_definition_of_shapeReport (h : shapeReport machine = []) :
    ∃ definition, Machine.definition machine = .ok definition := by
  obtain ⟨entries, hentries, hshaped⟩ := wellShaped_of_shapeReport h
  obtain ⟨definition, hdefinition, -⟩ := definition_of_wellShaped hentries hshaped
  exact ⟨definition, hdefinition⟩

theorem form_of_isTree (htree : definition.isTree = true)
    (hform : IsText definition ∨ IsMapping definition) :
    (∃ text, definition = .str text) ∨ ∃ entries, definition = .map entries := by
  rcases hform with htext | ⟨entries, hentries⟩
  · exact .inl (htext.eq_str (Value.hasNumbers_of_isTree htree))
  · rw [Value.entries?, Value.bare_of_isTree htree] at hentries
    cases definition with
    | map entries => exact .inr ⟨entries, rfl⟩
    | _ => cases hentries

/-- What a block that passes its checks compiles to. -/
theorem compileChecked_failsAs {functions : List String}
    (hfunctions : context.functions = some functions)
    (hprovider : HasTags context.providerTags) {template : Entries}
    (hresources : template.MapsOrLacks "Resources")
    (hversions : Reference.HaveReadableVersions (template.under "Resources"))
    (hbounded : ∀ entries, machine.entries? = some entries → IsBounded entries)
    (htree : ∀ definition, Machine.definition machine = .ok definition → definition.isTree = true)
    (hshape : shapeReport machine = []) (name : String) (counter : Counter)
    (log : List Log.Entry) :
    FailsAs (buildFailure? context (template.under "Resources") counter name machine)
      ((compileChecked context (.map template) name machine).run ⟨.counted counter, log⟩).1 := by
  obtain ⟨entries, hentries, hshaped⟩ := wellShaped_of_shapeReport hshape
  obtain ⟨definition, hdefinition, hform⟩ := definition_of_wellShaped hentries hshaped
  have htree := htree definition hdefinition
  obtain ⟨hnames, hparameters⟩ :=
    run_definitionString context name hdefinition htree (form_of_isTree htree hform) counter log
  rw [buildFailure?, hdefinition]
  refine failsAs_run_bind hnames fun built s hbuilt => ?_
  have hpinned := pinned_failsAs hfunctions hresources hversions hentries name
    (hparameters built s hbuilt)
  have hlast (last? : Option CompileError) : (last? <|> none) = last? := by cases last? <;> rfl
  rw [← hlast (versionFailure? _ _ _ _ _)]
  refine failsAs_run_bind (failsAs_run_lift hpinned s) fun pinned s _ => ?_
  have hassemble : FailsAs none (assemble context name machine pinned) :=
    exists_assemble name pinned hprovider hentries hshaped (hbounded entries hentries)
  exact failsAs_run_lift hassemble s

theorem machine?_of_shapeFailure? {e : CompileError} (h : shapeFailure? name machine = some e) :
    e.machine? = some name := by
  rw [shapeFailure?] at h
  split at h <;> cases h
  rfl

theorem machine?_of_lintFailure? {e : CompileError}
    (h : lintFailure? context name definition = some e) : e.machine? = some name := by
  rw [lintFailure?] at h
  split at h <;> cases h
  rfl

theorem machine?_of_namesFailure? {counter : Counter} {e : CompileError}
    (h : namesFailure? counter name definition = some e) : e.machine? = some name := by
  rw [namesFailure?] at h
  split at h <;> cases h
  rfl

theorem machine?_of_versionFailure? {resources : Entries} {e : CompileError}
    (h : versionFailure? context resources name machine definition = some e) :
    e.machine? = some name := by
  rw [versionFailure?] at h
  split at h
  · obtain ⟨logicalId, -, rfl⟩ := Option.map_eq_some_iff.mp h
    rfl
  · cases h

theorem eq_some_or_of_orElse {α : Type} {a? b? : Option α} {a : α} (h : (a? <|> b?) = some a) :
    a? = some a ∨ b? = some a := by
  cases a? with
  | none => exact .inr h
  | some a' => exact .inl h

/-- The error of a check names the machine, but for the one of a text that cannot be read. -/
theorem machine?_of_checkFailure? {e : CompileError}
    (h : checkFailure? context name machine = some e) :
    e.machine? = some name ∨ ∃ definition, Machine.definition machine = .ok definition ∧
      readingFailure? context definition = some e := by
  rcases eq_some_or_of_orElse h with hshape | hcheck
  · exact .inl (machine?_of_shapeFailure? hshape)
  · split at hcheck
    · rename_i definition hdefinition
      rcases eq_some_or_of_orElse hcheck with hreading | hlint
      · exact .inr ⟨definition, hdefinition, hreading⟩
      · exact .inl (machine?_of_lintFailure? hlint)
    · cases hcheck

/-- Every error names the machine, but for the one of a text that cannot be read. -/
theorem machine?_of_failure? {resources : Entries} {counter : Counter} {e : CompileError}
    (h : failure? context resources counter name machine = some e) :
    e.machine? = some name ∨ ∃ definition, Machine.definition machine = .ok definition ∧
      readingFailure? context definition = some e := by
  rcases eq_some_or_of_orElse h with hcheck | hbuild
  · exact machine?_of_checkFailure? hcheck
  · rw [buildFailure?] at hbuild
    split at hbuild
    · rcases eq_some_or_of_orElse hbuild with hnames | hversions
      · exact .inl (machine?_of_namesFailure? hnames)
      · exact .inl (machine?_of_versionFailure? hversions)
    · cases hbuild

/-- How a compilation ends is known beforehand: it fails with the error that was foretold, and if
none was, it succeeds. A failed check leaves the session as it was. Every error names the machine,
but for that of a text which the linter cannot read. -/
theorem compile_decided {functions : List String} (hfunctions : context.functions = some functions)
    (hprovider : HasTags context.providerTags) {template : Entries}
    (hresources : template.MapsOrLacks "Resources")
    (hversions : Reference.HaveReadableVersions (template.under "Resources"))
    (hbounded : ∀ entries, machine.entries? = some entries → IsBounded entries)
    (htree : ∀ definition, Machine.definition machine = .ok definition → definition.isTree = true)
    (name : String) (counter : Counter) (log : List Log.Entry) :
    FailsAs (failure? context (template.under "Resources") counter name machine)
        ((compile context (.map template) name machine).run ⟨.counted counter, log⟩).1 ∧
      (checkFailure? context name machine ≠ none →
        ((compile context (.map template) name machine).run ⟨.counted counter, log⟩).2 =
          ⟨.counted counter, log⟩) ∧
      ∀ e s, (compile context (.map template) name machine).run ⟨.counted counter, log⟩ =
          (.error e, s) →
        e.machine? = some name ∨ ∃ definition, Machine.definition machine = .ok definition ∧
          readingFailure? context definition = some e := by
  have hchecks := run_checks context name
    (fun hshape : shapeReport machine = [] => exists_definition_of_shapeReport hshape)
    ⟨.counted counter, log⟩
  have hfails : FailsAs (failure? context (template.under "Resources") counter name machine)
      ((compile context (.map template) name machine).run ⟨.counted counter, log⟩).1 := by
    rw [compile_eq, failure?]
    cases hcheck : checkFailure? context name machine with
    | some e =>
      rw [hcheck] at hchecks
      rw [run_bind_of_error hchecks]
      rfl
    | none =>
      rw [hcheck] at hchecks
      obtain ⟨hshape, log', hrun⟩ := hchecks
      rw [run_bind_of_ok hrun]
      exact compileChecked_failsAs hfunctions hprovider hresources hversions hbounded htree hshape
        name counter log'
  refine ⟨hfails, fun hcheck => ?_, fun e s hrun => ?_⟩
  · obtain ⟨e, he⟩ := Option.ne_none_iff_exists'.mp hcheck
    rw [he] at hchecks
    rw [compile_eq, run_bind_of_error hchecks]
  · rw [hrun] at hfails
    exact machine?_of_failure? hfails.eq_some

/-- A definition with one task. -/
def oneTask : Value :=
  .object [("StartAt", .str "Greet"), ("States", .single "Greet" (.object
    [("Type", .str "Task"), ("Resource", .single "Fn::GetAtt" (.strings ["greeter", "Arn"])),
      ("End", .bool true)]))]

/-- A machine that asks for the exact version of a function. -/
def greeting : Value := .object [("definition", oneTask), ("useExactVersion", .bool true)]

/-- The resources of a template with the function and no version of it. -/
def greeterAlone : Entries :=
  [(.str "GreeterLambdaFunction", .single "Type" (.str Reference.functionType))]

def linting : Context where
  providerTags := .null
  functions := some ["greeter"]
  lints := true
  style := Json.twoBlanks

/-- The definition passes the linter and its name is there, but the function has no version. -/
theorem compile_decided_greeting :
    (HasTags linting.providerTags ∧
      Entries.MapsOrLacks [(.str "Resources", .map greeterAlone)] "Resources" ∧
      Reference.HaveReadableVersions greeterAlone ∧
      (∀ entries, greeting.entries? = some entries → IsBounded entries) ∧
      ∀ definition, Machine.definition greeting = .ok definition → definition.isTree = true) ∧
    ((compile linting (.map [(.str "Resources", .map greeterAlone)]) "greeting" greeting).run
      ⟨.counted (.create 10 Counter.defaultHead), []⟩).1 =
        .error (.unresolvedVersion "greeting" (.noVersion "GreeterLambdaFunction")) := by
  have hprovider : HasTags linting.providerTags := .inl rfl
  have hresources : Entries.MapsOrLacks [(.str "Resources", .map greeterAlone)] "Resources" := by
    intro v hv
    cases hv
    exact ⟨_, rfl⟩
  have hversions : Reference.HaveReadableVersions greeterAlone := by
    intro entry hentry htype
    rw [List.mem_singleton.mp hentry] at htype
    cases htype
  have hbounded : ∀ entries, greeting.entries? = some entries → IsBounded entries := by
    intro entries hentries key hkey v hfind
    cases hentries
    simp only [List.mem_cons, List.not_mem_nil, or_false] at hkey
    rcases hkey with rfl | rfl | rfl | rfl <;> cases hfind
  have htree : ∀ definition, Machine.definition greeting = .ok definition →
      definition.isTree = true := by
    intro definition hdefinition
    cases hdefinition
    rfl
  have hdecided := compile_decided rfl hprovider hresources hversions hbounded htree "greeting"
    (.create 10 Counter.defaultHead) []
  refine ⟨⟨hprovider, hresources, hversions, hbounded, htree⟩, ?_⟩
  have hshape : shapeReport greeting = [] := by decide +kernel
  have hlint : (Lint.findings oneTask).isEmpty = true := by decide +kernel
  have hcheck : checkFailure? linting "greeting" greeting = none := by
    rw [checkFailure?, shapeFailure?, if_pos hshape]
    change (readingFailure? linting oneTask <|> lintFailure? linting "greeting" oneTask) = none
    rw [lintFailure?, hlint]
    rfl
  have houtermost : Intrinsic.outermost oneTask =
      [.single "Fn::GetAtt" (.strings ["greeter", "Arn"])] := by decide +kernel
  have hunversioned : Reference.unversioned? greeterAlone (linting.resolve
      (.single "Fn::GetAtt" (.strings ["greeter", "Arn"]))) = some "GreeterLambdaFunction" := by
    decide +kernel
  have hbuild : buildFailure? linting greeterAlone (.create 10 Counter.defaultHead) "greeting"
      greeting = some (.unresolvedVersion "greeting" (.noVersion "GreeterLambdaFunction")) := by
    change (namesFailure? (.create 10 Counter.defaultHead) "greeting" oneTask <|>
      versionFailure? linting greeterAlone "greeting" greeting oneTask) = _
    have husesExact : usesExactVersions greeting = .ok true := by rfl
    rw [namesFailure?, versionFailure?, houtermost, if_neg (by decide +kernel), husesExact,
      List.map_singleton, List.findSome?_singleton, hunversioned]
    rfl
  have hfails := hdecided.1
  have hresources : Entries.under [(.str "Resources", .map greeterAlone)] "Resources" =
    greeterAlone := rfl
  rw [hresources, failure?, hcheck, hbuild] at hfails
  exact hfails

/-! ## Texts that cannot be read -/

/-- A block with nothing but a text. -/
def ofText (text : String) : Value := .object [("definition", .str text)]

theorem shapeReport_ofText (text : String) : shapeReport (ofText text) = [] :=
  (Schema.report_eq_nil_iff _ _ _).mpr rfl

/-- A definition that is an integer with too many digits is not reported, although it is a text of
the right shape: the reader fails before the linter can say anything. -/
theorem run_unreadable (hlints : context.lints = true) (template : Value) (name : String)
    {n : Nat} (hn : 10 ^ Text.mostDigits ≤ n) (s : Session) :
    (compile context template name (ofText (String.ofList (Nat.toDigits 10 n)))).run s =
      (.error (.misfit .endlessText), s) := by
  have hexcess : Lint.excess? (.str (String.ofList (Nat.toDigits 10 n))) = some .digits :=
    Json.excess?_toDigits hn
  have hdefinition : Machine.definition (ofText (String.ofList (Nat.toDigits 10 n))) =
      .ok (.str (String.ofList (Nat.toDigits 10 n))) := rfl
  have hcheck : checkFailure? context name (ofText (String.ofList (Nat.toDigits 10 n))) =
      some (.misfit .endlessText) := by
    rw [checkFailure?, shapeFailure?, if_pos (shapeReport_ofText _), hdefinition]
    dsimp only
    rw [readingFailure?, if_pos hlints, hexcess]
    rfl
  have hchecks := run_checks context name (fun _ => ⟨_, hdefinition⟩) s
  rw [hcheck] at hchecks
  rw [compile_eq, run_bind_of_error hchecks]

/-- The digits of the least integer that has too many of them. -/
def tooLong : String := String.ofList (Nat.toDigits 10 (10 ^ Text.mostDigits))

/-- The error for such a text names no machine and is none of the linter. -/
theorem compile_decided_tooLong : ∃ e s,
    (compile linting (.map []) "m" (ofText tooLong)).run
      ⟨.counted (.create 10 Counter.defaultHead), []⟩ = (.error e, s) ∧
    e.machine? = none ∧ ∀ details, e ≠ .invalidDefinition "m" details :=
  ⟨_, _, run_unreadable rfl _ _ (Nat.le_refl _) _, rfl, fun _ h => by cases h⟩

end Machine

end FlowTemplate
