import FlowTemplate.Load
import FlowTemplate.Proofs.Compile.Frame
import FlowTemplate.Proofs.Compile.Outcome
/-!
# What a failed pass leaves behind

A pass ends at the first machine that fails. The template then holds what the machines before it
have compiled to, and the error is one that an author is told about: it names the machine. Three
other errors come from data that nothing checks, which are a text beyond what the linter reads,
resources or versions among them that no version can be looked up in, and a role that holds itself.

All this takes a template whose sections are mappings. Where another value stands in the place of a
section, the pass compiles its first machine and cannot merge it; if it is the outputs that are none,
the resource of the machine has been merged by then and stays.
-/

namespace FlowTemplate

open FlowTemplate.Computation

namespace Machine

/-- What a compilation may fail with against a template. -/
inductive MayFailWith (context : Context) (template : Entries) (name : String) (machine : Value)
    (e : CompileError) : Prop
  /-- The author is told which machine it is. -/
  | named (h : e.machine? = some name)
  /-- The linter is given a text that cannot be read. -/
  | unreadText {definition : Value} (hdefinition : Machine.definition machine = .ok definition)
      (h : readingFailure? context definition = some e)
  /-- A version is looked for where the resources are no mapping. -/
  | unreadResources {m : Misfit} (he : e = .misfit m)
      (huses : usesExactVersions machine = .ok true) (h : ¬ template.MapsOrLacks "Resources")
  /-- A version is looked for where one has properties that are no mapping. -/
  | unreadVersions {m : Misfit} (he : e = .misfit m)
      (huses : usesExactVersions machine = .ok true)
      (h : ¬ Reference.HaveReadableVersions (template.under "Resources"))
  /-- A container holds itself where the block has the names and the role of the machine. -/
  | unbounded {entries : Entries} (hentries : machine.entries? = some entries)
      (h : ¬ IsBounded entries)

variable {context : Context} {name : String} {machine : Value}

/-- The errors are the same where versions are as readable. -/
theorem MayFailWith.of_readable {template template' : Entries} {e : CompileError}
    (h : MayFailWith context template' name machine e)
    (hresources : template.MapsOrLacks "Resources" → template'.MapsOrLacks "Resources")
    (hversions : Reference.HaveReadableVersions (template.under "Resources") →
      Reference.HaveReadableVersions (template'.under "Resources")) :
    MayFailWith context template name machine e := by
  cases h with
  | named h => exact .named h
  | unreadText hdefinition h => exact .unreadText hdefinition h
  | unreadResources he huses h => exact .unreadResources he huses fun hmaps => h (hresources hmaps)
  | unreadVersions he huses h =>
    exact .unreadVersions he huses fun hreadable => h (hversions hreadable)
  | unbounded hentries h => exact .unbounded hentries h

theorem failsOnly_lift {ε α : Type} {kind : CompileError → Prop} {encode : ε → CompileError}
    {result : Except ε α} (h : ∀ e, result = .error e → kind (encode e)) :
    FailsOnly kind (Compile.lift encode result) := by
  intro s e s' hrun
  cases result with
  | ok a => cases hrun
  | error e' =>
    cases hrun
    exact h e' rfl

/-- A check fails with an error that names the machine, or the linter is given a text that cannot
be read. -/
theorem failsOnly_checks (context : Context) (template : Entries) (name : String)
    (machine : Value) :
    FailsOnly (MayFailWith context template name machine) (checks context name machine) := by
  intro s e s' hrun
  have hchecks := run_checks context name
    (fun h : shapeReport machine = [] => exists_definition_of_shapeReport h) s
  cases hcheck : checkFailure? context name machine with
  | none =>
    rw [hcheck] at hchecks
    obtain ⟨-, log, hok⟩ := hchecks
    rw [hok] at hrun
    cases hrun
  | some e' =>
    rw [hcheck] at hchecks
    have herror : (checks context name machine).run s = (.error e', s) := hchecks
    rw [herror] at hrun
    cases hrun
    rcases machine?_of_checkFailure? hcheck with hnamed | ⟨definition, hdefinition, hreading⟩
    · exact .named hnamed
    · exact .unreadText hdefinition hreading

theorem shapeReport_of_checks {u : Unit} {s s' : Session}
    (h : (checks context name machine).run s = (.ok u, s')) : shapeReport machine = [] := by
  have hchecks := run_checks context name
    (fun h : shapeReport machine = [] => exists_definition_of_shapeReport h) s
  split at hchecks
  · rw [hchecks] at h
    cases h
  · exact hchecks.1

/-- Of a tree a definition string fails only when there is no further name for a placeholder. -/
theorem failsOnly_definitionString (context : Context) (template : Entries) (name : String)
    {definition : Value} (hdefinition : Machine.definition machine = .ok definition)
    (htree : definition.isTree = true)
    (hform : (∃ text, definition = .str text) ∨ ∃ entries, definition = .map entries) :
    FailsOnly (MayFailWith context template name machine)
      (definitionString context name machine) := by
  intro s e s' hrun
  rw [definitionString, hdefinition, run_bind_of_ok (run_lift_ok _ definition _)] at hrun
  simp only [Value.hasNumbers_of_isTree htree, Bool.false_eq_true, if_false] at hrun
  rcases hform with ⟨text, rfl⟩ | ⟨entries, rfl⟩
  · cases hrun
  · have hbuild := DefinitionString.run_build_tree context.style Session.nextToken context.resolve
      htree s
    rcases hdraws : (Intrinsic.draws Session.nextToken
      (Intrinsic.outermost (.map entries)).length).run s with ⟨cause | names, s₁⟩
    · rw [hdraws] at hbuild
      rw [run_bind, run_adapt, hbuild] at hrun
      cases hrun
      exact .named rfl
    · rw [hdraws] at hbuild
      rw [run_bind, run_adapt, hbuild] at hrun
      dsimp only at hrun
      split at hrun <;> cases hrun

/-- Where the versions can be read, a parameter that cannot be pinned is a function without one. -/
theorem mayFailWith_of_pinned {functions : List String}
    (hfunctions : context.functions = some functions) {template entries : Entries}
    (hentries : machine.entries? = some entries) (name : String) {built : DefinitionString}
    {e : CompileError} (h : pinned context (.map template) name machine built = .error e) :
    MayFailWith context template name machine e := by
  have huses := usesExactVersions_eq hentries
  rw [pinned, huses] at h
  by_cases hexact : (entries.find? "useExactVersion" == some (.bool true)) = true
  · rw [hexact] at huses h
    have h : (built.mapParameters (context.pin (.map template))).mapError (pinError name) =
        .error e := h
    obtain ⟨cause, -, rfl⟩ := exists_of_mapError h
    cases cause with
    | noVersion logicalId => exact .named rfl
    | noResolver v => exact .named rfl
    | misfit m =>
      by_cases hresources : template.MapsOrLacks "Resources"
      · refine .unreadVersions rfl huses fun hversions => ?_
        have hparameters := mapParameters_pin hfunctions hresources hversions name built
        rw [h] at hparameters
        obtain ⟨logicalId, -, hmisfit⟩ := Option.map_eq_some_iff.mp hparameters.eq_some
        cases hmisfit
      · exact .unreadResources rfl huses hresources
  · rw [Bool.eq_false_iff.mpr hexact] at h
    cases h

/-- Whatever the source of names, a compilation fails with an error that names the machine, or some
data was never checked. -/
theorem failsOnly_compile {functions : List String}
    (hfunctions : context.functions = some functions) (hprovider : HasTags context.providerTags)
    (htree : ∀ definition, Machine.definition machine = .ok definition → definition.isTree = true)
    (template : Entries) (name : String) :
    FailsOnly (MayFailWith context template name machine)
      (compile context (.map template) name machine) := by
  rw [compile_eq]
  refine (failsOnly_checks context _ name machine).bind fun _ s s' hrun => ?_
  obtain ⟨entries, hentries, hshaped⟩ := wellShaped_of_shapeReport (shapeReport_of_checks hrun)
  obtain ⟨definition, hdefinition, hform⟩ := definition_of_wellShaped hentries hshaped
  have htree := htree definition hdefinition
  have hform := form_of_isTree htree hform
  refine (failsOnly_definitionString context _ name hdefinition htree hform).bind
    fun built _ _ _ => ?_
  refine (failsOnly_lift fun e h =>
    mayFailWith_of_pinned hfunctions hentries name h).bind fun pinned _ _ _ => ?_
  refine failsOnly_lift fun e h => ?_
  by_cases hbounded : IsBounded entries
  · obtain ⟨compiled, hcompiled⟩ := exists_assemble name pinned hprovider hentries hshaped hbounded
    rw [hcompiled] at h
    cases h
  · exact .unbounded hentries hbounded

end Machine

namespace Pass

variable {context : Context} {template filled : Entries} {session final : Session}
  {machines : List (Atom × Value)} {compiled : List CompiledMachine}

/-- Machines that are merged into a template leave its versions readable. -/
theorem Compiles.haveReadableVersions
    (h : Compiles context template session machines compiled filled final)
    (hversions : Reference.HaveReadableVersions (template.under "Resources")) :
    Reference.HaveReadableVersions (filled.under "Resources") := by
  induction h with
  | nil => exact hversions
  | @cons template _ _ _ _ _ _ m _ _ _ _ ih =>
    refine ih ?_
    rw [resources_withMachine]
    exact hversions.insert (hasType_mergeInto_resource (by decide) _ _)

theorem Compiles.hasSections
    (h : Compiles context template session machines compiled filled final)
    (hsections : HasSections template) : HasSections filled := by
  rw [h.eq_foldl]
  exact hasSections_foldl hsections compiled

/-! ## Sections that are no mappings -/

/-- Nothing is merged into a value that is no mapping. -/
theorem mergeUnder_eq_error {key : String} {v : Value} (hfind : template.find? key = some v)
    (hv : v.entries? = none) (entry : Atom × Value) :
    mergeUnder key (.map [entry]) template = .error .noEntries := by
  have hentries : v.entries = .error .noEntries := by
    rw [Value.entries?] at hv
    rw [Value.entries]
    cases hbare : v.bare with
    | map entries => simp [hbare] at hv
    | _ => rfl
  have hmerge : v.merge (.map [entry]) = .error .noEntries := by
    change (v.entries >>= _) = _
    rw [hentries]
    rfl
  rw [mergeUnder, hfind, Option.getD_some, hmerge]
  rfl

/-- A section that is there and no mapping stays as it is. -/
theorem exists_of_not_mapsOrLacks (hunshared : (Value.map template).hasNumbers = false)
    {key : String} (hkey : key = "Resources" ∨ key = "Outputs") (h : ¬ template.MapsOrLacks key) :
    ∃ v, (withSections template).find? key = some v ∧ v.entries? = none := by
  rw [Entries.MapsOrLacks] at h
  push Not at h
  obtain ⟨v, hfind, hmap⟩ := h
  refine ⟨v, ?_, ?_⟩
  · rw [find?_withSections, if_pos hkey, hfind]
    rfl
  · cases hentries : v.entries? with
    | none => rfl
    | some found =>
      exact absurd (Value.eq_map_of_entries? (Value.hasNumbers_of_find? hunshared hfind) hentries)
        (hmap found)

section

variable {key : Atom} {machine : Value} {m : CompiledMachine} {s : Session}

/-- Where the resources are no mapping, the first machine that compiles is not merged. -/
theorem run_addMachines_of_no_resources (hunshared : (Value.map template).hasNumbers = false)
    (h : ¬ template.MapsOrLacks "Resources") (rest : List (Atom × Value))
    (hrun : (Machine.compile context (.map (withSections template)) (Literal.displayAtom key)
      machine).run session = (.ok m, s)) :
    (addMachines context ((key, machine) :: rest)).run (withSections template, session) =
      (.error (.misfit .noEntries), (withSections template, s)) := by
  obtain ⟨v, hfind, hv⟩ := exists_of_not_mapsOrLacks hunshared (.inl rfl) h
  have hmerge : (change (mergeUnder "Resources" m.resources)).run (withSections template, s) =
      (.error (.misfit .noEntries), (withSections template, s)) :=
    run_change_error (mergeUnder_eq_error hfind hv _) s
  rw [addMachines, run_bind, addMachine, run_bind_of_ok (run_inSession hrun),
    run_bind_of_error hmerge]

/-- Where the outputs are no mapping, the first machine that compiles leaves its resource behind. -/
theorem run_addMachines_of_no_outputs (hunshared : (Value.map template).hasNumbers = false)
    (hresources : template.MapsOrLacks "Resources") (h : ¬ template.MapsOrLacks "Outputs")
    (rest : List (Atom × Value))
    (hrun : (Machine.compile context (.map (withSections template)) (Literal.displayAtom key)
      machine).run session = (.ok m, s)) :
    (addMachines context ((key, machine) :: rest)).run (withSections template, session) =
      (.error (.misfit .noEntries), (mergedUnder "Resources"
        [(.str m.logicalId, m.resource.toTemplate)] (withSections template), s)) := by
  obtain ⟨resources, hfound⟩ := exists_section (.inl rfl) hresources
  have hfirst := run_change (mergeUnder "Resources" m.resources) (mergeUnder_eq hfound _) s
  obtain ⟨v, hfind, hv⟩ := exists_of_not_mapsOrLacks hunshared (.inr rfl) h
  have hstays : (mergedUnder "Resources" [(.str m.logicalId, m.resource.toTemplate)]
      (withSections template)).find? "Outputs" = some v := by
    rw [find?_mergedUnder, if_neg (by decide), hfind]
  have hsecond : (change (mergeUnder "Outputs" m.outputs)).run (mergedUnder "Resources"
      [(.str m.logicalId, m.resource.toTemplate)] (withSections template), s) =
      (.error (.misfit .noEntries), _) :=
    run_change_error (mergeUnder_eq_error hstays hv _) s
  rw [addMachines, run_bind, addMachine, run_bind_of_ok (run_inSession hrun),
    run_bind_of_ok hfirst, run_bind_of_error hsecond]

end

/-! ## Passes -/

/-- How a pass over machines ends, and what it leaves, when some of the machines have been done, which
have filled the template and come to a session. -/
inductive Ends (context : Context) (template : Entries) (machines done : List (Atom × Value))
    (filled : Entries) (final : Session) : Except CompileError Unit → Entries → Prop
  /-- There is no further machine. -/
  | success (h : done = machines) : Ends context template machines done filled final (.ok ()) filled
  /-- The next machine does not compile, and nothing of it is merged. -/
  | failure {key : Atom} {machine : Value} {rest : List (Atom × Value)} {e : CompileError}
      {s : Session} (hnext : machines = done ++ (key, machine) :: rest)
      (hrun : (Machine.compile context (.map filled) (Literal.displayAtom key) machine).run final =
        (.error e, s))
      (h : Machine.MayFailWith context template (Literal.displayAtom key) machine e) :
      Ends context template machines done filled final (.error e) filled
  /-- The first machine compiles, and nothing can be merged into the resources. -/
  | noResources {key : Atom} {machine : Value} {rest : List (Atom × Value)} {m : CompiledMachine}
      {s : Session} (hdone : done = []) (hfirst : machines = (key, machine) :: rest)
      (hrun : (Machine.compile context (.map filled) (Literal.displayAtom key) machine).run final =
        (.ok m, s))
      (h : ¬ template.MapsOrLacks "Resources") :
      Ends context template machines done filled final (.error (.misfit .noEntries)) filled
  /-- The first machine compiles, and of what it yields only the resource can be merged. -/
  | noOutputs {key : Atom} {machine : Value} {rest : List (Atom × Value)} {m : CompiledMachine}
      {s : Session} (hdone : done = []) (hfirst : machines = (key, machine) :: rest)
      (hrun : (Machine.compile context (.map filled) (Literal.displayAtom key) machine).run final =
        (.ok m, s))
      (hresources : template.MapsOrLacks "Resources") (h : ¬ template.MapsOrLacks "Outputs") :
      Ends context template machines done filled final (.error (.misfit .noEntries))
        (mergedUnder "Resources" [(.str m.logicalId, m.resource.toTemplate)] filled)

section

variable {functions : List String} (hfunctions : context.functions = some functions)
  (hprovider : Machine.HasTags context.providerTags)
  (htrees : ∀ key machine definition, (key, machine) ∈ machines →
    Machine.definition machine = .ok definition → definition.isTree = true)
include hfunctions hprovider htrees

/-- Where both sections are mappings, nothing is merged of the machine that a pass ends at. -/
theorem ends_of_mapsOrLacks (hresources : template.MapsOrLacks "Resources")
    (houtputs : template.MapsOrLacks "Outputs") (session : Session) :
    ∃ done compiled filled final,
      Compiles context (withSections template) session done compiled filled final ∧
      Ends context template machines done filled final
        ((addMachines context machines).run (withSections template, session)).1
        ((addMachines context machines).run (withSections template, session)).2.1 := by
  have hsections := hasSections_withSections hresources houtputs
  obtain ⟨done, compiled, filled, final, hcompiles, hends, hfilled⟩ :=
    exists_compiles context machines hsections session
  refine ⟨done, compiled, filled, final, hcompiles, ?_⟩
  rw [hfilled]
  generalize ((addMachines context machines).run (withSections template, session)).1 = result
    at hends
  cases result with
  | ok u => exact .success hends
  | error e =>
    obtain ⟨key, machine, rest, s, hnext, hrun⟩ := hends
    have hmem : (key, machine) ∈ machines := hnext ▸ List.mem_append_right done List.mem_cons_self
    have hfails := Machine.failsOnly_compile hfunctions hprovider
      (fun definition => htrees key machine definition hmem) filled (Literal.displayAtom key)
      final e s hrun
    refine .failure hnext hrun (hfails.of_readable (fun _ => ?_) fun hversions => ?_)
    · exact (hcompiles.hasSections hsections).mapsOrLacks
    · refine hcompiles.haveReadableVersions ?_
      rw [under_withSections]
      exact hversions

/-- Where a section is no mapping, a pass ends at its first machine. -/
theorem ends_of_not_mapsOrLacks (hunshared : (Value.map template).hasNumbers = false)
    (h : ¬ (template.MapsOrLacks "Resources" ∧ template.MapsOrLacks "Outputs"))
    (session : Session) :
    Ends context template machines [] (withSections template) session
      ((addMachines context machines).run (withSections template, session)).1
      ((addMachines context machines).run (withSections template, session)).2.1 := by
  cases machines with
  | nil => exact .success rfl
  | cons entry rest =>
    obtain ⟨key, machine⟩ := entry
    rcases hrun : (Machine.compile context (.map (withSections template))
      (Literal.displayAtom key) machine).run session with ⟨e | m, s⟩
    · have hstep : (addMachines context ((key, machine) :: rest)).run
          (withSections template, session) = (.error e, (withSections template, s)) := by
        rw [addMachines, run_bind, addMachine, run_bind_of_error (run_inSession hrun)]
      have hfails := Machine.failsOnly_compile hfunctions hprovider
        (fun definition => htrees key machine definition List.mem_cons_self)
        (withSections template) (Literal.displayAtom key) session e s hrun
      rw [hstep]
      refine .failure rfl hrun (hfails.of_readable (fun hresources v hv => ?_) fun hversions => ?_)
      · obtain ⟨found, hfound⟩ := exists_section (.inl rfl) hresources
        exact ⟨found, Option.some.inj (hv.symm.trans hfound)⟩
      · rw [under_withSections]
        exact hversions
    · by_cases hresources : template.MapsOrLacks "Resources"
      · have houtputs : ¬ template.MapsOrLacks "Outputs" := fun houtputs => h ⟨hresources, houtputs⟩
        rw [run_addMachines_of_no_outputs hunshared hresources houtputs rest hrun]
        exact .noOutputs rfl rfl hrun hresources houtputs
      · rw [run_addMachines_of_no_resources hunshared hresources rest hrun]
        exact .noResources rfl rfl hrun hresources

end

/-- The error that a pass ends with. -/
def Outcome.error? (outcome : Outcome) : Option CompileError :=
  match outcome.result with
  | .ok () => none
  | .error e => some e

theorem Outcome.error?_eq_some_iff {outcome : Outcome} {e : CompileError} :
    outcome.error? = some e ↔ outcome.result = .error e := by
  rw [error?]
  cases outcome.result <;> simp

end Pass

namespace Service

/-- Compiling the machines of a service comes to its end or to a machine that does not compile, and
the template is left with what the machines before have compiled to. Only where no mapping stands for
a section it is not the compilation of a machine that fails but the merge. -/
theorem ends_of_compile (service : Service) (settings : Settings) (lints : Option Bool)
    (tokens : TokenSource) {template : Entries}
    (hunshared : (Value.map template).hasNumbers = false)
    (htrees : ∀ name machine definition, (name, machine) ∈ service.machines →
      Machine.definition machine = .ok definition → definition.isTree = true) :
    let context := service.context settings lints
    let machines := service.machines.map fun (name, machine) => (Atom.str name, machine)
    let outcome := service.compile context tokens (.map template)
    ∃ done compiled filled final left,
      Pass.Compiles context (Pass.withSections template) (Session.start tokens) done compiled
        filled final ∧
      outcome.template = .map left ∧
      Pass.Ends context template machines done filled final outcome.result left := by
  intro context machines outcome
  have houtcome : outcome = Pass.run context tokens (.map machines) (.map template) := by
    change service.compile context tokens (.map template) = _
    rw [Service.compile, hunshared]
    rfl
  have htrees : ∀ key machine definition, (key, machine) ∈ machines →
      Machine.definition machine = .ok definition → definition.isTree = true := by
    intro key machine definition hmem hdefinition
    obtain ⟨⟨name, machine'⟩, hmem, heq⟩ := List.mem_map.mp hmem
    cases heq
    exact htrees name machine definition hmem hdefinition
  have hprovider : Machine.HasTags context.providerTags := .inr ⟨_, rfl⟩
  rw [houtcome]
  by_cases hsections : template.MapsOrLacks "Resources" ∧ template.MapsOrLacks "Outputs"
  · obtain ⟨done, compiled, filled, final, hcompiles, hends⟩ := Pass.ends_of_mapsOrLacks rfl
      hprovider htrees hsections.1 hsections.2 (Session.start tokens)
    exact ⟨done, compiled, filled, final, _, hcompiles, rfl, hends⟩
  · exact ⟨[], [], _, _, _, .nil, rfl, Pass.ends_of_not_mapsOrLacks rfl hprovider htrees hunshared
      hsections (Session.start tokens)⟩

/-- A service whose second machine has no definition, and a template with a resource. -/
theorem ends_of_compile_broken :
    let flow : Value := .single "definition" (.single "Ref" (.str "hello"))
    let service : Service :=
      { name := .str "shop"
        tags := [("team", .str "orders")]
        functions := [("hello", .map [])]
        machines := [("flow", flow), ("broken", .map [])]
        lints := none }
    let template : Entries :=
      [(.str "Resources", .single "Topic" (.single "Type" (.str "AWS::SNS::Topic")))]
    let machines := service.machines.map fun (name, machine) => (Atom.str name, machine)
    let outcome := service.compile (service.context {} none)
      (.counted (.create 10 Counter.defaultHead)) (.map template)
    ((Value.map template).hasNumbers = false ∧
      ∀ name machine definition, (name, machine) ∈ service.machines →
        Machine.definition machine = .ok definition → definition.isTree = true) ∧
    ∃ done compiled filled final e,
      Pass.Compiles (service.context {} none) (Pass.withSections template)
        (Session.start (.counted (.create 10 Counter.defaultHead))) done compiled filled final ∧
      outcome.template = .map filled ∧ done <+: machines ∧ done ≠ machines ∧
      outcome.result = .error e ∧ e.machine? = some "broken" := by
  intro flow service template machines outcome
  have hunshared : (Value.map template).hasNumbers = false := rfl
  have htrees : ∀ name machine definition, (name, machine) ∈ service.machines →
      Machine.definition machine = .ok definition → definition.isTree = true := by
    intro name machine definition hmem hdefinition
    simp only [service, List.mem_cons, List.not_mem_nil, or_false, Prod.mk.injEq] at hmem
    rcases hmem with ⟨rfl, rfl⟩ | ⟨rfl, rfl⟩ <;> cases hdefinition
    rfl
  refine ⟨⟨hunshared, htrees⟩, ?_⟩
  obtain ⟨done, compiled, filled, final, left, hcompiles, htemplate, hends⟩ :=
    ends_of_compile service {} none (.counted (.create 10 Counter.defaultHead)) hunshared htrees
  have hbroken : outcome.error?.bind CompileError.machine? = some "broken" := by decide +kernel
  obtain ⟨e, herror, hnamed⟩ := Option.bind_eq_some_iff.mp hbroken
  have hresult := Pass.Outcome.error?_eq_some_iff.mp herror
  change Pass.Ends _ _ machines done _ _ outcome.result left at hends
  rw [hresult] at hends
  cases hends with
  | noResources => cases hnamed
  | noOutputs => cases hnamed
  | @failure key machine rest e s hnext =>
    refine ⟨done, compiled, filled, final, e, hcompiles, htemplate, ⟨_, hnext.symm⟩, ?_, hresult,
      hnamed⟩
    intro hdone
    have hlength := congrArg List.length (hdone.trans hnext)
    simp at hlength

/-- The outputs are null. The resource of the machine is in the template, and the error names no
machine. -/
theorem ends_of_compile_null :
    let service : Service :=
      { name := .null
        tags := []
        functions := []
        machines := [("flow", .single "definition" (.str "A"))]
        lints := none }
    let template : Entries := [(.str "Outputs", .null)]
    let path := ["Resources", "FlowStepFunctionsStateMachine"].map Atom.str
    let outcome := service.compile (service.context {} none)
      (.counted (.create 10 Counter.defaultHead)) (.map template)
    (∃ e, outcome.result = .error e ∧ e.machine? = none) ∧
      (Value.map template).at? path = none ∧
      ∃ resource, outcome.template.at? path = some resource := by
  intro service template path outcome
  have hnameless : outcome.error?.map CompileError.machine? = some none := by decide +kernel
  obtain ⟨e, herror, hnone⟩ := Option.map_eq_some_iff.mp hnameless
  exact ⟨⟨e, Pass.Outcome.error?_eq_some_iff.mp herror, hnone⟩, rfl,
    Option.isSome_iff_exists.mp (by decide +kernel)⟩

end Service

end FlowTemplate
