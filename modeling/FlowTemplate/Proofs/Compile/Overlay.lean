import FlowTemplate.Proofs.Compile.Frame
/-!
# What a machine puts over an old entry

The resource and the output of a machine are merged into what stands under its IDs already, left by
an earlier pass or written by hand. The type, the dependencies, the tags and the name stand as they
were compiled, whatever was there. The definition, the role and the address are mappings as often as
texts, and a merge does not know that an intrinsic is one value: where an old mapping stands, the new
one is merged into it, and old keys stay beside the new ones. So an entry may end up with a role made
of two intrinsics, as the last theorem shows.
-/

namespace FlowTemplate

open FlowTemplate.Computation

namespace Value

variable {source inner : Entries} {k l : Atom} {v : Value}

/-- A value that is alone under its key meets what stands under it. -/
theorem at?_mergeInto_single (h : valuesUnder k source = [v]) (found : Option Value) :
    (mergeInto found (.map source)).at? [k] = some (mergeInto (found.bind fun w => w.at? [k]) v) := by
  rw [at?_mergeInto_cons h, at?_nil]

theorem at?_mergeInto_pair (h : valuesUnder k source = [.map inner])
    (hinner : valuesUnder l inner = [v]) (found : Option Value) :
    (mergeInto found (.map source)).at? [k, l] =
      some (mergeInto (found.bind fun w => w.at? [k, l]) v) := by
  have hpath : (found.bind fun w => w.at? [k]).bind (fun w => w.at? [l]) =
      found.bind fun w => w.at? [k, l] := by
    rw [Option.bind_assoc]
    exact congrArg _ (funext fun w => (at?_cons w k [l]).symm)
  rw [at?_mergeInto_cons h, at?_mergeInto_single hinner, hpath]

end Value

namespace Pass

/-- The path to a property of a resource. -/
def property (key : String) : List Atom := [.str "Properties", .str key]

/-- A resource has come over what stood under its logical ID. -/
structure ResourceOver (old : Option Value) (r : MachineResource) (result : Value) : Prop where
  type : result.at? [.str "Type"] = some (.str MachineResource.resourceType)
  dependsOn : result.at? [.str "DependsOn"] = some (.strings r.dependsOn)
  tags : result.at? (property "Tags") = some (.list (r.properties.tags.map Tag.toValue))
  name : ∀ name, r.properties.name = some name →
    result.at? (property "StateMachineName") = some (.str name)
  definition : ∃ v, result.at? (property "DefinitionString") = some v ∧
    Value.Overlaid (old.bind fun w => w.at? (property "DefinitionString"))
      r.properties.definition.toValue v
  role : ∃ v, result.at? (property "RoleArn") = some v ∧
    Value.Overlaid (old.bind fun w => w.at? (property "RoleArn")) r.properties.role.toValue v
  others : ∀ path, r.toTemplate.touches path = false →
    result.at? path = old.bind fun w => w.at? path

/-- An output has come over what stood under its ID. -/
structure OutputOver (old : Option Value) (o : MachineOutput) (result : Value) : Prop where
  description : result.at? [.str "Description"] = some (.str o.description)
  value : ∃ v, result.at? [.str "Value"] = some v ∧
    Value.Overlaid (old.bind fun w => w.at? [.str "Value"])
      (.object (o.value.map fun (k, s) => (k, .str s))) v
  others : ∀ path, o.toTemplate.touches path = false →
    result.at? path = old.bind fun w => w.at? path

/-- A property that is written once meets the property that stands there. -/
theorem at?_property {r : MachineResource} {key : String} {v : Value}
    (h : Value.valuesUnder (.str key) r.properties.toTemplate.ownEntries = [v])
    (old : Option Value) : (Value.mergeInto old r.toTemplate).at? (property key) =
      some (Value.mergeInto (old.bind fun w => w.at? (property key)) v) :=
  Value.at?_mergeInto_pair rfl h old

theorem mergeInto_list (old : Option Value) (items : List Value) :
    Value.mergeInto old (.list items) = .list items :=
  Value.mergeInto_of_not_map (fun entries h => by cases h) old

theorem resourceOver_mergeInto (old : Option Value) (r : MachineResource) :
    ResourceOver old r (Value.mergeInto old r.toTemplate) := by
  obtain ⟨⟨definition, role, tags, name⟩, dependsOn⟩ := r
  constructor
  case type =>
    refine (Value.at?_mergeInto_single ?_ old).trans
      (congrArg some (Value.mergeInto_atom _ (.str MachineResource.resourceType)))
    rfl
  case dependsOn =>
    refine (Value.at?_mergeInto_single ?_ old).trans
      (congrArg some (mergeInto_list _ (dependsOn.map .str)))
    rfl
  case tags =>
    refine (at?_property ?_ old).trans
      (congrArg some (mergeInto_list _ (tags.map Tag.toValue)))
    cases name <;> rfl
  case name =>
    rintro given rfl
    refine (at?_property ?_ old).trans (congrArg some (Value.mergeInto_atom _ (.str given)))
    rfl
  case definition =>
    refine ⟨_, at?_property ?_ old, Value.overlaid_mergeInto _ _⟩
    cases name <;> rfl
  case role =>
    refine ⟨_, at?_property ?_ old, Value.overlaid_mergeInto _ _⟩
    cases name <;> rfl
  case others => exact fun path huntouched => Value.at?_mergeInto_of_untouched huntouched old

theorem outputOver_mergeInto (old : Option Value) (o : MachineOutput) :
    OutputOver old o (Value.mergeInto old o.toTemplate) := by
  constructor
  case description =>
    refine (Value.at?_mergeInto_single ?_ old).trans
      (congrArg some (Value.mergeInto_atom _ (.str o.description)))
    rfl
  case value =>
    refine ⟨_, Value.at?_mergeInto_single ?_ old, Value.overlaid_mergeInto _ _⟩
    rfl
  case others => exact fun path huntouched => Value.at?_mergeInto_of_untouched huntouched old

/-- The machine that comes last under a key decides what its value meets. -/
theorem find?_added_last (key : CompiledMachine → String) (value : CompiledMachine → Value)
    {m : CompiledMachine} {later : List CompiledMachine}
    (hlater : ∀ other ∈ later, key other ≠ key m) (target : Entries) :
    (Value.mergeEntries target (added key value (m :: later))).find? (key m) =
      some (Value.mergeInto (target.find? (key m)) (value m)) := by
  have hnone : Value.valuesUnder (.str (key m)) (added key value later) = [] := by
    refine Value.valuesUnder_of_notMem fun hmem => ?_
    rw [keys_added] at hmem
    obtain ⟨s, hs, hsame⟩ := List.mem_map.mp hmem
    obtain ⟨other, hother, rfl⟩ := List.mem_map.mp hs
    exact hlater other hother (Atom.str.inj hsame)
  have hunder : Value.valuesUnder (.str (key m)) (added key value (m :: later)) = [value m] := by
    have hcons : Value.valuesUnder (.str (key m)) (added key value (m :: later)) =
        value m :: Value.valuesUnder (.str (key m)) (added key value later) := by
      simp [Value.valuesUnder, added, Atom.sameKey_str]
    rw [hcons, hnone]
  rw [Entries.find?, Entries.find?, Value.get?_mergeEntries, hunder]
  rfl

/-- After a pass, whether it succeeds or fails on the way, the resource and the output of a compiled
machine have come over what stood under its IDs when it was merged, if no later machine has its
logical ID. -/
theorem overlaid_of_run (context : Context) (tokens : TokenSource)
    (machines : List (Atom × Value)) {template : Entries}
    (hresources : template.MapsOrLacks "Resources") (houtputs : template.MapsOrLacks "Outputs") :
    ∃ done compiled filled final,
      Compiles context (withSections template) (Session.start tokens) done compiled filled final ∧
      EndsAfter context machines done filled final
        (run context tokens (.map machines) (.map template)).result ∧
      (run context tokens (.map machines) (.map template)).template = .map filled ∧
      ∀ before m later, compiled = before ++ m :: later →
        (∀ other ∈ later, other.logicalId ≠ m.logicalId) →
        let standing := before.foldl withMachine (withSections template)
        ∃ resource output, (filled.under "Resources").find? m.logicalId = some resource ∧
          (filled.under "Outputs").find? (m.logicalId ++ "Arn") = some output ∧
          ResourceOver ((standing.under "Resources").find? m.logicalId) m.resource resource ∧
          OutputOver ((standing.under "Outputs").find? (m.logicalId ++ "Arn"))
            ⟨MachineOutput.defaultDescription, [("Ref", m.logicalId)]⟩ output := by
  obtain ⟨done, compiled, filled, final, hcompiles, hends, htemplate⟩ :=
    exists_compiles_of_run context tokens machines hresources houtputs
  refine ⟨done, compiled, filled, final, hcompiles, hends, htemplate, ?_⟩
  rintro before m later rfl hlater standing
  have houtput : ∀ other ∈ before ++ m :: later, other.outputId = other.logicalId ++ "Arn" :=
    fun other hother => (hcompiles.ids other hother).1
  have hm : m ∈ before ++ m :: later := List.mem_append_right before List.mem_cons_self
  have hlaterOutputs : ∀ other ∈ later, other.outputId ≠ m.outputId := by
    intro other hother heq
    rw [houtput other (List.mem_append_right before (List.mem_cons_of_mem m hother)),
      houtput m hm] at heq
    exact hlater other hother (append_arn_injective _ _ heq)
  have hadded : m.output = ⟨MachineOutput.defaultDescription, [("Ref", m.logicalId)]⟩ := by
    obtain ⟨_, _, _, _, _, -, hrun⟩ := hcompiles.exists_run m hm
    obtain ⟨_, _, hassembled⟩ := Machine.assembled_of_compile hrun
    exact hassembled.output
  have hfilled : filled = (m :: later).foldl withMachine standing := by
    rw [hcompiles.eq_foldl, List.foldl_append]
  have hresource := find?_added_last (·.logicalId) (·.resource.toTemplate) hlater
    (standing.under "Resources")
  have hvalue := find?_added_last (·.outputId) (·.output.toTemplate) hlaterOutputs
    (standing.under "Outputs")
  rw [← resources_foldl, ← hfilled] at hresource
  rw [← outputs_foldl, ← hfilled, houtput m hm, hadded] at hvalue
  exact ⟨_, _, hresource, hvalue, resourceOver_mergeInto _ _, outputOver_mergeInto _ _⟩

/-- A machine with a name over an entry that was written by hand. -/
theorem overlaid_of_run_named :
    let context : Context :=
      { providerTags := .map []
        functions := some []
        lints := false
        style := Json.oneLine }
    let tokens : TokenSource := .counted (.create 10 Counter.defaultHead)
    let machine : Value := .object [("definition", .str "A"), ("name", .str "mine")]
    let template : Entries :=
      [(.str "Resources", .single "Mine" (.object [("Type", .str "Old"),
        ("Properties", .object [("DefinitionString", .single "Ref" (.str "Text")),
          ("Kind", .str "EXPRESS")])]))]
    let outcome := run context tokens (.map [(.str "flow", machine)]) (.map template)
    ∃ (filled : Entries) (resource : Value),
      outcome.result = .ok () ∧ outcome.template = .map filled ∧
      (filled.under "Resources").find? "Mine" = some resource ∧
      resource.at? [.str "Type"] = some (.str MachineResource.resourceType) ∧
      resource.at? (property "StateMachineName") = some (.str "mine") ∧
      resource.at? (property "Kind") = some (.str "EXPRESS") := by
  intro context tokens machine template outcome
  have hresources : template.MapsOrLacks "Resources" := fun v hv => ⟨_, (Option.some.inj hv).symm⟩
  have houtputs : template.MapsOrLacks "Outputs" := fun v hv => by cases hv
  obtain ⟨done, compiled, filled, final, hcompiles, hends, htemplate, hover⟩ :=
    overlaid_of_run context tokens [(.str "flow", machine)] hresources houtputs
  have hok : outcome.result = .ok () := eq_ok_of_isOk (by decide +kernel)
  obtain rfl : done = [(.str "flow", machine)] := by
    rw [show (run context tokens (.map [(.str "flow", machine)]) (.map template)).result =
      .ok () from hok] at hends
    exact hends
  obtain ⟨m, s, rest, rfl, hrun, hrest⟩ := hcompiles.exists_cons
  cases hrest
  have hid : m.logicalId = "Mine" :=
    Except.ok.inj ((Machine.logicalId_of_compile hrun).symm.trans (by decide +kernel))
  have hcompiled : okWith (fun m : CompiledMachine => decide (
      m.resource.properties.name = some "mine" ∧
        m.resource.toTemplate.touches (property "Kind") = false))
      ((Machine.compile context (.map (withSections template))
        (Literal.displayAtom (.str "flow")) machine).run (Session.start tokens)).1 = true := by
    decide +kernel
  rw [hrun] at hcompiled
  obtain ⟨hname, hkind⟩ := of_decide_eq_true hcompiled
  obtain ⟨resource, -, hresource, -, hstands, -⟩ :=
    hover [] m [] rfl fun other h => absurd h List.not_mem_nil
  rw [hid] at hresource hstands
  exact ⟨_, resource, hok, htemplate, hresource, hstands.type, hstands.name "mine" hname,
    hstands.others _ hkind⟩

/-- An intrinsic that was the role stays beside the new one. And of two machines whose entries are
one container the first has the definition of the second. -/
theorem overlaid_of_run_mixed :
    let context : Context :=
      { providerTags := .map []
        functions := some []
        lints := false
        style := Json.oneLine }
    let counter := Counter.create 10 Counter.defaultHead
    let machines : List (Atom × Value) :=
      [(.str "flow", .single "definition" (.str "A")), (.str "next", .single "definition" (.str "B"))]
    let template : Entries :=
      [(.str "Resources", .single "FlowStepFunctionsStateMachine"
        (.single "Properties" (.single "RoleArn" (.single "Ref" (.str "OldRole")))))]
    let entry : Value := .anchored 0 (.single "Note" (.str "x"))
    let sharing : Entries := [(.str "Resources", .object
      [("FlowStepFunctionsStateMachine", entry), ("NextStepFunctionsStateMachine", entry)])]
    let path (key : String) :=
      .str "Resources" :: .str "FlowStepFunctionsStateMachine" :: property key
    ((run context (.counted counter) (.map machines) (.map template)).result = .ok () ∧
      ∃ m, compileAlone context (.map template) counter (.str "flow")
          (.single "definition" (.str "A")) = .ok m ∧
        (run context (.counted counter) (.map machines) (.map template)).template.at?
          (path "RoleArn") ≠ some m.resource.properties.role.toValue) ∧
    (Shared.run context (.counted counter) machines sharing).result = .ok () ∧
      (Shared.run context (.counted counter) machines sharing).template.unrolled.at?
        (path "DefinitionString") = some (.str "B") := by
  intro context counter machines template entry sharing path
  refine ⟨⟨eq_ok_of_isOk (by decide +kernel), ?_⟩, eq_ok_of_isOk (by decide +kernel),
    by decide +kernel⟩
  obtain ⟨m, hm, hmixed⟩ := exists_of_okWith (show okWith (fun m : CompiledMachine => decide (
      (run context (.counted counter) (.map machines) (.map template)).template.at?
        (path "RoleArn") ≠ some m.resource.properties.role.toValue))
      (compileAlone context (.map template) counter (.str "flow")
        (.single "definition" (.str "A"))) = true by decide +kernel)
  exact ⟨m, hm, of_decide_eq_true hmixed⟩

end Pass

end FlowTemplate
