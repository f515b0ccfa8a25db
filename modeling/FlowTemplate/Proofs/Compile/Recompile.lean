import FlowTemplate.Proofs.Compile.Assembly
import FlowTemplate.Proofs.Compile.Pass
import FlowTemplate.Proofs.Merge.Repeated
/-!
# Compiling again into the same template

A template that a pass has filled holds the entries of the machines already. Compiling the machines
into it again yields the same entries, since these are neither functions nor versions, and merging
them again changes nothing, whichever machines share an entry. So the second of two equal passes
leaves the template as it is, the order of its keys included.
-/

namespace FlowTemplate

namespace Value

/-- A mapping with different texts for keys holds no key twice. -/
theorem isKeyed_object {pairs : List (String × Value)} (hnodup : (pairs.map Prod.fst).Nodup)
    (h : ∀ pair ∈ pairs, pair.2.isKeyed = true) : (object pairs).isKeyed = true := by
  have hkeys : Entries.keys (pairs.map fun pair => (Atom.str pair.1, pair.2)) =
      (pairs.map Prod.fst).map Atom.str := by
    simp [Entries.keys]
  refine (isKeyed_map (pairs.map fun pair => (Atom.str pair.1, pair.2))).mpr
    ⟨Entries.haveOwnKeys_iff.mpr ?_, fun entry hentry => ?_⟩
  · rw [hkeys]
    constructor
    · intro k hk
      obtain ⟨s, -, rfl⟩ := List.mem_map.mp hk
      rw [Atom.sameKey_str, beq_self_eq_true]
    · refine List.Pairwise.map _ (fun s t hst => ?_) hnodup
      rw [Atom.sameKey_str, beq_eq_false_iff_ne]
      exact fun heq => hst (Atom.str.inj heq).symm
  · obtain ⟨pair, hpair, rfl⟩ := List.mem_map.mp hentry
    exact h pair hpair

theorem isKeyed_single {key : String} {v : Value} (h : v.isKeyed = true) :
    (single key v).isKeyed = true := by
  have hobject : (object [(key, v)]).isKeyed = true :=
    isKeyed_object (List.nodup_singleton key) (by simpa using h)
  exact hobject

end Value

open Record

/-- A text or an intrinsic is written with no key twice if it was read so. -/
theorem TemplateText.isKeyed_toValue {v : Value} {t : TemplateText} (hv : v.isKeyed = true)
    (h : TemplateText.read v = .ok t) : t.toValue.isKeyed = true := by
  unfold TemplateText.read at h
  split at h
  · cases h
    rfl
  · split at h
    · rename_i pairs hpairs
      cases h
      unfold mapping mappingOf at hpairs
      split at hpairs
      · rename_i entries hentries
        have hmap : v.bare = .map entries := by
          unfold Value.entries? at hentries
          split at hentries
          · rename_i heq
            rw [heq, Option.some.inj hentries]
          · cases hentries
        rw [← Value.isKeyed_bare, hmap, Value.isKeyed_map] at hv
        change Except.map withoutRepeats
          (Checked.all (entries.map fun e => entry Except.ok e.1 e.2)) = _ at hpairs
        cases hall : Checked.all (entries.map fun e => entry Except.ok e.1 e.2) with
        | error e => rw [hall] at hpairs; cases hpairs
        | ok read =>
          rw [hall] at hpairs
          obtain rfl : withoutRepeats read = pairs := Except.ok.inj hpairs
          obtain ⟨hnodup, hmem⟩ := withoutRepeats_spec read
          refine Value.isKeyed_object hnodup fun pair hpair => ?_
          have hread : (.ok pair : Checked (String × Value)) ∈
              entries.map fun e => entry Except.ok e.1 e.2 := by
            rw [Checked.all_eq_ok.mp hall]
            exact List.mem_map_of_mem (hmem pair hpair)
          obtain ⟨e, he, hpair⟩ := List.mem_map.mp hread
          have hvalue : e.2 = pair.2 :=
            Except.ok.inj (Checked.under_eq_ok.mp (Checked.and_eq_ok.mp hpair).2)
          rw [← hvalue]
          exact hv.2 e he
      · cases hpairs
    · cases h

theorem MachineProperties.isKeyed_toTemplate {p : MachineProperties}
    (hdefinition : p.definition.toValue.isKeyed = true) (hrole : p.role.toValue.isKeyed = true) :
    p.toTemplate.isKeyed = true := by
  obtain ⟨definition, role, tags, name⟩ := p
  have hnodup : ["DefinitionString", "RoleArn", "Tags", "StateMachineName"].Nodup := by decide
  cases name with
  | none =>
    refine Value.isKeyed_object (hnodup.sublist (List.sublist_append_left
      ["DefinitionString", "RoleArn", "Tags"] ["StateMachineName"])) ?_
    simp [requiredFields, hdefinition, hrole, Value.isKeyed]
  | some name =>
    refine Value.isKeyed_object hnodup ?_
    simp [requiredFields, hdefinition, hrole, Value.isKeyed]

theorem MachineResource.isKeyed_toTemplate {r : MachineResource}
    (hdefinition : r.properties.definition.toValue.isKeyed = true)
    (hrole : r.properties.role.toValue.isKeyed = true) : r.toTemplate.isKeyed = true := by
  have hnodup : ["Type", "Properties", "DependsOn"].Nodup := by decide
  refine Value.isKeyed_object hnodup ?_
  simp [MachineProperties.isKeyed_toTemplate hdefinition hrole, Value.isKeyed, Value.strings]

theorem DefinitionString.isKeyed_toValue (d : DefinitionString) : d.toValue.isKeyed = true := by
  cases d <;> rfl

namespace Machine

theorem isKeyed_field {machine v : Value} {key : String} (hkeyed : machine.isKeyed = true)
    (h : machine.fieldOrNull key = .ok v) : v.isKeyed = true := by
  unfold Value.fieldOrNull Value.field Value.entries at h
  split at h
  · rename_i entries hbare
    rw [← Value.isKeyed_bare, hbare, Value.isKeyed_map] at hkeyed
    obtain rfl : (Entries.find? entries key).getD .null = v := Except.ok.inj h
    cases hfind : Entries.find? entries key with
    | none => rfl
    | some w => exact hkeyed.2 _ (Entries.mem_of_find? hfind)
  · cases h

theorem isKeyed_output (logicalId : String) :
    MachineOutput.toTemplate ⟨MachineOutput.defaultDescription, [("Ref", logicalId)]⟩ |>.isKeyed := by
  have hnodup : ["Description", "Value"].Nodup := by decide
  have hvalue : (Value.object [("Ref", .str logicalId)]).isKeyed = true :=
    Value.isKeyed_object (List.nodup_singleton "Ref") (by simp [Value.isKeyed])
  refine Value.isKeyed_object hnodup ?_
  simp [Value.isKeyed, hvalue]

/-- A block without repeated keys is compiled to entries without repeated keys. -/
theorem isKeyed_of_compile {context : Context} {template : Value} {name : String}
    {machine : Value} {s s' : Session} {compiled : CompiledMachine}
    (hkeyed : machine.isKeyed = true)
    (h : (compile context template name machine).run s = (.ok compiled, s')) :
    compiled.resource.toTemplate.isKeyed = true ∧ compiled.output.toTemplate.isKeyed = true := by
  obtain ⟨definition, parts, hassembled⟩ := assembled_of_compile h
  obtain ⟨⟨hdefinition, hrole, -⟩, -⟩ := read_resourceDocument_eq_ok.mp hassembled.resource
  have hparts : parts.role.value.isKeyed = true := by
    have hdeclared := hassembled.gathered.role
    unfold role at hdeclared
    cases hfield : machine.fieldOrNull "role" with
    | error m => rw [hfield] at hdeclared; cases hdeclared
    | ok declared =>
      rw [hfield] at hdeclared
      rw [← Except.ok.inj hdeclared]
      dsimp only
      split
      · rfl
      · exact isKeyed_field hkeyed hfield
  rw [hassembled.output]
  constructor
  · exact MachineResource.isKeyed_toTemplate
      (TemplateText.isKeyed_toValue definition.isKeyed_toValue hdefinition)
      (TemplateText.isKeyed_toValue hparts hrole)
  · exact isKeyed_output compiled.logicalId

end Machine

namespace Pass

/-! ## A pass as one merge -/

/-- What a machine adds to a template. -/
def fragments (m : CompiledMachine) : Entries :=
  [(.str "Resources", m.resources), (.str "Outputs", m.outputs)]

theorem withMachine_eq_merge {template : Entries} (h : HasSections template)
    (m : CompiledMachine) : withMachine template m = Value.mergeEntries template (fragments m) := by
  obtain ⟨resources, hresources⟩ := h.resources
  obtain ⟨outputs, houtputs⟩ := h.outputs
  have hstep {key : String} {found fragment template : Entries}
      (hfound : template.find? key = some (.map found)) :
      template.insert (.str key) (Value.mergeInto (template.find? key) (.map fragment)) =
        mergedUnder key fragment template := by
    rw [hfound, mergedUnder, under_of_find? hfound, Value.mergeInto]
  have houtputs' : (mergedUnder "Resources" [(.str m.logicalId, m.resource.toTemplate)]
      template).find? "Outputs" = some (.map outputs) := by
    rw [find?_mergedUnder, if_neg (by decide), houtputs]
  rw [fragments, Value.mergeEntries_cons, CompiledMachine.resources, hstep hresources,
    Value.mergeEntries_cons, CompiledMachine.outputs, hstep houtputs', withMachine]
  rfl

theorem hasSections_foldl {template : Entries} (h : HasSections template)
    (compiled : List CompiledMachine) : HasSections (compiled.foldl withMachine template) := by
  induction compiled generalizing template with
  | nil => exact h
  | cons m compiled ih => exact ih (hasSections_withMachine template m)

theorem foldl_withMachine_eq_merge {template : Entries} (h : HasSections template)
    (compiled : List CompiledMachine) :
    compiled.foldl withMachine template =
      Value.mergeEntries template (compiled.flatMap fragments) := by
  induction compiled generalizing template with
  | nil => rfl
  | cons m compiled ih =>
    rw [List.foldl_cons, ih (hasSections_withMachine template m), withMachine_eq_merge h,
      List.flatMap_cons, Value.mergeEntries_append_source]

/-- Machines that are merged in again change nothing. -/
theorem foldl_withMachine_again {template : Entries} (h : HasSections template)
    {compiled : List CompiledMachine}
    (hkeyed : ∀ m ∈ compiled,
      m.resource.toTemplate.isKeyed = true ∧ m.output.toTemplate.isKeyed = true) :
    compiled.foldl withMachine (compiled.foldl withMachine template) =
      compiled.foldl withMachine template := by
  have hfragments : ∀ entry ∈ compiled.flatMap fragments,
      entry.1.sameKey entry.1 = true ∧ entry.2.isKeyed = true := by
    intro entry hentry
    obtain ⟨m, hm, hentry⟩ := List.mem_flatMap.mp hentry
    obtain ⟨hresource, houtput⟩ := hkeyed m hm
    simp only [fragments, List.mem_cons, List.not_mem_nil, or_false] at hentry
    rcases hentry with rfl | rfl
    · exact ⟨by rw [Atom.sameKey_str, beq_self_eq_true], Value.isKeyed_single hresource⟩
    · exact ⟨by rw [Atom.sameKey_str, beq_self_eq_true], Value.isKeyed_single houtput⟩
  rw [foldl_withMachine_eq_merge (hasSections_foldl h compiled), foldl_withMachine_eq_merge h,
    Value.mergeEntries_mergeEntries hfragments]

/-! ## The second pass -/

theorem exists_of_failFast_ok {template : Entries}
    {results : List (Except CompileError CompiledMachine)}
    (h : (failFast template results).1 = .ok ()) :
    ∃ compiled : List CompiledMachine, results = compiled.map .ok := by
  induction results generalizing template with
  | nil => exact ⟨[], rfl⟩
  | cons result rest ih =>
    cases result with
    | error e => cases h
    | ok m =>
      obtain ⟨compiled, rfl⟩ := ih h
      exact ⟨m :: compiled, rfl⟩

theorem exists_of_mem_compileEach {context : Context} {template : Value} {counter : Counter}
    {machines : List (Atom × Value)} {result : Except CompileError CompiledMachine}
    (h : result ∈ compileEach context template counter machines) :
    ∃ key machine counter', (key, machine) ∈ machines ∧
      result = compileAlone context template counter' key machine := by
  induction machines generalizing counter with
  | nil => cases h
  | cons entry rest ih =>
    obtain ⟨key, machine⟩ := entry
    rcases List.mem_cons.mp h with rfl | h
    · exact ⟨key, machine, counter, List.mem_cons_self, rfl⟩
    · obtain ⟨key, machine, counter', hmem, hresult⟩ := ih h
      exact ⟨key, machine, counter', List.mem_cons_of_mem _ hmem, hresult⟩

/-- Every machine among the results is one of the given ones, compiled in some session. -/
theorem exists_run_of_mem_compileEach {context : Context} {template : Value} {counter : Counter}
    {machines : List (Atom × Value)} {m : CompiledMachine}
    (h : .ok m ∈ compileEach context template counter machines) :
    ∃ key machine s s', (key, machine) ∈ machines ∧
      (Machine.compile context template (Literal.displayAtom key) machine).run s =
        (.ok m, s') := by
  obtain ⟨key, machine, counter', hmachine, halone⟩ := exists_of_mem_compileEach h
  exact ⟨key, machine, Session.start (.counted counter'), _, hmachine, Prod.ext halone.symm rfl⟩

theorem pinsAlike_foldl {template : Entries} {compiled : List CompiledMachine}
    (h : ∀ m ∈ compiled, Reference.IsFree (template.under "Resources") m.logicalId) :
    Reference.PinsAlike (template.under "Resources")
      ((compiled.foldl withMachine template).under "Resources") := by
  induction compiled generalizing template with
  | nil => exact Reference.PinsAlike.refl _
  | cons m compiled ih =>
    obtain ⟨hm, hrest⟩ := List.forall_mem_cons.mp h
    refine (pinsAlike_withMachine hm).trans (ih fun m' hm' => ?_)
    rw [resources_withMachine]
    exact (hrest m' hm').insert (hasType_mergeInto_resource (by decide) _ _)
      (hasType_mergeInto_resource (by decide) _ _)

theorem AreFree.foldl {template : Entries} {machines : List (Atom × Value)}
    (h : AreFree (template.under "Resources") machines) (compiled : List CompiledMachine) :
    AreFree ((compiled.foldl Pass.withMachine template).under "Resources") machines := by
  induction compiled generalizing template with
  | nil => exact h
  | cons m compiled ih => exact ih (h.withMachine m)

/-- Templates in which references are pinned alike get the same machines. -/
theorem compileEach_congr {context : Context} {initial current : Entries}
    (hinitial : initial.MapsOrLacks "Resources") (h : Untouched initial current)
    (counter : Counter) (machines : List (Atom × Value)) :
    compileEach context (.map current) counter machines =
      compileEach context (.map initial) counter machines := by
  induction machines generalizing counter with
  | nil => rfl
  | cons entry rest ih =>
    obtain ⟨key, machine⟩ := entry
    rw [compileEach, compileEach, compileAlone, compileAlone, compile_untouched hinitial h, ih]

theorem HasSections.outputsMapOrLack {template : Entries} (h : HasSections template) :
    template.MapsOrLacks "Outputs" := by
  obtain ⟨found, hfound⟩ := h.outputs
  exact fun v hv => ⟨found, Option.some.inj (hv.symm.trans hfound)⟩

theorem withSections_of_hasSections {template : Entries} (h : HasSections template) :
    withSections template = template := by
  obtain ⟨resources, hresources⟩ := h.resources
  obtain ⟨outputs, houtputs⟩ := h.outputs
  have hensured {key : String} {found : Value} (hfound : template.find? key = some found) :
      ensured key template = template := by
    rw [ensured, Entries.contains, hfound]
    rfl
  rw [withSections_eq, hensured hresources, hensured houtputs]

end Pass

end FlowTemplate
