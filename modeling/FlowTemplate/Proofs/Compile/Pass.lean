import FlowTemplate.Compile.Pass
import FlowTemplate.Proofs.Compile.Assembly
import FlowTemplate.Proofs.Merge.Repeated
import FlowTemplate.Proofs.Reference.Pin
/-!
# A pass as a fold of independent compilations

The machines of a pass share a source of names and a template that grows while references are looked
up in it. Neither couples them: each compiles as it would alone against the template as it was
given, with the names that are left by then. What carries this through the pass is that a machine's
entry is neither a function nor a version, so a template with such entries merged in answers every
question about functions and versions as it did before. No machine may stand under the ID of a
function or a version, whose entry would be changed.
-/

namespace FlowTemplate.Pass

open FlowTemplate.Computation

/-! ## What the machines yield -/

/-- What a machine compiles to alone, with a counter for names. -/
def compileAlone (context : Context) (template : Value) (counter : Counter) (key : Atom)
    (machine : Value) : Except CompileError CompiledMachine :=
  ((Machine.compile context template (Literal.displayAtom key) machine).run
    (Session.start (.counted counter))).1

/-- What machines compile to, each alone and each with the names that its predecessors leave. -/
def compileEach (context : Context) (template : Value) :
    Counter → List (Atom × Value) → List (Except CompileError CompiledMachine)
  | _, [] => []
  | counter, (key, machine) :: rest =>
    compileAlone context template counter key machine ::
      compileEach context template (counter.advanced (Machine.intrinsicCount machine)) rest

/-- A template with entries merged into the mapping under a key. -/
def mergedUnder (key : String) (fragment template : Entries) : Entries :=
  template.insert (.str key) (.map (Value.mergeEntries (template.under key) fragment))

/-- A template with the resource and the output of a machine merged in. -/
def withMachine (template : Entries) (m : CompiledMachine) : Entries :=
  mergedUnder "Outputs" [(.str m.outputId, m.output.toTemplate)]
    (mergedUnder "Resources" [(.str m.logicalId, m.resource.toTemplate)] template)

/-- The results merged into a template one after the other, up to the first failure. -/
def failFast (template : Entries) :
    List (Except CompileError CompiledMachine) → Except CompileError Unit × Entries
  | [] => (.ok (), template)
  | .ok m :: rest => failFast (withMachine template m) rest
  | .error e :: _ => (.error e, template)

theorem failFast_ok (template : Entries) (compiled : List CompiledMachine) :
    failFast template (compiled.map .ok) = (.ok (), compiled.foldl withMachine template) := by
  induction compiled generalizing template with
  | nil => rfl
  | cons m rest ih => exact ih (withMachine template m)

theorem failFast_error (template : Entries) (compiled : List CompiledMachine) (e : CompileError)
    (rest : List (Except CompileError CompiledMachine)) :
    failFast template (compiled.map .ok ++ .error e :: rest) =
      (.error e, compiled.foldl withMachine template) := by
  induction compiled generalizing template with
  | nil => rfl
  | cons m compiled ih => exact ih (withMachine template m)

/-! ## Sections -/

/-- Both sections of a template are there. -/
structure HasSections (template : Entries) : Prop where
  resources : ∃ found, template.find? "Resources" = some (.map found)
  outputs : ∃ found, template.find? "Outputs" = some (.map found)

theorem find?_mergedUnder (key other : String) (fragment template : Entries) :
    (mergedUnder key fragment template).find? other =
      if other = key then some (.map (Value.mergeEntries (template.under key) fragment))
      else template.find? other := by
  rw [mergedUnder, Entries.find?_insert]

theorem under_of_find? {template found : Entries} {key : String}
    (h : template.find? key = some (.map found)) : template.under key = found := by
  rw [Entries.under, h]

theorem hasSections_withMachine (template : Entries) (m : CompiledMachine) :
    HasSections (withMachine template m) where
  resources := ⟨_, by
    rw [withMachine, find?_mergedUnder, if_neg (by decide), find?_mergedUnder, if_pos rfl]⟩
  outputs := ⟨_, by rw [withMachine, find?_mergedUnder, if_pos rfl]⟩

theorem resources_withMachine (template : Entries) (m : CompiledMachine) :
    (withMachine template m).under "Resources" =
      (template.under "Resources").insert (.str m.logicalId)
        (Value.mergeInto ((template.under "Resources").find? m.logicalId)
          m.resource.toTemplate) := by
  refine under_of_find? ?_
  rw [withMachine, find?_mergedUnder, if_neg (by decide), find?_mergedUnder, if_pos rfl,
    Value.mergeEntries_cons]
  rfl

theorem mergeUnder_eq {key : String} {template found : Entries}
    (h : template.find? key = some (.map found)) (entry : Atom × Value) :
    mergeUnder key (.map [entry]) template = .ok (mergedUnder key [entry] template) := by
  rw [mergeUnder, h, mergedUnder, under_of_find? h]
  rfl

/-! ## The entry of a machine -/

/-- Whatever it is merged into, the entry of a machine has the type of state machines only. -/
theorem hasType_mergeInto_resource {type : String} (htype : type ≠ MachineResource.resourceType)
    (found : Option Value) (r : MachineResource) :
    Reference.hasType type (Value.mergeInto found r.toTemplate) = false := by
  obtain ⟨source, hsource, hdistinct, hfind⟩ : ∃ source : Entries, r.toTemplate = .map source ∧
      source.areDistinct = true ∧
      source.find? "Type" = some (.str MachineResource.resourceType) :=
    ⟨_, rfl, rfl, rfl⟩
  obtain ⟨target, htarget⟩ := Value.exists_mergeInto_map hdistinct found
  have hmerged : (Value.mergeEntries target source).find? "Type" =
      some (.str MachineResource.resourceType) := by
    rw [Value.find?_mergeEntries hdistinct, hfind]
    exact congrArg some (Value.mergeInto_atom _ _)
  rw [hsource, htarget, Reference.hasType_map, hmerged]
  simpa using fun h => htype h.symm

theorem run_inSession {α : Type} {f : Entries → Compile α} {template : Entries}
    {session s : Session} {result : Except CompileError α}
    (h : (f template).run session = (result, s)) :
    (inSession f).run (template, session) = (result, (template, s)) := by
  simp only [inSession, ExceptT.run] at h ⊢
  rw [h]

theorem run_change (f : Entries → Except Misfit Entries) {template template' : Entries}
    (h : f template = .ok template') (session : Session) :
    (change f).run (template, session) = (.ok (), (template', session)) := by
  simp only [change, ExceptT.run, h]

theorem run_change_error {f : Entries → Except Misfit Entries} {template : Entries} {m : Misfit}
    (h : f template = .error m) (session : Session) :
    (change f).run (template, session) = (.error (.misfit m), (template, session)) := by
  simp only [change, ExceptT.run, h]

/-- Compiling a machine in a pass is compiling it against the template as it is and, if that
succeeds, merging what it yields. -/
theorem run_addMachine (context : Context) (key : Atom) (machine : Value) {template : Entries}
    (h : HasSections template) (session : Session) :
    (addMachine context key machine).run (template, session) =
      match (Machine.compile context (.map template) (Literal.displayAtom key) machine).run
        session with
      | (.ok m, s) => (.ok (), (withMachine template m, { s with log := s.log ++
          [⟨.info, s!"Compiled state machine \"{Literal.displayAtom key}\" as {m.logicalId}"⟩] }))
      | (.error e, s) => (.error e, (template, s)) := by
  rw [addMachine]
  rcases hrun : (Machine.compile context (.map template) (Literal.displayAtom key) machine).run
    session with ⟨e | m, s⟩
  · rw [run_bind_of_error (run_inSession hrun)]
  · obtain ⟨resources, hresources⟩ := h.resources
    obtain ⟨outputs, houtputs⟩ := h.outputs
    have houtputs' : (mergedUnder "Resources" [(.str m.logicalId, m.resource.toTemplate)]
        template).find? "Outputs" = some (.map outputs) := by
      rw [find?_mergedUnder, if_neg (by decide), houtputs]
    have hfirst := run_change (mergeUnder "Resources" m.resources) (mergeUnder_eq hresources _) s
    have hsecond := run_change (mergeUnder "Outputs" m.outputs) (mergeUnder_eq houtputs' _) s
    rw [run_bind_of_ok (run_inSession hrun), run_bind_of_ok hfirst, run_bind_of_ok hsecond]
    rfl

/-! ## Passes -/

/-- What a pass has done to the template so far leaves the compilations that are left alone. -/
structure Untouched (initial current : Entries) : Prop where
  sections : HasSections current
  pins : Reference.PinsAlike (initial.under "Resources") (current.under "Resources")

/-- No machine stands under the logical ID of a function or of a version. -/
def AreFree (resources : Entries) (machines : List (Atom × Value)) : Prop :=
  ∀ key machine, (key, machine) ∈ machines → ∀ logicalId,
    Naming.stateMachineId (Literal.displayAtom key) machine = .ok logicalId →
      Reference.IsFree resources logicalId

theorem pinsAlike_withMachine {template : Entries} {m : CompiledMachine}
    (h : Reference.IsFree (template.under "Resources") m.logicalId) :
    Reference.PinsAlike (template.under "Resources")
      ((withMachine template m).under "Resources") := by
  rw [resources_withMachine]
  exact Reference.pinsAlike_insert h (hasType_mergeInto_resource (by decide) _ _)
    (hasType_mergeInto_resource (by decide) _ _)

theorem AreFree.withMachine {template : Entries} {machines : List (Atom × Value)}
    (h : AreFree (template.under "Resources") machines) (m : CompiledMachine) :
    AreFree ((withMachine template m).under "Resources") machines := by
  intro key machine hmem logicalId hid
  rw [resources_withMachine]
  exact (h key machine hmem logicalId hid).insert (hasType_mergeInto_resource (by decide) _ _)
    (hasType_mergeInto_resource (by decide) _ _)

theorem HasSections.mapsOrLacks {template : Entries} (h : HasSections template) :
    template.MapsOrLacks "Resources" := by
  obtain ⟨found, hfound⟩ := h.resources
  exact fun v hv => ⟨found, Option.some.inj (hv.symm.trans hfound)⟩

/-- A machine compiles against the template of a running pass as it does alone. -/
theorem compile_untouched {context : Context} {initial current : Entries}
    (hinitial : initial.MapsOrLacks "Resources") (h : Untouched initial current) (name : String)
    (machine : Value) :
    Machine.compile context (.map current) name machine =
      Machine.compile context (.map initial) name machine := by
  refine Machine.compile_congr (fun v => ?_) name machine
  unfold Context.pin
  split
  · exact (Reference.pin_congr hinitial h.sections.mapsOrLacks h.pins v).symm
  · rfl

/-- A pass over machines from some point on does to the template what the results of the machines
alone do to it. -/
theorem run_addMachines (context : Context) {initial : Entries}
    (hinitial : initial.MapsOrLacks "Resources") (machines : List (Atom × Value))
    {current : Entries} (huntouched : Untouched initial current)
    (hfree : AreFree (current.under "Resources") machines) (counter : Counter)
    (log : List Log.Entry) :
    (((addMachines context machines).run (current, ⟨.counted counter, log⟩)).1,
      ((addMachines context machines).run (current, ⟨.counted counter, log⟩)).2.1) =
      failFast current (compileEach context (.map initial) counter machines) := by
  induction machines generalizing current counter log with
  | nil => rfl
  | cons entry rest ih =>
    obtain ⟨key, machine⟩ := entry
    obtain ⟨houtcome, -⟩ := Machine.ignoresLog_compile context (.map initial)
      (Literal.displayAtom key) machine ⟨.counted counter, log⟩
      (Session.start (.counted counter)) rfl
    have hcompile : Machine.compile context (.map current) (Literal.displayAtom key) machine =
        Machine.compile context (.map initial) (Literal.displayAtom key) machine :=
      compile_untouched hinitial huntouched (Literal.displayAtom key) machine
    rw [addMachines, run_bind, run_addMachine context key machine huntouched.sections, hcompile]
    rcases hrun : (Machine.compile context (.map initial) (Literal.displayAtom key) machine).run
      ⟨.counted counter, log⟩ with ⟨e | m, s⟩
    · rw [hrun] at houtcome
      rw [compileEach, compileAlone, ← houtcome]
      rfl
    · rw [hrun] at houtcome
      have htokens := Machine.advances_compile context _ _ machine counter log m s hrun
      have hid := Machine.logicalId_of_compile hrun
      have hthis := hfree key machine List.mem_cons_self m.logicalId hid
      have hnext : Untouched initial (withMachine current m) :=
        ⟨hasSections_withMachine current m, huntouched.pins.trans (pinsAlike_withMachine hthis)⟩
      have hrest : AreFree (current.under "Resources") rest :=
        fun key machine hmem => hfree key machine (List.mem_cons_of_mem _ hmem)
      obtain ⟨tokens, log'⟩ := s
      simp only at htokens
      subst htokens
      rw [compileEach, compileAlone, ← houtcome]
      exact ih hnext (hrest.withMachine m) _ _

/-- Entries in which a key has something under it. -/
def ensured (key : String) (entries : Entries) : Entries :=
  if entries.contains key then entries else entries.insert (.str key) (.map [])

theorem withSections_eq (template : Entries) :
    withSections template = ensured "Outputs" (ensured "Resources" template) := rfl

theorem find?_ensured (key other : String) (entries : Entries) :
    (ensured key entries).find? other =
      if other = key then some ((entries.find? key).getD (.map [])) else entries.find? other := by
  rw [ensured]
  by_cases hkey : entries.contains key = true
  · obtain ⟨v, hv⟩ := Option.isSome_iff_exists.mp hkey
    rw [if_pos hkey]
    by_cases hother : other = key
    · rw [if_pos hother, hother, hv, Option.getD_some]
    · rw [if_neg hother]
  · have hnone := Entries.contains_eq_false_iff.mp (Bool.eq_false_iff.mpr hkey)
    rw [if_neg hkey, Entries.find?_insert, hnone, Option.getD_none]

theorem find?_withSections (template : Entries) (key : String) :
    (withSections template).find? key =
      if key = "Resources" ∨ key = "Outputs" then some ((template.find? key).getD (.map []))
      else template.find? key := by
  rw [withSections_eq, find?_ensured, find?_ensured, find?_ensured]
  by_cases houtputs : key = "Outputs"
  · rw [if_pos houtputs, if_neg (by decide), if_pos (.inr houtputs), houtputs]
  · by_cases hresources : key = "Resources"
    · rw [if_neg houtputs, if_pos hresources, if_pos (.inl hresources), hresources]
    · rw [if_neg houtputs, if_neg hresources, if_neg (not_or.mpr ⟨hresources, houtputs⟩)]

/-- A section that is made is empty. -/
theorem under_withSections (template : Entries) (key : String) :
    (withSections template).under key = template.under key := by
  rw [Entries.under, Entries.under, find?_withSections]
  by_cases h : key = "Resources" ∨ key = "Outputs"
  · rw [if_pos h]
    cases template.find? key <;> rfl
  · rw [if_neg h]

theorem exists_section {template : Entries} {key : String}
    (hkey : key = "Resources" ∨ key = "Outputs") (h : template.MapsOrLacks key) :
    ∃ found, (withSections template).find? key = some (.map found) := by
  rw [find?_withSections, if_pos hkey]
  cases hfind : template.find? key with
  | none => exact ⟨[], rfl⟩
  | some v =>
    obtain ⟨found, rfl⟩ := h v hfind
    exact ⟨found, rfl⟩

theorem hasSections_withSections {template : Entries}
    (hresources : template.MapsOrLacks "Resources")
    (houtputs : template.MapsOrLacks "Outputs") : HasSections (withSections template) where
  resources := exists_section (.inl rfl) hresources
  outputs := exists_section (.inr rfl) houtputs

/-- What a pass does to a template is what the results of its machines alone do to it. -/
theorem run_eq_failFast (context : Context) (counter : Counter) (machines : List (Atom × Value))
    {template : Entries} (hresources : template.MapsOrLacks "Resources")
    (houtputs : template.MapsOrLacks "Outputs")
    (hfree : AreFree (template.under "Resources") machines) :
    let outcome := run context (.counted counter) (.map machines) (.map template)
    let merged := failFast (withSections template)
      (compileEach context (.map template) counter machines)
    outcome.result = merged.1 ∧ outcome.template = .map merged.2 := by
  have hunder := under_withSections template "Resources"
  have huntouched : Untouched template (withSections template) :=
    ⟨hasSections_withSections hresources houtputs, hunder ▸ Reference.PinsAlike.refl _⟩
  have hrun := run_addMachines context hresources machines huntouched (hunder ▸ hfree) counter []
  obtain ⟨hresult, htemplate⟩ := Prod.mk.inj hrun
  exact ⟨hresult, congrArg Value.map htemplate⟩

end FlowTemplate.Pass
