import FlowTemplate.Compile.Shared
import FlowTemplate.Proofs.Compile.Collision
import FlowTemplate.Proofs.Compile.Recompile
import FlowTemplate.Proofs.Merge.Path
/-!
# What a pass leaves as it was

A pass merges the fragments of its machines into a template, as many as compile before the first
failure. Whatever the fragments say nothing of keeps its value, be it a section, an entry or a value
deep within an entry. Keys keep their order too, with new ones behind them, at every level but those
which a machine has replaced by something that is no mapping: a later machine under the same logical
ID may put a mapping there again, in an order of its own. The last theorem has such machines.
-/

namespace FlowTemplate.Pass

open FlowTemplate.Computation

variable {context : Context} {template filled : Entries} {session : Session}
  {machines : List (Atom × Value)} {compiled : List CompiledMachine}

/-! ## How far a pass comes -/

/-- A pass over machines that has compiled some of them is at its end, or the next one fails. -/
def EndsAfter (context : Context) (machines done : List (Atom × Value)) (filled : Entries)
    (final : Session) : Except CompileError Unit → Prop
  | .ok () => done = machines
  | .error e => ∃ key machine rest s, machines = done ++ (key, machine) :: rest ∧
      (Machine.compile context (.map filled) (Literal.displayAtom key) machine).run final =
        (.error e, s)

theorem EndsAfter.cons {done : List (Atom × Value)} {final : Session}
    {result : Except CompileError Unit}
    (h : EndsAfter context machines done filled final result) (entry : Atom × Value) :
    EndsAfter context (entry :: machines) (entry :: done) filled final result := by
  cases result with
  | ok u => exact congrArg (entry :: ·) h
  | error e =>
    obtain ⟨key, machine, rest, s, hmachines, hrun⟩ := h
    exact ⟨key, machine, rest, s, congrArg (entry :: ·) hmachines, hrun⟩

theorem EndsAfter.isPrefix {done : List (Atom × Value)} {final : Session}
    {result : Except CompileError Unit}
    (h : EndsAfter context machines done filled final result) : done <+: machines := by
  cases result with
  | ok u => exact h ▸ List.prefix_rfl
  | error e =>
    obtain ⟨key, machine, rest, s, hmachines, -⟩ := h
    exact ⟨(key, machine) :: rest, hmachines.symm⟩

/-- A run over machines compiles them one after the other, up to the first that fails. -/
theorem exists_compiles (context : Context) (machines : List (Atom × Value))
    (hsections : HasSections template) (session : Session) :
    ∃ done compiled filled final, Compiles context template session done compiled filled final ∧
      EndsAfter context machines done filled final
        ((addMachines context machines).run (template, session)).1 ∧
      ((addMachines context machines).run (template, session)).2.1 = filled := by
  induction machines generalizing template session with
  | nil => exact ⟨[], [], template, session, .nil, rfl, rfl⟩
  | cons entry rest ih =>
    obtain ⟨key, machine⟩ := entry
    rw [addMachines, run_bind, run_addMachine context key machine hsections]
    rcases hrun : (Machine.compile context (.map template) (Literal.displayAtom key) machine).run
      session with ⟨e | m, s⟩
    · exact ⟨[], [], template, session, .nil, ⟨key, machine, rest, s, rfl, hrun⟩, rfl⟩
    · obtain ⟨done, compiled, filled, final, hcompiles, hends, hfilled⟩ :=
        ih (hasSections_withMachine template m) (reported key m s)
      exact ⟨(key, machine) :: done, m :: compiled, filled, final, .cons hrun hcompiles,
        hends.cons (key, machine), hfilled⟩

/-- A pass over a template without other things than mappings for sections has compiled some of its
machines one after the other. -/
theorem exists_compiles_of_run (context : Context) (tokens : TokenSource)
    (machines : List (Atom × Value)) {template : Entries}
    (hresources : template.MapsOrLacks "Resources") (houtputs : template.MapsOrLacks "Outputs") :
    ∃ done compiled filled final,
      Compiles context (withSections template) (Session.start tokens) done compiled filled final ∧
      EndsAfter context machines done filled final
        (run context tokens (.map machines) (.map template)).result ∧
      (run context tokens (.map machines) (.map template)).template = .map filled := by
  have hsections := hasSections_withSections hresources houtputs
  obtain ⟨done, compiled, filled, final, hcompiles, hends, hfilled⟩ :=
    exists_compiles context machines hsections (Session.start tokens)
  exact ⟨done, compiled, filled, final, hcompiles, hends, congrArg Value.map hfilled⟩

/-! ## The sections -/

/-- A section that is made changes no mapping along any path. -/
theorem keepsKeys_ensured (key : String) (template : Entries) (path : List Atom) :
    Value.KeepsKeys ((Value.map template).at? path)
      ((Value.map (ensured key template)).at? path) := by
  rw [ensured]
  by_cases hkey : template.contains key = true
  · rw [if_pos hkey]
    exact .refl _
  · rw [if_neg hkey]
    intro entries hentries
    cases path with
    | nil =>
      obtain rfl := Value.map.inj (Option.some.inj hentries)
      exact ⟨_, rfl, Entries.keys_insert_prefix template (.str key) (.map [])⟩
    | cons k path =>
      have hother : (Atom.str key).sameKey k = false := by
        refine Bool.eq_false_iff.mpr fun hsame => hkey ?_
        obtain ⟨v, hv, -⟩ := Option.bind_eq_some_iff.mp hentries
        rw [← Entries.get?_congr hsame] at hv
        rw [Entries.contains, Entries.find?, hv]
        rfl
      refine ⟨entries, ?_, List.prefix_rfl⟩
      rw [Value.at?, Entries.get?_insert, hother]
      exact hentries

theorem get?_ensured {key : String} {k : Atom} (h : k ≠ .str key) (template : Entries) :
    (ensured key template).get? k = template.get? k := by
  rw [ensured]
  split
  · rfl
  · rw [Entries.get?_insert, if_neg]
    rw [Atom.sameKey_str, beq_iff_eq]
    exact h

/-! ## Fragments -/

theorem map_withMachine (h : HasSections template) (m : CompiledMachine) :
    Value.map (withMachine template m) =
      Value.mergeInto (some (.map template)) (.map (fragments m)) := by
  rw [withMachine_eq_merge h, Value.mergeInto]

/-- What no fragment says anything of stays. -/
theorem at?_foldl (h : HasSections template) {path : List Atom}
    (huntouched : ∀ m ∈ compiled, (Value.map (fragments m)).touches path = false) :
    (Value.map (compiled.foldl withMachine template)).at? path = (Value.map template).at? path := by
  induction compiled generalizing template with
  | nil => rfl
  | cons m compiled ih =>
    obtain ⟨hm, hrest⟩ := List.forall_mem_cons.mp huntouched
    rw [List.foldl_cons, ih (hasSections_withMachine template m) hrest, map_withMachine h,
      Value.at?_mergeInto_of_untouched hm]
    rfl

/-- The keys of a mapping that no fragment replaces stay in their order. -/
theorem keepsKeys_foldl (h : HasSections template) {path : List Atom}
    (hkept : ∀ m ∈ compiled, (Value.map (fragments m)).replaces path = false) :
    Value.KeepsKeys ((Value.map template).at? path)
      ((Value.map (compiled.foldl withMachine template)).at? path) := by
  induction compiled generalizing template with
  | nil => exact .refl _
  | cons m compiled ih =>
    obtain ⟨hm, hrest⟩ := List.forall_mem_cons.mp hkept
    have hfirst := Value.keepsKeys_mergeInto hm (some (.map template))
    rw [← map_withMachine h] at hfirst
    exact hfirst.trans (ih (hasSections_withMachine template m) hrest)

/-- A section keeps what stands under a key that no machine has. -/
theorem get?_mergeEntries_added {key : CompiledMachine → String}
    {value : CompiledMachine → Value} {k : Atom} (h : ∀ m ∈ compiled, k ≠ .str (key m))
    (target : Entries) :
    (Value.mergeEntries target (added key value compiled)).get? k = target.get? k := by
  have hnone : Value.valuesUnder k (added key value compiled) = [] := by
    rw [Value.valuesUnder, List.map_eq_nil_iff, List.filter_eq_nil_iff]
    intro entry hentry
    obtain ⟨m, hm, rfl⟩ := List.mem_map.mp hentry
    rw [Atom.sameKey_str_right, beq_iff_eq]
    exact h m hm
  rw [Value.get?_mergeEntries, hnone]
  rfl

/-- The keys of a section after a pass: those it had, then the new ones in the order in which the
machines first have them. -/
def grownKeys (key : CompiledMachine → String) (target : Entries)
    (compiled : List CompiledMachine) : List Atom :=
  target.keys ++
    (((compiled.map key).map Atom.str).filter fun k => decide (k ∉ target.keys)).eraseDups

/-! ## Passes -/

/-- What the machines that have compiled leave of a template as it was. -/
structure LeavesRest (template : Entries) (compiled : List CompiledMachine) (filled : Entries) :
    Prop where
  others : ∀ key, key ≠ .str "Resources" → key ≠ .str "Outputs" →
    filled.get? key = template.get? key
  resources : ∀ key, (∀ m ∈ compiled, key ≠ .str m.logicalId) →
    (filled.under "Resources").get? key = (template.under "Resources").get? key
  outputs : ∀ key, (∀ m ∈ compiled, key ≠ .str m.outputId) →
    (filled.under "Outputs").get? key = (template.under "Outputs").get? key
  paths : ∀ path, (∀ m ∈ compiled, (Value.map (fragments m)).touches path = false) →
    (Value.map filled).at? path = (Value.map (withSections template)).at? path
  order : ∀ path, (∀ m ∈ compiled, (Value.map (fragments m)).replaces path = false) →
    Value.KeepsKeys ((Value.map template).at? path) ((Value.map filled).at? path)
  newResources : (filled.under "Resources").keys =
    grownKeys (·.logicalId) (template.under "Resources") compiled
  newOutputs : (filled.under "Outputs").keys =
    grownKeys (·.outputId) (template.under "Outputs") compiled

theorem leavesRest_foldl (hresources : template.MapsOrLacks "Resources")
    (houtputs : template.MapsOrLacks "Outputs") (compiled : List CompiledMachine) :
    LeavesRest template compiled (compiled.foldl withMachine (withSections template)) := by
  have hsections := hasSections_withSections hresources houtputs
  have hgrown (key : CompiledMachine → String) (value : CompiledMachine → Value)
      (target : Entries) : (Value.mergeEntries target (added key value compiled)).keys =
        grownKeys key target compiled := by
    rw [Value.keys_mergeEntries fun k => exists_str_of_mem_added, keys_added, grownKeys]
  constructor
  case others =>
    intro key hresource houtput
    have huntouched : ∀ m ∈ compiled, (Value.map (fragments m)).touches [key] = false := by
      intro m _
      simp [Value.touches, fragments, Value.valuesUnder, Atom.sameKey_str_right, hresource, houtput]
    have hstays := at?_foldl hsections huntouched
    have hget (entries : Entries) : (Value.map entries).at? [key] = entries.get? key := by
      cases h : entries.get? key <;> simp [Value.at?, h]
    rw [hget, hget, withSections_eq, get?_ensured houtput, get?_ensured hresource] at hstays
    exact hstays
  case resources =>
    intro key hkey
    rw [resources_foldl, under_withSections, get?_mergeEntries_added hkey]
  case outputs =>
    intro key hkey
    rw [outputs_foldl, under_withSections, get?_mergeEntries_added hkey]
  case paths => exact fun path huntouched => at?_foldl hsections huntouched
  case order =>
    -- making a section appends a key at most; from there on only fragments count
    intro path hkept
    have hfirst := keepsKeys_ensured "Resources" template path
    have hsecond := keepsKeys_ensured "Outputs" (ensured "Resources" template) path
    exact (hfirst.trans hsecond).trans (keepsKeys_foldl hsections hkept)
  case newResources => rw [resources_foldl, under_withSections, hgrown]
  case newOutputs => rw [outputs_foldl, under_withSections, hgrown]

/-- A pass, whether it succeeds or fails on the way, changes nothing but what the fragments of its
compiled machines speak of, and moves no key but in what one of them has replaced. -/
theorem leavesRest_of_run (context : Context) (tokens : TokenSource)
    (machines : List (Atom × Value)) {template : Entries}
    (hresources : template.MapsOrLacks "Resources") (houtputs : template.MapsOrLacks "Outputs") :
    ∃ done compiled filled final,
      Compiles context (withSections template) (Session.start tokens) done compiled filled final ∧
      EndsAfter context machines done filled final
        (run context tokens (.map machines) (.map template)).result ∧
      (run context tokens (.map machines) (.map template)).template = .map filled ∧
      LeavesRest template compiled filled := by
  obtain ⟨done, compiled, filled, final, hcompiles, hends, htemplate⟩ :=
    exists_compiles_of_run context tokens machines hresources houtputs
  refine ⟨done, compiled, filled, final, hcompiles, hends, htemplate, ?_⟩
  rw [hcompiles.eq_foldl]
  exact leavesRest_foldl hresources houtputs compiled

/-- The second machine has no definition. What the first one does not speak of stays. -/
theorem leavesRest_of_run_broken :
    let context : Context :=
      { providerTags := .map []
        functions := some []
        lints := false
        style := Json.oneLine }
    let machines : List (Atom × Value) :=
      [(.str "flow", .single "definition" (.str "A")), (.str "broken", .map [])]
    let topic : Value := .single "Type" (.str "AWS::SNS::Topic")
    let template : Entries :=
      [(.str "Resources", .object [
        ("FlowStepFunctionsStateMachine", .single "Properties" (.single "Kind" (.str "EXPRESS"))),
        ("Other", topic)]), (.str "Transform", .str "Macro")]
    let outcome := run context (.counted (.create 10 Counter.defaultHead)) (.map machines)
      (.map template)
    ∃ (e : CompileError) (filled : Entries), outcome.result = .error e ∧
      outcome.template = .map filled ∧
      filled.get? (.str "Transform") = some (.str "Macro") ∧
      (filled.under "Resources").get? (.str "Other") = some topic ∧
      template.keys <+: filled.keys := by
  intro context machines topic template outcome
  have hresources : template.MapsOrLacks "Resources" := fun v hv => ⟨_, (Option.some.inj hv).symm⟩
  have houtputs : template.MapsOrLacks "Outputs" := fun v hv => by cases hv
  obtain ⟨done, compiled, filled, final, hcompiles, hends, htemplate, hrest⟩ :=
    leavesRest_of_run context (.counted (.create 10 Counter.defaultHead)) machines hresources
      houtputs
  have hfails : outcome.result.isOk = false := by decide +kernel
  have hother : ∀ m ∈ compiled, Atom.str "Other" ≠ .str m.logicalId := by
    intro m hm heq
    obtain ⟨-, key, machine, hmem, hid⟩ := hcompiles.ids m hm
    have hmem : (key, machine) ∈ machines := hends.isPrefix.subset hmem
    rw [← Atom.str.inj heq] at hid
    simp only [machines, List.mem_cons, List.not_mem_nil, or_false, Prod.mk.injEq] at hmem
    rcases hmem with ⟨rfl, rfl⟩ | ⟨rfl, rfl⟩ <;> exact absurd hid (by decide +kernel)
  obtain ⟨more, hmore, hkeys⟩ := hrest.order [] (fun m _ => rfl) template (Value.at?_nil _)
  obtain rfl : filled = more := Value.map.inj (Option.some.inj ((Value.at?_nil _).symm.trans hmore))
  cases hresult : outcome.result with
  | ok u =>
    rw [hresult] at hfails
    cases hfails
  | error e =>
    exact ⟨e, filled, rfl, htemplate, hrest.others _ (by decide) (by decide),
      hrest.resources _ hother, hkeys⟩

/-- Two machines under one logical ID: the role of the first is a text, which wipes out the old
mapping, and the second puts its keys in another order. And two entries that are one container: what
a machine puts into the one is in the other. -/
theorem leavesRest_of_run_replaced :
    let context : Context :=
      { providerTags := .map []
        functions := some []
        lints := false
        style := Json.oneLine }
    let tokens : TokenSource := .counted (.create 10 Counter.defaultHead)
    let imported (arguments : List (String × Value)) : Value :=
      .single "Fn::ImportValue" (.object arguments)
    let machines : List (Atom × Value) :=
      [(.str "flow", .object [("definition", .str "A"), ("role", .str "arn:aws:iam::1:role/R")]),
        (.str "Flow", .object [("definition", .str "B"),
          ("role", imported [("b", .int 1), ("a", .int 2)])])]
    let template : Entries :=
      [(.str "Resources", .single "FlowStepFunctionsStateMachine" (.single "Properties"
        (.single "RoleArn" (imported [("a", .int 1), ("b", .int 2)]))))]
    let role := ["Resources", "FlowStepFunctionsStateMachine", "Properties", "RoleArn",
      "Fn::ImportValue"].map Atom.str
    let entry : Value := .anchored 0 (.single "Note" (.str "x"))
    let sharing : Entries :=
      [(.str "Resources", .object [("FlowStepFunctionsStateMachine", entry), ("Other", entry)])]
    let other := ["Resources", "Other"].map Atom.str
    ((run context tokens (.map machines) (.map template)).result = .ok () ∧
      (Value.map template).at? role = some (.object [("a", .int 1), ("b", .int 2)]) ∧
      (run context tokens (.map machines) (.map template)).template.at? role =
        some (.object [("b", .int 1), ("a", .int 2)])) ∧
    (Shared.run context tokens (machines.take 1) sharing).result = .ok () ∧
      (Value.map sharing).at? other = some entry ∧
      (Shared.run context tokens (machines.take 1) sharing).template.at? other ≠ some entry := by
  intro context tokens imported machines template role entry sharing other
  refine ⟨⟨eq_ok_of_isOk (by decide +kernel), rfl, by decide +kernel⟩,
    eq_ok_of_isOk (by decide +kernel), rfl, by decide +kernel⟩

end FlowTemplate.Pass
