import FlowTemplate.Proofs.Compile.Parameters
import FlowTemplate.Proofs.Reference.Pin
/-!
# Exact versions

A machine that asks for exact versions gets its direct references to functions turned into
references to their versions. A function counts if the template holds it: then a parameter that
refers to it directly has become a reference to a version that names it, and no direct reference to a
function is left. A function that is only declared, so that the template has nothing under its
logical ID, is no function to the pinning, and a reference to it stays. The last theorem has one.
-/

namespace FlowTemplate

open FlowTemplate.Computation Intrinsic

theorem Value.entries?_of_entries {v : Value} {entries : Entries} (h : v.entries = .ok entries) :
    v.entries? = some entries := by
  rw [Value.entries] at h
  rw [Value.entries?]
  generalize v.bare = bare at h ⊢
  cases bare with
  | map found => exact congrArg some (Except.ok.inj h)
  | _ => cases h

/-- A field that holds something other than null is there. -/
theorem Value.find?_of_fieldOrNull {v found : Value} {key : String}
    (h : v.fieldOrNull key = .ok found) (hfound : found ≠ .null) :
    v.entries?.bind (Entries.find? · key) = some found := by
  rw [fieldOrNull, field] at h
  cases hentries : v.entries with
  | error m =>
    rw [hentries] at h
    cases h
  | ok entries =>
    rw [hentries] at h
    rw [entries?_of_entries hentries, Option.bind_some]
    cases hfind : entries.find? key with
    | none =>
      rw [Except.map, hfind] at h
      exact absurd (Except.ok.inj h).symm hfound
    | some w =>
      simp only [Except.map, hfind] at h
      exact congrArg some (Except.ok.inj h)

namespace Reference

variable {entries : Entries} {template v w : Value} {logicalId : String} {key : Atom}

/-- The resources of a template, none if there are none to be had. -/
def resourcesOf (template : Value) : Entries :=
  match (resources template).bind Value.entries with
  | .ok entries => entries
  | .error _ => []

/-- What has become of a value among some resources: a direct reference to a function is one to a
version of it, and anything else is what it was. -/
inductive PinnedTo (entries : Entries) : Value → Value → Prop
  | version {v resource : Value} {logicalId : String} {key : Atom}
      (hfunction : directFunction? entries v = some logicalId)
      (hmem : (key, resource) ∈ entries) (hversion : isVersionOf logicalId resource = true) :
      PinnedTo entries v (.single "Ref" (.atom key))
  | kept {v : Value} (h : directFunction? entries v = none) : PinnedTo entries v v

/-- The version that is found is one, and it names the function. -/
theorem mem_of_findVersion (h : findVersion logicalId entries = .ok (some key)) :
    ∃ resource, (key, resource) ∈ entries ∧ isVersionOf logicalId resource = true := by
  induction entries with
  | nil => cases h
  | cons entry rest ih =>
    obtain ⟨k, resource⟩ := entry
    have hlater (h : findVersion logicalId rest = .ok (some key)) :
        ∃ found, (key, found) ∈ (k, resource) :: rest ∧ isVersionOf logicalId found = true := by
      obtain ⟨found, hmem, hversion⟩ := ih h
      exact ⟨found, List.mem_cons_of_mem _ hmem, hversion⟩
    rw [findVersion] at h
    split at h
    · rename_i htype
      obtain ⟨properties, hproperties, h⟩ := bind_eq_ok h
      dsimp only at h
      split at h
      · -- properties that are empty name no function
        exact hlater h
      · rename_i hempty
        obtain ⟨name, hname, h⟩ := bind_eq_ok h
        split at h
        · rename_i hnames
          obtain rfl := Option.some.inj (Except.ok.inj h)
          have hproperties := Value.find?_of_fieldOrNull hproperties fun hnull =>
            hempty (hnull ▸ rfl)
          have hname := Value.find?_of_fieldOrNull hname fun hnull => by
            rw [hnull] at hnames
            cases hnames
          refine ⟨resource, List.mem_cons_self, ?_⟩
          rw [isVersionOf, htype, functionName?, hproperties, Option.bind_some, hname]
          exact hnames
        · exact hlater h
    · exact hlater h

theorem directFunction?_of_functionTarget? {target? : Option String}
    (h : functionTarget? template v = .ok target?) :
    directFunction? (resourcesOf template) v = target? := by
  rw [directFunction?]
  rw [functionTarget?] at h
  generalize directTarget? v = target at h ⊢
  rcases target with _ | target
  · exact Except.ok.inj h
  · cases target with
    | atom a =>
      cases a with
      | str logicalId =>
        obtain ⟨found, hfound, h⟩ := bind_eq_ok h
        obtain ⟨found?, hfield, h⟩ := bind_eq_ok h
        cases hentries : found.entries with
        | error m =>
          rw [Value.field, hentries] at hfield
          cases hfield
        | ok entries =>
          rw [Value.field, hentries] at hfield
          have hresources : resourcesOf template = entries := by
            simp only [resourcesOf, hfound, Except.bind, hentries]
          rw [hresources]
          cases hfield
          exact Except.ok.inj h
      | _ => exact Except.ok.inj h
    | _ => exact Except.ok.inj h

theorem pinnedTo_of_pin (h : pin template v = .ok w) : PinnedTo (resourcesOf template) v w := by
  obtain ⟨target?, htarget, h⟩ := bind_eq_ok h
  have hdirect := directFunction?_of_functionTarget? (mapError_eq_ok htarget)
  cases target? with
  | none =>
    cases h
    exact .kept hdirect
  | some logicalId =>
    obtain ⟨entries, hentries, h⟩ := bind_eq_ok h
    have hentries := mapError_eq_ok hentries
    obtain ⟨key?, hfind, h⟩ := bind_eq_ok h
    have hresources : resourcesOf template = entries := by rw [resourcesOf, hentries]
    cases key? with
    | none => cases h
    | some key =>
      cases h
      obtain ⟨resource, hmem, hversion⟩ := mem_of_findVersion (mapError_eq_ok hfind)
      rw [← hresources] at hmem
      exact .version hdirect hmem hversion

theorem hasType_functionType_of_version {resource : Value}
    (h : hasType versionType resource = true) : hasType functionType resource = false := by
  rw [hasType, beq_iff_eq] at h
  rw [hasType, h]
  decide

/-- Where every logical ID stands once, what is pinned is no direct reference to a function. -/
theorem PinnedTo.directFunction?_eq_none (h : PinnedTo entries v w) (hkeys : entries.keys.Nodup) :
    directFunction? entries w = none := by
  cases h with
  | kept h => exact h
  | @version resource function key hfunction hmem hversion =>
    cases key with
    | str s =>
      have htype : hasType versionType resource = true := (Bool.and_eq_true_iff.mp hversion).1
      have hfound : entries.find? s = some resource := Entries.find?_of_mem hkeys hmem
      have hnone : directFunction? entries (.single "Ref" (.atom (.str s))) =
          if (entries.find? s).any (hasType functionType) then some s else none := rfl
      rw [hnone, hfound, Option.any_some, hasType_functionType_of_version htype]
      rfl
    | _ => rfl

theorem forall_directFunction?_eq_none {vs ws : List Value}
    (h : List.Forall₂ (PinnedTo entries) vs ws) (hkeys : entries.keys.Nodup) :
    ∀ w ∈ ws, directFunction? entries w = none := by
  induction h with
  | nil => exact fun w hw => absurd hw List.not_mem_nil
  | cons hpinned _ ih =>
    exact List.forall_mem_cons.mpr ⟨hpinned.directFunction?_eq_none hkeys, ih⟩

end Reference

namespace Machine

variable {context : Context} {template machine : Value} {name : String} {s s' : Session}

/-- A machine that asks for exact versions and compiles has pinned parameters, each the resolved
intrinsic that stands in its place in the definition, and none of them refers directly to a function
of the template. -/
theorem pinned_of_compile {functions : List String} {compiled : CompiledMachine}
    (hfunctions : context.functions = some functions)
    (hkeys : (Reference.resourcesOf template).keys.Nodup)
    (hexact : usesExactVersions machine = .ok true)
    (hrun : (compile context template name machine).run s = (.ok compiled, s')) :
    ∃ definition, Machine.definition machine = .ok definition ∧
      List.Forall₂ (Reference.PinnedTo (Reference.resourcesOf template))
        ((outermost definition).map (Reference.resolve functions))
        (compiled.parameters.map Prod.snd) ∧
      ∀ w ∈ compiled.parameters.map Prod.snd,
        Reference.directFunction? (Reference.resourcesOf template) w = none := by
  obtain ⟨definition, names, hdefinition, -, -, -, asked, hasked, hpins⟩ :=
    parameters_of_compile hrun
  obtain rfl : asked = true := Except.ok.inj (hasked.symm.trans hexact)
  have hpinned : List.Forall₂ (Reference.PinnedTo (Reference.resourcesOf template))
      ((outermost definition).map (Reference.resolve functions))
      (compiled.parameters.map Prod.snd) := by
    rw [show context.resolve = Reference.resolve functions by rw [Context.resolve, hfunctions]]
      at hpins
    refine hpins.imp fun v w hpin => Reference.pinnedTo_of_pin ?_
    rw [if_pos rfl, Context.pin, hfunctions] at hpin
    exact hpin
  exact ⟨definition, hdefinition, hpinned,
    Reference.forall_directFunction?_eq_none hpinned hkeys⟩

/-- A function that is in the template and has a version. -/
theorem pinned_of_compile_published :
    let context : Context :=
      { providerTags := .map []
        functions := some ["hello"]
        lints := false
        style := Json.oneLine }
    let machine : Value := .object
      [("definition", .single "A" (.single "Ref" (.str "hello"))),
        ("useExactVersion", .atom (.bool true))]
    let template : Value := .single "Resources" (.object
      [("HelloLambdaFunction", .single "Type" (.str Reference.functionType)),
        ("HelloVersion", .object [("Type", .str Reference.versionType),
          ("Properties", .single "FunctionName" (.single "Ref" (.str "HelloLambdaFunction")))])])
    let session := Session.start (.counted (.create 10 Counter.defaultHead))
    (Reference.resourcesOf template).keys.Nodup ∧ usesExactVersions machine = .ok true ∧
      ∃ compiled s', (compile context template "flow" machine).run session = (.ok compiled, s') ∧
        compiled.parameters.map Prod.snd = [.single "Ref" (.str "HelloVersion")] ∧
        ∀ w ∈ compiled.parameters.map Prod.snd,
          Reference.directFunction? (Reference.resourcesOf template) w = none := by
  intro context machine template session
  have hkeys : (Reference.resourcesOf template).keys.Nodup := by decide +kernel
  have hexact : usesExactVersions machine = .ok true := by rfl
  refine ⟨hkeys, hexact, ?_⟩
  obtain ⟨compiled, hcompiled, hpinned⟩ := exists_of_okWith (show okWith (fun m =>
      decide (m.parameters.map Prod.snd = [.single "Ref" (.str "HelloVersion")]))
      ((compile context template "flow" machine).run session).1 = true by decide +kernel)
  have hrun : (compile context template "flow" machine).run session =
      (.ok compiled, ((compile context template "flow" machine).run session).2) :=
    Prod.ext hcompiled rfl
  obtain ⟨_, -, -, hnone⟩ :=
    pinned_of_compile (show context.functions = some ["hello"] from rfl) hkeys hexact hrun
  exact ⟨compiled, _, hrun, of_decide_eq_true hpinned, hnone⟩

/-- A function that is declared and not in the template: the reference to it is resolved and
stays. -/
theorem pinned_of_compile_undeployed :
    let context : Context :=
      { providerTags := .map []
        functions := some ["hello"]
        lints := false
        style := Json.oneLine }
    let machine : Value := .object
      [("definition", .single "A" (.single "Ref" (.str "hello"))),
        ("useExactVersion", .atom (.bool true))]
    let session := Session.start (.counted (.create 10 Counter.defaultHead))
    usesExactVersions machine = .ok true ∧
      ∃ compiled s', (compile context (.map []) "flow" machine).run session = (.ok compiled, s') ∧
        compiled.parameters.map Prod.snd = [.single "Ref" (.str (Naming.lambdaId "hello"))] := by
  intro context machine session
  refine ⟨rfl, ?_⟩
  obtain ⟨compiled, hcompiled, hpinned⟩ := exists_of_okWith (show okWith (fun m =>
      decide (m.parameters.map Prod.snd = [.single "Ref" (.str (Naming.lambdaId "hello"))]))
      ((compile context (.map []) "flow" machine).run session).1 = true by decide +kernel)
  exact ⟨compiled, _, Prod.ext hcompiled rfl, of_decide_eq_true hpinned⟩

end Machine

end FlowTemplate
