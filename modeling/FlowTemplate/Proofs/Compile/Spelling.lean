import FlowTemplate.Proofs.Compile.Parameters
import FlowTemplate.Proofs.Compile.Outcome
import FlowTemplate.Proofs.Definition.Spelling
import FlowTemplate.Proofs.Lint.Spelling
import FlowTemplate.Yaml.Meaning
/-!
# Compiling and the spelling of addresses

What a block compiles to does not depend on how the addresses in its definition are spelled, except
that the parameters of its definition string keep their spelling. The same steps fail, and failures
that quote parts of the definition quote them as they are spelled.
-/

namespace FlowTemplate

open FlowTemplate.Computation

/-- Two failures are the same up to the spelling of addresses in what they quote. -/
inductive CompileError.Respelled : CompileError → CompileError → Prop
  | same (e : CompileError) : Respelled e e
  | malformed (machine : String) (report report' : List String) :
      Respelled (.malformed machine report) (.malformed machine report')
  | invalidDefinition (machine : String) (details details' : List Value) :
      Respelled (.invalidDefinition machine details) (.invalidDefinition machine details')
  | unresolvedVersion (machine : String) (v : Value) :
      Respelled (.unresolvedVersion machine (.noResolver v))
        (.unresolvedVersion machine (.noResolver v.paired))

/-- The text with other values for its parameters. -/
def TemplateText.withValues (f : Value → Value) : TemplateText → TemplateText
  | .intrinsic [("Fn::Sub", .list [shown, .map parameters])] =>
    .intrinsic [("Fn::Sub", .list [shown, .map (parameters.map fun (k, v) => (k, f v))])]
  | t => t

/-- The machine with other values for its parameters. -/
def CompiledMachine.withValues (f : Value → Value) (m : CompiledMachine) : CompiledMachine :=
  { m with resource := { m.resource with properties := { m.resource.properties with
      definition := m.resource.properties.definition.withValues f } } }

theorem Context.resolve_paired (context : Context) (v : Value) :
    context.resolve v.paired = (context.resolve v).paired := by
  rw [resolve]
  cases context.functions with
  | none => rfl
  | some functions => exact Reference.resolve_paired functions v

namespace Compile

/-- Two results are the same up to spelling; `f` says how it changes in what is yielded. -/
inductive SameUpTo {α : Type} (f : α → α) : Except CompileError α → Except CompileError α → Prop
  | ok (a : α) : SameUpTo f (.ok a) (.ok (f a))
  | error {e e' : CompileError} : e.Respelled e' → SameUpTo f (.error e) (.error e')

/-- Two computations leave the same session behind and their results are the same up to spelling. -/
def Respells {α : Type} (f : α → α) (x y : Compile α) : Prop :=
  ∀ s, SameUpTo f (x.run s).1 (y.run s).1 ∧ (y.run s).2 = (x.run s).2

variable {α β : Type} {f : α → α} {g : β → β} {x y : Compile α}

theorem SameUpTo.refl (result : Except CompileError α) : SameUpTo id result result := by
  cases result with
  | ok a => exact .ok a
  | error e => exact .error (.same e)

theorem sameUpTo_map (f : α → α) (result : Except CompileError α) :
    SameUpTo f result (result.map f) := by
  cases result with
  | ok a => exact .ok a
  | error e => exact .error (.same e)

theorem Respells.bind {k k' : α → Compile β} (h : Respells f x y)
    (hk : ∀ a, Respells g (k a) (k' (f a))) : Respells g (x >>= k) (y >>= k') := by
  intro s
  obtain ⟨hresult, hsession⟩ := h s
  rw [run_bind, run_bind]
  revert hresult hsession
  rcases x.run s with ⟨e | a, s₁⟩ <;> rcases y.run s with ⟨e' | a', s₂⟩ <;>
    intro hresult hsession <;> cases hresult
  · rename_i herror
    exact ⟨.error herror, hsession⟩
  · obtain rfl : s₂ = s₁ := hsession
    exact hk a s₂

theorem respells_lift {result result' : Except CompileError α} (h : SameUpTo f result result') :
    Respells f (lift id result) (lift id result') := by
  intro s
  cases h with
  | ok a => exact ⟨.ok a, rfl⟩
  | error herror => exact ⟨.error herror, rfl⟩

end Compile

namespace Schema

variable {entries : Entries} {key : String} {x y : Value}

theorem extras_insert {known : List String} (hkey : key ∈ known) (entries : Entries) (y : Value) :
    extras known (.map (entries.insert (.str key) y)) = extras known (.map entries) := by
  have hnamed : isNamed known (.str key) = true :=
    List.any_eq_true.mpr ⟨key, hkey, beq_iff_eq.mpr rfl⟩
  change (entries.insert (.str key) y).filter _ = entries.filter _
  induction entries with
  | nil => simp [Entries.insert, hnamed]
  | cons entry rest ih =>
    obtain ⟨k, u⟩ := entry
    rw [Entries.insert_cons]
    by_cases hk : k = .str key
    · rw [if_pos hk, hk, List.filter_cons_of_neg (by simpa using hnamed),
        List.filter_cons_of_neg (by simpa using hnamed)]
    · rw [if_neg hk, List.filter_cons, List.filter_cons, ih]

/-- Under a known name anything may stand, as far as the names are concerned. -/
theorem alike_additional {known : List String} (hkey : key ∈ known) (entries : Entries)
    (y : Value) :
    KeywordAlike (.additional known .never) (.map entries)
      (.map (entries.insert (.str key) y)) := by
  intro e scope covered covered'
  rw [checkKeyword, checkKeyword, extras_insert hkey]
  exact .refl _

end Schema

namespace Machine

open Compile

/-- A block with a definition. -/
def withDefinition (block : Entries) (definition : Value) : Value :=
  .map (block.insert (.str "definition") definition)

variable {block : Entries} {v w : Value} {name : String} {context : Context}

theorem find?_definition (block : Entries) (v : Value) :
    (block.insert (.str "definition") v).find? "definition" = some v := by
  rw [Entries.find?_insert, if_pos rfl]

theorem definition_withDefinition (block : Entries) (v : Value) :
    definition (withDefinition block v) = .ok v := by
  have hentries : (withDefinition block v).entries? =
      some (block.insert (.str "definition") v) := rfl
  rw [definition, hentries]
  dsimp only
  rw [find?_definition]

theorem field_withDefinition {key : String} (h : key ≠ "definition") :
    (withDefinition block v).field key = .ok (block.find? key) := by
  have hentries : (withDefinition block v).entries? =
      some (block.insert (.str "definition") v) := rfl
  rw [Value.field_eq hentries, Entries.find?_insert, if_neg h]

theorem fieldOrNull_withDefinition {key : String} (h : key ≠ "definition") :
    (withDefinition block v).fieldOrNull key = .ok ((block.find? key).getD .null) := by
  rw [Value.fieldOrNull, field_withDefinition h]
  rfl

theorem isEmpty_withDefinition : (withDefinition block v).isEmpty = false := by
  cases block with
  | nil => rfl
  | cons entry rest =>
    obtain ⟨k, u⟩ := entry
    rw [withDefinition, Entries.insert_cons]
    split <;> rfl

/-! ## Checks -/

theorem shapeReport_paired (block : Entries) (v : Value) :
    shapeReport (withDefinition block v.paired) = [] ↔
      shapeReport (withDefinition block v) = [] := by
  have hfind := find?_definition block v
  have hkind : Schema.Alike (.all [.type [.object, .string]]) v v.paired :=
    Schema.overlooks_all (List.forall_mem_singleton.mpr (Schema.overlooks_type _)) v
  have halike : Schema.Alike shape (withDefinition block v) (withDefinition block v.paired) := by
    rw [withDefinition, withDefinition, ← Entries.insert_insert block "definition" v v.paired]
    refine Schema.alike_all ?_
    simp only [List.forall_mem_cons, List.not_mem_nil, false_implies, implies_true, and_true]
    refine ⟨Schema.alike_type _ fun kind => Lint.holds_map kind _ _,
      Schema.alike_properties hfind ?_, Schema.alike_required _ hfind,
      Schema.alike_additional (by decide) _ _⟩
    simp only [fields, List.forall_mem_cons, List.not_mem_nil, false_implies, implies_true,
      and_true]
    refine ⟨fun h => absurd h (by decide), fun h => absurd h (by decide), fun _ => hkind,
      fun h => absurd h (by decide), fun h => absurd h (by decide), fun h => absurd h (by decide),
      fun h => absurd h (by decide), fun h => absurd h (by decide), fun h => absurd h (by decide),
      fun h => absurd h (by decide)⟩
  rw [shapeReport, shapeReport, Schema.report_eq_nil_iff, Schema.report_eq_nil_iff]
  exact (halike .none {}).clean.symm

/-- Either both of two lists are empty or both have a first item, if none is empty alone. -/
theorem nil_or_cons {γ : Type} {xs ys : List γ} (h : ys = [] ↔ xs = []) :
    (xs = [] ∧ ys = []) ∨ ∃ x xs' y ys', xs = x :: xs' ∧ ys = y :: ys' := by
  cases xs with
  | nil => exact .inl ⟨rfl, h.mpr rfl⟩
  | cons x xs' =>
    cases ys with
    | nil => cases h.mp rfl
    | cons y ys' => exact .inr ⟨x, xs', y, ys', rfl, rfl⟩

theorem sameUpTo_checkShape (block : Entries) (v : Value) (name : String) :
    SameUpTo id (checkShape name (withDefinition block v))
      (checkShape name (withDefinition block v.paired)) := by
  rw [checkShape, checkShape]
  rcases nil_or_cons (shapeReport_paired block v) with
    ⟨hreport, hreport'⟩ | ⟨line, rest, line', rest', hreport, hreport'⟩
  · rw [hreport, hreport']
    exact .ok ()
  · rw [hreport, hreport']
    exact .error (.malformed _ _ _)

theorem respells_lint (block : Entries) (v : Value) (name : String) :
    Respells id (lint name (withDefinition block v))
      (lint name (withDefinition block v.paired)) := by
  have hdefinition := definition_withDefinition block
  intro s
  rw [lint, lint, checkReadable_eq (hdefinition v), checkReadable_eq (hdefinition v.paired),
    Lint.excess?_paired]
  rcases Lint.excess? v with _ | _ | _
  · rw [run_bind_of_ok (run_lift_ok _ () s), run_bind_of_ok (run_lift_ok _ () s),
      run_lintWith _ (hdefinition v), run_lintWith _ (hdefinition v.paired)]
    rcases nil_or_cons (Lint.findings_paired v) with
      ⟨hfound, hfound'⟩ | ⟨finding, rest, finding', rest', hfound, hfound'⟩
    · rw [hfound, hfound']
      exact ⟨.ok (), rfl⟩
    · rw [hfound, hfound']
      exact ⟨.error (.invalidDefinition _ _ _), rfl⟩
  · exact ⟨.error (.same _), rfl⟩
  · exact ⟨.error (.same _), rfl⟩

theorem respells_checks (context : Context) (block : Entries) (v : Value) (name : String) :
    Respells id (checks context name (withDefinition block v))
      (checks context name (withDefinition block v.paired)) := by
  refine (respells_lift (sameUpTo_checkShape block v name)).bind fun _ => ?_
  split
  · exact respells_lint block v name
  · exact fun s => ⟨.ok (), rfl⟩

/-! ## Definition strings -/

theorem respells_definitionString (context : Context) (name : String) (block : Entries)
    (v : Value) :
    Respells (DefinitionString.withValues Value.paired)
      (definitionString context name (withDefinition block v))
      (definitionString context name (withDefinition block v.paired)) := by
  intro s
  rw [definitionString, definitionString, definition_withDefinition, definition_withDefinition,
    run_bind_of_ok (run_lift_ok _ _ s), run_bind_of_ok (run_lift_ok _ _ s)]
  dsimp only
  rw [Value.hasNumbers_paired]
  split
  · exact ⟨.error (.same _), rfl⟩
  · rw [run_bind, run_bind, run_adapt, run_adapt,
      DefinitionString.run_build_paired context.resolve_paired]
    rcases (DefinitionString.build context.style Session.nextToken context.resolve v).run s with
      ⟨e | built, s₁⟩
    · exact ⟨.error (.same _), rfl⟩
    · cases built with
      | plain text => exact ⟨.ok _, rfl⟩
      | substitution text parameters =>
        have hkeys : Entries.keys (parameters.map fun (k, v) => (k, Value.paired v)) =
            parameters.keys := by
          rw [Entries.keys, Entries.keys, List.map_map]
          rfl
        simp only [Intrinsic.outcome, Except.map, DefinitionString.withValues, hkeys,
          List.length_map]
        exact ⟨.ok (DefinitionString.substitution text parameters), rfl⟩

/-! ## Pinning -/

theorem mapParameters_paired {ε : Type} {f : Value → Except ε Value}
    (h : ∀ v, f v.paired = (f v).map Value.paired) (built : DefinitionString) :
    (built.withValues Value.paired).mapParameters f =
      (built.mapParameters f).map (DefinitionString.withValues Value.paired) := by
  cases built with
  | plain text => rfl
  | substitution text parameters =>
    have hentry (entry : Atom × Value) : (f entry.2.paired).map (fun v => (entry.1, v)) =
        ((f entry.2).map fun v => (entry.1, v)).map fun entry => (entry.1, entry.2.paired) := by
      rw [h]
      rcases f entry.2 with e | w <;> rfl
    have hparameters : (parameters.map fun (k, v) => (k, Value.paired v)).mapM
        (fun ((k, v) : Atom × Value) => (f v).map fun v => (k, v)) =
        (parameters.mapM fun ((k, v) : Atom × Value) => (f v).map fun v => (k, v)).map
          (List.map fun ((k, v) : Atom × Value) => (k, v.paired)) := mapM_map hentry parameters
    rw [DefinitionString.withValues, DefinitionString.mapParameters,
      DefinitionString.mapParameters, hparameters]
    generalize parameters.mapM (fun ((k, v) : Atom × Value) => (f v).map fun v => (k, v)) = changed
    rcases changed with e | changed <;> rfl

theorem sameUpTo_pinned (context : Context) (template : Value) (name : String) (block : Entries)
    (v : Value) (built : DefinitionString) :
    SameUpTo (DefinitionString.withValues Value.paired)
      (pinned context template name (withDefinition block v) built)
      (pinned context template name (withDefinition block v.paired)
        (built.withValues Value.paired)) := by
  have hasked : usesExactVersions (withDefinition block v.paired) =
      usesExactVersions (withDefinition block v) := by
    rw [usesExactVersions, usesExactVersions, field_withDefinition (by decide),
      field_withDefinition (by decide)]
  rw [pinned, pinned, hasked]
  rcases usesExactVersions (withDefinition block v) with m | _ | _
  · exact .error (.same _)
  · exact .ok built
  · change SameUpTo _ ((built.mapParameters (context.pin template)).mapError _)
      (((built.withValues Value.paired).mapParameters (context.pin template)).mapError _)
    cases hfunctions : context.functions with
    | some functions =>
      have hpin (v : Value) : context.pin template v.paired =
          (context.pin template v).map Value.paired := by
        rw [Context.pin, Context.pin, hfunctions]
        exact Reference.pin_paired template v
      rw [mapParameters_paired hpin]
      rcases built.mapParameters (context.pin template) with failure | pinned
      · exact .error (.same _)
      · exact .ok pinned
    | none =>
      have hpin (v : Value) : context.pin template v = .error (.noResolver v) := by
        rw [Context.pin, hfunctions]
      rcases built with text | ⟨text, _ | ⟨⟨k, v⟩, rest⟩⟩
      · exact .ok (DefinitionString.plain text)
      · exact .ok (DefinitionString.substitution text [])
      · simp only [DefinitionString.withValues, DefinitionString.mapParameters, List.map_cons,
          List.mapM_cons, hpin]
        exact .error (.unresolvedVersion _ _)

/-! ## Resources -/

theorem read_withValues (f : Value → Value) (built : DefinitionString) :
    TemplateText.read (built.withValues f).toValue =
      (TemplateText.read built.toValue).map (TemplateText.withValues f) := by
  cases built <;> rfl

theorem assemble_paired (context : Context) (name : String) (block : Entries) (v : Value)
    (built : DefinitionString) :
    assemble context name (withDefinition block v.paired) (built.withValues Value.paired) =
      (assemble context name (withDefinition block v) built).map
        (CompiledMachine.withValues Value.paired) := by
  have hfield {key : String} (h : key ≠ "definition") :
      (withDefinition block v.paired).fieldOrNull key =
        (withDefinition block v).fieldOrNull key := by
    rw [fieldOrNull_withDefinition h, fieldOrNull_withDefinition h]
  have hid : Naming.stateMachineId name (withDefinition block v.paired) =
      Naming.stateMachineId name (withDefinition block v) := by
    rw [Naming.stateMachineId, Naming.stateMachineId, Naming.customId, Naming.customId,
      isEmpty_withDefinition, isEmpty_withDefinition, hfield (by decide), hfield (by decide)]
  have hrole : role (withDefinition block v.paired) = role (withDefinition block v) := by
    rw [role, role, hfield (by decide)]
  have hdependsOn (dependencies : List String) :
      dependsOn (withDefinition block v.paired) dependencies =
        dependsOn (withDefinition block v) dependencies := by
    rw [dependsOn, dependsOn, hfield (by decide)]
  rw [assemble, assemble, hrole, hid, Naming.outputId, Naming.outputId, hid,
    hfield (show "tags" ≠ "definition" by decide), hfield (show "name" ≠ "definition" by decide)]
  refine map_bind fun role => ?_
  by_cases hnumbers : role.value.hasNumbers = true
  · rw [if_pos hnumbers, if_pos hnumbers]
    rfl
  rw [if_neg hnumbers, if_neg hnumbers, hdependsOn]
  refine map_bind fun ownTags => map_bind fun tags => map_bind fun logicalId =>
    map_bind fun outputId => map_bind fun given => map_bind fun dependsOn => ?_
  obtain ⟨t, ht⟩ := TemplateText.exists_read_toValue built
  have ht' : TemplateText.read (built.withValues Value.paired).toValue =
      .ok (t.withValues Value.paired) := by
    rw [read_withValues, ht]
    rfl
  rw [read_resourceDocument_of_read ht ht']
  have hread {resource : MachineResource} (hresource : MachineResource.read
      (resourceDocument built role tags given dependsOn) = .ok resource) :
      resource.properties.definition = t := by
    have hdefinition := (read_resourceDocument_eq_ok.mp hresource).1.1
    exact Except.ok.inj (hdefinition.symm.trans ht)
  cases hresource : MachineResource.read (resourceDocument built role tags given dependsOn) with
  | error issues => rfl
  | ok resource =>
    rw [← hread hresource]
    rfl

/-- A definition compiles in one spelling as in the other. -/
theorem respells_compile (context : Context) (template : Value) (name : String) (block : Entries)
    (v : Value) :
    Respells (CompiledMachine.withValues Value.paired)
      (compile context template name (withDefinition block v))
      (compile context template name (withDefinition block v.paired)) := by
  rw [compile_eq, compile_eq]
  refine (respells_checks context block v name).bind fun _ => ?_
  refine (respells_definitionString context name block v).bind fun built => ?_
  refine (respells_lift (sameUpTo_pinned context template name block v built)).bind fun built => ?_
  apply respells_lift
  rw [assemble_paired]
  exact sameUpTo_map _ _

/-- The two spellings of an address mean the same. A text stands for the pair of its halves before
and behind its first dot, which is the pair that the short form writes. Resolving and pinning
commute with writing the addresses of a value as pairs; and a block with the addresses of its
definition written as pairs compiles to the same machine, but for the parameters that keep their
spelling, or fails alike. -/
theorem paired_throughout :
    (∀ s target property, (Value.str s).asPair = .list [.str target, .str property] ↔
      Reference.SplitsAtDot s target property) ∧
    (∀ depth s, Yaml.Node.valueAt depth (.scalar (.shortForm "GetAtt") s) =
      .ok (Value.single "Fn::GetAtt" (.str s)).paired) ∧
    (∀ functions v, Reference.resolve functions v.paired =
      (Reference.resolve functions v).paired) ∧
    (∀ template v, Reference.pin template v.paired =
      (Reference.pin template v).map Value.paired) ∧
    ∀ context template name block v, Respells (CompiledMachine.withValues Value.paired)
      (compile context template name (withDefinition block v))
      (compile context template name (withDefinition block v.paired)) := by
  refine ⟨fun s target property => ?_, fun depth s => ?_, Reference.resolve_paired,
    Reference.pin_paired, respells_compile⟩
  · rw [← Reference.splitDot_eq_iff, Value.asPair]
    constructor
    · intro h
      obtain ⟨htarget, hrest⟩ := List.cons.inj (Value.list.inj h)
      obtain ⟨hproperty, -⟩ := List.cons.inj hrest
      exact Prod.ext (Atom.str.inj (Value.atom.inj htarget))
        (Atom.str.inj (Value.atom.inj hproperty))
    · intro h
      rw [h]
  · rw [Yaml.Node.valueAt, Value.paired_address]
    rfl

end Machine

end FlowTemplate
