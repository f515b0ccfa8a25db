import FlowTemplate.Proofs.Compile.Assembly
/-!
# The parameters of a compiled machine

The definition string of a machine becomes one property of its resource. A substitution is written
there with a parameter for each outermost intrinsic of the definition, under the names that the
source of names issued for this machine; what stands under a name is the intrinsic with its
references resolved, and pinned if the machine asks for exact versions.
-/

namespace FlowTemplate

open FlowTemplate.Computation Intrinsic

/-- Where nothing fails, every item has its result. -/
theorem forall₂_of_mapM {ε α β : Type} {f : α → Except ε β} {as : List α} {bs : List β}
    (h : as.mapM f = .ok bs) : List.Forall₂ (fun a b => f a = .ok b) as bs := by
  induction as generalizing bs with
  | nil =>
    cases h
    exact .nil
  | cons a as ih =>
    rw [List.mapM_cons] at h
    obtain ⟨b, hb, h⟩ := bind_eq_ok h
    obtain ⟨rest, hrest, h⟩ := bind_eq_ok h
    cases h
    exact .cons hb (ih hrest)

/-- The parameters of a text with placeholders; any other text has none. -/
def TemplateText.parameters : TemplateText → Entries
  | .intrinsic [("Fn::Sub", .list [_, .map parameters])] => parameters
  | _ => []

def CompiledMachine.parameters (m : CompiledMachine) : Entries :=
  m.resource.properties.definition.parameters

/-- A definition string keeps its parameters when it is read as a property. -/
theorem TemplateText.parameters_of_read {definition : DefinitionString} {t : TemplateText}
    (h : TemplateText.read definition.toValue = .ok t) : t.parameters = definition.parameters := by
  cases definition with
  | plain text =>
    cases h
    rfl
  | substitution text parameters =>
    cases h
    rfl

/-- Changed parameters stand under the same names. -/
theorem DefinitionString.parameters_of_mapParameters {ε : Type} {f : Value → Except ε Value}
    {built changed : DefinitionString} (h : built.mapParameters f = .ok changed) :
    changed.parameters.keys = built.parameters.keys ∧
      List.Forall₂ (fun v w => f v = .ok w) (built.parameters.map Prod.snd)
        (changed.parameters.map Prod.snd) := by
  cases built with
  | plain text =>
    cases h
    exact ⟨rfl, .nil⟩
  | substitution text parameters =>
    obtain ⟨changes, hchanges, h⟩ := bind_eq_ok h
    cases h
    simp only [DefinitionString.parameters, Entries.keys]
    have hall := forall₂_of_mapM hchanges
    clear hchanges h
    induction hall with
    | nil => exact ⟨rfl, .nil⟩
    | @cons old new _ _ hnew _ ih =>
      obtain ⟨k, v⟩ := old
      obtain ⟨hkeys, hvalues⟩ := ih
      cases hv : f v with
      | error e =>
        simp only [hv] at hnew
        cases hnew
      | ok w =>
        simp only [hv] at hnew
        cases hnew
        exact ⟨congrArg (k :: ·) hkeys, .cons hv hvalues⟩

namespace Compile

/-- A computation that draws no names, whether it succeeds or fails. -/
def KeepsTokens {α : Type} (x : Compile α) : Prop := ∀ s, (x.run s).2.tokens = s.tokens

variable {α β : Type}

theorem keepsTokens_lift {ε : Type} (encode : ε → CompileError) (result : Except ε α) :
    KeepsTokens (lift encode result) := by
  cases result <;> exact fun s => rfl

theorem KeepsTokens.bind {x : Compile α} {f : α → Compile β} (hx : KeepsTokens x)
    (hf : ∀ a, KeepsTokens (f a)) : KeepsTokens (x >>= f) := by
  intro s
  have hfirst := hx s
  rcases hrun : x.run s with ⟨e | a, s₁⟩
  · rw [hrun] at hfirst
    rw [run_bind_of_error hrun]
    exact hfirst
  · rw [hrun] at hfirst
    rw [run_bind_of_ok hrun]
    exact (hf a s₁).trans hfirst

end Compile

namespace Machine

open Compile

variable {context : Context} {template machine : Value} {name : String} {s s' : Session}

theorem keepsTokens_checks (context : Context) (name : String) (machine : Value) :
    KeepsTokens (checks context name machine) := by
  refine (keepsTokens_lift _ _).bind fun _ => ?_
  split
  · refine (keepsTokens_lift _ _).bind fun _ => (keepsTokens_lift _ _).bind fun definition => ?_
    dsimp only
    split <;> exact fun s => rfl
  · exact fun s => rfl

/-- A session issues names when its source does. -/
theorem issues_of_nextToken {names : List String}
    (h : Generator.Issues Session.nextToken s names s') :
    Generator.Issues TokenSource.next s.tokens names s'.tokens := by
  rw [Generator.Issues, Session.run_draws_nextToken] at h
  obtain ⟨hnames, rfl⟩ := Prod.mk.inj h
  exact Prod.ext hnames rfl

theorem isFresh_nextToken (s : Session) : Generator.IsFresh Session.nextToken s :=
  fun names _ h => s.tokens.isFresh_next names _ (issues_of_nextToken h)

/-- A definition string has a parameter for each outermost intrinsic, named by the source. -/
theorem issued_of_definitionString {built : DefinitionString}
    (h : (definitionString context name machine).run s = (.ok built, s')) :
    ∃ definition names, Machine.definition machine = .ok definition ∧
      Generator.Issues TokenSource.next s.tokens names s'.tokens ∧
      names.length = (outermost definition).length ∧
      built.parameters = DefinitionString.parametersWith context.resolve definition names := by
  obtain ⟨definition, s₁, hlift, hrest⟩ := run_bind_eq_ok h
  obtain ⟨hdefinition, rfl⟩ := run_lift_eq_ok hlift
  dsimp only at hrest
  split at hrest
  · cases hrest
  · obtain ⟨built', s₂, hbuild, htell⟩ := run_bind_eq_ok hrest
    have hkept : built' = built ∧ s₂.tokens = s'.tokens := by
      split at htell <;> cases htell <;> exact ⟨rfl, rfl⟩
    obtain ⟨rfl, htokens⟩ := hkept
    rw [run_adapt] at hbuild
    rcases hrun : (DefinitionString.build context.style Session.nextToken context.resolve
      definition).run s₁ with ⟨e | built'', s₃⟩
    · rw [hrun] at hbuild
      cases hbuild
    · rw [hrun] at hbuild
      cases hbuild
      obtain ⟨names, hissues, hlength, hparameters, -⟩ :=
        DefinitionString.exists_names_of_build (isFresh_nextToken s₁) hrun
      refine ⟨definition, names, hdefinition, ?_, hlength, hparameters⟩
      rw [← htokens]
      exact issues_of_nextToken hissues

/-- Pinning changes no name. Where exact versions are asked for it pins every parameter, and
elsewhere it leaves them. -/
theorem parameters_of_pinned {built result : DefinitionString}
    (h : pinned context template name machine built = .ok result) :
    result.parameters.keys = built.parameters.keys ∧
      ∃ asked, usesExactVersions machine = .ok asked ∧
        List.Forall₂ (fun v w => if asked then context.pin template v = .ok w else w = v)
          (built.parameters.map Prod.snd) (result.parameters.map Prod.snd) := by
  obtain ⟨asked, hasked, h⟩ := bind_eq_ok h
  have hasked := mapError_eq_ok hasked
  cases asked with
  | false =>
    cases h
    exact ⟨rfl, false, hasked, List.forall₂_same.mpr fun v _ => rfl⟩
  | true =>
    obtain ⟨hkeys, hvalues⟩ := DefinitionString.parameters_of_mapParameters (mapError_eq_ok h)
    exact ⟨hkeys, true, hasked, hvalues⟩

/-- A machine that compiles has a parameter for each outermost intrinsic of its definition, under
the names that its source issues meanwhile. The parameters are the intrinsics resolved and, if the
machine asks for exact versions, pinned. -/
theorem parameters_of_compile {compiled : CompiledMachine}
    (h : (compile context template name machine).run s = (.ok compiled, s')) :
    ∃ definition names, Machine.definition machine = .ok definition ∧
      Generator.Issues TokenSource.next s.tokens names s'.tokens ∧
      names.length = (outermost definition).length ∧
      compiled.parameters.keys = names.map Atom.str ∧
      ∃ asked, usesExactVersions machine = .ok asked ∧
        List.Forall₂ (fun v w => if asked then context.pin template v = .ok w else w = v)
          ((outermost definition).map context.resolve) (compiled.parameters.map Prod.snd) := by
  obtain ⟨s₁, built, result, hchecks, hbuilt, hpinned, hassemble⟩ := stages_of_compile h
  have htokens := keepsTokens_checks context name machine s
  rw [hchecks] at htokens
  obtain ⟨parts, hassembled⟩ := assembled_of_assemble hassemble
  obtain ⟨definition, names, hdefinition, hissues, hlength, hparameters⟩ :=
    issued_of_definitionString hbuilt
  obtain ⟨hkeys, asked, hasked, hpins⟩ := parameters_of_pinned hpinned
  have hread := (read_resourceDocument_eq_ok.mp hassembled.resource).1.1
  have hcompiled : compiled.parameters = result.parameters :=
    TemplateText.parameters_of_read hread
  have hvalues : built.parameters.map Prod.snd = (outermost definition).map context.resolve := by
    rw [hparameters, DefinitionString.parametersWith, List.map_map]
    calc (names.zip (outermost definition)).map _
        = ((names.zip (outermost definition)).map Prod.snd).map context.resolve := by
          rw [List.map_map]
          rfl
      _ = (outermost definition).map context.resolve := by rw [List.map_snd_zip (by omega)]
  refine ⟨definition, names, hdefinition, ?_, hlength, ?_, asked, hasked, ?_⟩
  · rw [← htokens]
    exact hissues
  · rw [hcompiled, hkeys, hparameters, DefinitionString.keys_parametersWith _ hlength]
  · rw [hcompiled, ← hvalues]
    exact hpins

end Machine

end FlowTemplate
