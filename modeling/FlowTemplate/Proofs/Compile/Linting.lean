import FlowTemplate.Command.Run
import FlowTemplate.Proofs.Compile.Names
import FlowTemplate.Proofs.Compile.Outcome
/-!
# Linting beside compiling

Linting only says no. A pass that lints does what it does without linting as long as every
definition is valid: it draws the same names and merges the same entries, and no more than its log
differs. With a definition that is not valid it fails, at the latest when it comes to that machine.
The command that lints a service without compiling it goes by the same verdicts.
-/

namespace FlowTemplate

open FlowTemplate.Computation

/-- What a pass is told, with linting on or off. -/
def Context.linting (context : Context) (lints : Bool) : Context := { context with lints }

namespace Machine

open Compile

/-- The block has a definition that can be read and that the linter finds no fault with. -/
def IsValid (machine : Value) : Prop :=
  ∃ definition, Machine.definition machine = .ok definition ∧ Lint.report definition = .ok []

variable {context : Context} {name : String} {machine template : Value} {s s' : Session}

theorem report_eq_nil_iff {definition : Value} : Lint.report definition = .ok [] ↔
    Lint.excess? definition = none ∧ Lint.findings definition = [] := by
  rw [Lint.report]
  cases Lint.excess? definition <;> simp

/-- Linting a valid block does no more than say so. -/
theorem alike_lint (h : IsValid machine) (name : String) :
    Alike Session.tokens (lint name machine) (pure ()) := by
  obtain ⟨definition, hdefinition, hreport⟩ := h
  obtain ⟨hexcess, hfindings⟩ := report_eq_nil_iff.mp hreport
  intro s s' hs
  rw [lint, checkReadable_eq hdefinition, hexcess, run_bind_of_ok (run_lift_ok _ () s),
    run_lintWith _ hdefinition, hfindings]
  exact ⟨rfl, hs⟩

theorem alike_compile (h : IsValid machine) (context : Context) (template : Value)
    (name : String) :
    Alike Session.tokens (compile (context.linting true) template name machine)
      (compile (context.linting false) template name machine) := by
  rw [compile_eq, compile_eq]
  have hchecks : Alike Session.tokens (checks (context.linting true) name machine)
      (checks (context.linting false) name machine) :=
    (ignoresLog_lift _ _).alike.bind fun _ => alike_lint h name
  exact hchecks.bind fun _ => ignoresLog_compileChecked (context.linting false) template name machine

/-- Linting has no failure in store exactly for the definitions it has nothing to say about. -/
theorem lintingFailure?_eq_none_iff (context : Context) (name : String) {definition : Value} :
    (readingFailure? (context.linting true) definition <|>
        lintFailure? (context.linting true) name definition) = none ↔
      Lint.report definition = .ok [] := by
  rw [report_eq_nil_iff, readingFailure?, lintFailure?, Context.linting, if_pos rfl]
  cases Lint.excess? definition with
  | some e => simp
  | none => cases Lint.findings definition <;> simp

/-- A block that compiles with linting is valid. -/
theorem isValid_of_compile {compiled : CompiledMachine}
    (h : (compile (context.linting true) template name machine).run s = (.ok compiled, s')) :
    IsValid machine := by
  obtain ⟨_, _, _, hchecks, -⟩ := stages_of_compile h
  obtain ⟨_, s₁, hshape, hlint⟩ := run_bind_eq_ok hchecks
  have hreport : shapeReport machine = [] := by
    obtain ⟨hshape, -⟩ := run_lift_eq_ok hshape
    rw [checkShape] at hshape
    split at hshape
    · assumption
    · cases hshape
  obtain ⟨definition, hdefinition⟩ := exists_definition_of_shapeReport hreport
  have hrun := @run_lint (context.linting true) _ _ name rfl hdefinition s₁
  refine ⟨definition, hdefinition, (lintingFailure?_eq_none_iff context name).mp ?_⟩
  split at hrun
  · cases hrun.symm.trans hlint
  · assumption

end Machine

namespace Pass.Way

variable {way : Way} {context : Context} {key : Atom} {machine : Value}

/-- What a pass has done so far, its log apart. -/
def unlogged (state : Entries × Session) : Entries × TokenSource := (state.1, state.2.tokens)

theorem alike_inSession {α : Type} {f g : Entries → Compile α}
    (h : ∀ template, Alike Session.tokens (f template) (g template)) :
    Alike unlogged (inSession f) (inSession g) := by
  rintro ⟨template, s⟩ ⟨template', s'⟩ hstate
  obtain ⟨rfl, htokens⟩ := Prod.mk.inj hstate
  obtain ⟨houtcome, hleft⟩ := h template s s' htokens
  exact ⟨houtcome, Prod.ext rfl hleft⟩

theorem alike_change (f : Entries → Except Misfit Entries) :
    Alike unlogged (change f) (change f) := by
  rintro ⟨template, s⟩ ⟨template', s'⟩ hstate
  obtain ⟨rfl, htokens⟩ := Prod.mk.inj hstate
  simp only [change, ExceptT.run]
  cases f template with
  | ok filled => exact ⟨rfl, Prod.ext rfl htokens⟩
  | error misfit => exact ⟨rfl, Prod.ext rfl htokens⟩

theorem alike_addMachine (h : Machine.IsValid machine) (way : Way) (context : Context) (key : Atom) :
    Alike unlogged (way.addMachine (context.linting true) key machine)
      (way.addMachine (context.linting false) key machine) := by
  have htell (level : Log.Level) (message : String) :
      Alike unlogged (inSession fun _ => Compile.tell level message)
        (inSession fun _ => Compile.tell level message) :=
    alike_inSession fun _ => Compile.ignoresLog_tell level message
  exact (alike_inSession fun template => Machine.alike_compile h context _ _).bind fun compiled =>
    (alike_change _).bind fun _ => (alike_change _).bind fun _ => htell _ _

theorem alike_addMachines {machines : List (Atom × Value)}
    (h : ∀ entry ∈ machines, Machine.IsValid entry.2) (way : Way) (context : Context) :
    Alike unlogged (way.addMachines (context.linting true) machines)
      (way.addMachines (context.linting false) machines) := by
  induction machines with
  | nil => exact fun s s' hstate => ⟨rfl, hstate⟩
  | cons entry rest ih =>
    obtain ⟨hentry, hrest⟩ := List.forall_mem_cons.mp h
    exact (alike_addMachine hentry way context entry.1).bind fun _ => ih hrest

/-- The machines of a pass that lints and succeeds are valid. -/
theorem isValid_of_addMachines {machines : List (Atom × Value)} {state state' : Entries × Session}
    (h : (way.addMachines (context.linting true) machines).run state = (.ok (), state')) :
    ∀ entry ∈ machines, Machine.IsValid entry.2 := by
  induction machines generalizing state with
  | nil => exact fun entry hentry => absurd hentry List.not_mem_nil
  | cons entry rest ih =>
    obtain ⟨_, between, hadd, hrest⟩ := run_bind_eq_ok h
    refine List.forall_mem_cons.mpr ⟨?_, ih hrest⟩
    rcases hrun : (Machine.compile (context.linting true) (way.view state.1)
      (Literal.displayAtom entry.1) entry.2).run state.2 with ⟨e | compiled, s⟩
    · cases (run_addMachine_of_error hrun).symm.trans hadd
    · exact Machine.isValid_of_compile hrun

/-- A pass that lints succeeds exactly if all machines are valid and it does without linting, and
then both do the same to the template. -/
structure LintsAsWell (machines : List (Atom × Value)) (linting plain : Outcome) : Prop where
  succeeds_iff : linting.result = .ok () ↔
    plain.result = .ok () ∧ ∀ entry ∈ machines, Machine.IsValid entry.2
  template_eq : linting.result = .ok () → linting.template = plain.template

/-- What a pass leaves behind when it comes to an end in a state. -/
def outcomeOf (run : Except CompileError Unit × Entries × Session) : Outcome :=
  { result := run.1, template := .map run.2.1, log := run.2.2.log }

theorem lintsAsWell_addMachines (way : Way) (context : Context)
    (machines : List (Atom × Value)) (state : Entries × Session) :
    LintsAsWell machines (outcomeOf ((way.addMachines (context.linting true) machines).run state))
      (outcomeOf ((way.addMachines (context.linting false) machines).run state)) := by
  have hvalid (hok : ((way.addMachines (context.linting true) machines).run state).1 = .ok ()) :
      ∀ entry ∈ machines, Machine.IsValid entry.2 := by
    rcases hrun : (way.addMachines (context.linting true) machines).run state with ⟨result, after⟩
    rw [hrun] at hok
    obtain rfl : result = .ok () := hok
    exact isValid_of_addMachines hrun
  have halike (h : ∀ entry ∈ machines, Machine.IsValid entry.2) :=
    alike_addMachines h way context state state rfl
  refine ⟨⟨fun hok => ⟨?_, hvalid hok⟩, fun ⟨hok, h⟩ => (halike h).1.trans hok⟩, fun hok => ?_⟩
  · exact (halike (hvalid hok)).1.symm.trans hok
  · have hstate := (halike (hvalid hok)).2
    exact congrArg Value.map (Prod.mk.inj hstate).1

end Pass.Way

namespace Pass

theorem lintsAsWell_run (context : Context) (tokens : TokenSource)
    (machines : List (Atom × Value)) (template : Value) :
    Way.LintsAsWell machines (run (context.linting true) tokens (.map machines) template)
      (run (context.linting false) tokens (.map machines) template) := by
  rw [run, run]
  cases template.entries with
  | error m => exact ⟨iff_of_false (fun h => by cases h) (fun h => by cases h.1), fun _ => rfl⟩
  | ok entries =>
    have h := Way.lintsAsWell_addMachines .plain context machines
      (withSections entries, Session.start tokens)
    rw [Way.addMachines_plain, Way.addMachines_plain] at h
    exact h

theorem lintsAsWell_runShared (context : Context) (tokens : TokenSource)
    (machines template : Entries) :
    Way.LintsAsWell machines (Shared.run (context.linting true) tokens machines template)
      (Shared.run (context.linting false) tokens machines template) := by
  have h := Way.lintsAsWell_addMachines .shared context machines
    (withSections template, Session.start tokens)
  rw [Way.addMachines_shared, Way.addMachines_shared] at h
  exact h

end Pass

/-! ## The command -/

namespace Command

theorem declaredDefinition_eq_some_iff {machine definition : Value} :
    declaredDefinition machine = some definition ↔
      Machine.definition machine = .ok definition ∧ definition ≠ .null := by
  rw [declaredDefinition, Machine.definition]
  cases machine.entries? with
  | none => simp
  | some entries =>
    dsimp only [Option.bind]
    cases entries.find? "definition" with
    | none => simp
    | some found =>
      rw [Option.filter_some]
      by_cases hnull : found = .null
      · simpa [hnull] using Eq.symm
      · simp only [bne_iff_ne, hnull, ne_eq, not_false_eq_true, if_true, Option.some.injEq,
          Except.ok.injEq, iff_self_and]
        exact fun h => h ▸ hnull

/-- Null is no definition, so the command may leave out blocks that declare it. -/
theorem ne_null_of_report {definition : Value} (h : Lint.report definition = .ok []) :
    definition ≠ .null := by
  rintro rfl
  have hfindings : (Lint.findings .null).isEmpty = false := by decide +kernel
  rw [(Machine.report_eq_nil_iff.mp h).2] at hfindings
  cases hfindings

/-- The row of a machine says that it is fine exactly if its definition is valid. -/
theorem lintRow_iff (name : String) (machine : Value) :
    (∃ row, lintRow name machine = .ok row ∧ row.2 = true) ↔ Machine.IsValid machine := by
  rw [lintRow]
  cases hdeclared : declaredDefinition machine with
  | none =>
    refine iff_of_false (fun ⟨row, hrow, hfine⟩ => ?_) fun ⟨definition, hdefinition, hreport⟩ => ?_
    · cases hrow
      cases hfine
    · cases hdeclared.symm.trans
        (declaredDefinition_eq_some_iff.mpr ⟨hdefinition, ne_null_of_report hreport⟩)
  | some definition =>
    obtain ⟨hdefinition, -⟩ := declaredDefinition_eq_some_iff.mp hdeclared
    dsimp only
    rcases hreport : Lint.report definition with e | _ | ⟨finding, rest⟩
    · refine iff_of_false (fun ⟨row, hrow, _⟩ => by cases hrow) fun ⟨other, hother, hvalid⟩ => ?_
      cases hdefinition.symm.trans hother
      cases hreport.symm.trans hvalid
    · exact iff_of_true ⟨_, rfl, rfl⟩ ⟨definition, hdefinition, hreport⟩
    · refine iff_of_false (fun ⟨row, hrow, hfine⟩ => ?_) fun ⟨other, hother, hvalid⟩ => ?_
      · cases hrow
        cases hfine
      · cases hdefinition.symm.trans hother
        cases hreport.symm.trans hvalid

end Command

namespace Service

open Command

theorem lintsAsWell_compile (service : Service) (context : Context) (tokens : TokenSource)
    (template : Value) :
    Pass.Way.LintsAsWell (service.machines.map fun (name, machine) => (.str name, machine))
      (service.compile (context.linting true) tokens template)
      (service.compile (context.linting false) tokens template) := by
  rw [compile, compile]
  cases if template.hasNumbers then template.entries? else none with
  | none => exact Pass.lintsAsWell_run context tokens _ template
  | some entries => exact Pass.lintsAsWell_runShared context tokens _ entries

/-- A service compiles with linting exactly if it does without and every definition is valid, which
is when the command that lints the service finds every machine fine. Then the templates are the
same. -/
theorem compile_linting (service : Service) (context : Context) (tokens : TokenSource)
    (template : Value) :
    ((service.compile (context.linting true) tokens template).result = .ok () ↔
      (service.compile (context.linting false) tokens template).result = .ok () ∧
        ∀ entry ∈ service.machines, Machine.IsValid entry.2) ∧
    ((∀ entry ∈ service.machines, Machine.IsValid entry.2) ↔
      ∃ rows, (service.machines.mapM fun (name, machine) => lintRow name machine) = .ok rows ∧
        rows.all (·.2) = true) ∧
    ((service.compile (context.linting true) tokens template).result = .ok () →
      (service.compile (context.linting false) tokens template).result = .ok () →
      (service.compile (context.linting true) tokens template).template =
        (service.compile (context.linting false) tokens template).template) := by
  have hpass := service.lintsAsWell_compile context tokens template
  refine ⟨?_, ?_, fun hok _ => hpass.template_eq hok⟩
  · have hmachines := hpass.succeeds_iff
    rwa [List.forall_mem_map] at hmachines
  · rw [exists_mapM_all_iff]
    exact forall₂_congr fun entry _ => (lintRow_iff entry.1 entry.2).symm

/-- A service that the linter has nothing to say about, compiled both ways over a template with a
numbered container. -/
theorem compile_linting_succeed :
    let definition : Value := .object
      [("StartAt", .str "Done"), ("States", .single "Done" (.single "Type" (.str "Succeed")))]
    let service : Service :=
      { name := .str "shop"
        tags := []
        functions := []
        machines := [("flow", .single "definition" definition)]
        lints := none }
    let context : Context :=
      { providerTags := .map []
        functions := some []
        lints := false
        style := Json.oneLine }
    let tokens : TokenSource := .counted (.create 10 Counter.defaultHead)
    let template : Value := .single "Metadata" (.anchored 0 (.map []))
    template.hasNumbers = true ∧
      (∀ entry ∈ service.machines, Machine.IsValid entry.2) ∧
      (service.compile (context.linting true) tokens template).result = .ok () ∧
      (service.compile (context.linting true) tokens template).template =
        (service.compile (context.linting false) tokens template).template := by
  intro definition service context tokens template
  obtain ⟨hsucceeds, hrows, htemplate⟩ := service.compile_linting context tokens template
  have hplain : (service.compile (context.linting false) tokens template).result = .ok () :=
    eq_ok_of_isOk (by decide +kernel)
  have hvalid := hrows.mpr ⟨[(["flow", "[green]✓[/green]", ""], true)], by decide +kernel, rfl⟩
  have hlinting := hsucceeds.mpr ⟨hplain, hvalid⟩
  exact ⟨by decide, hvalid, hlinting, htemplate hlinting hplain⟩

end Service

end FlowTemplate
