import FlowTemplate.Compile.Shared
import FlowTemplate.Proofs.Compile.Exhaustion
import FlowTemplate.Proofs.Compile.Parameters
import FlowTemplate.Proofs.Compile.Pass
import Mathlib.Algebra.GroupWithZero.Nat
/-!
# The names of a pass

The machines of a pass draw their names from one source. No name stands for two parameters, in
whatever machines they are, and no parameter is lost: a machine has one for each outermost intrinsic
of its definition. A counted source issues its names in their order, and a pass fails for want of
names at the first machine that makes the intrinsics more than the names, unless something else fails
before. What compiled machines do to the template has no part in this, so it is all shown for any way
of merging them.
-/

namespace FlowTemplate

open FlowTemplate.Computation Intrinsic

/-! ## The parameters of one machine -/

/-- What may stand in a template for an intrinsic of a definition. -/
def StandsFor (context : Context) (intrinsic v : Value) : Prop :=
  v = context.resolve intrinsic ∨
    ∃ template, context.pin template (context.resolve intrinsic) = .ok v

/-- The parameters are the outermost intrinsics of a definition, one by one. A text has none. -/
structure ParametersOf (context : Context) (definition : Value) (parameters : Entries) : Prop where
  length : parameters.length = (outermost definition).length
  inOrder : List.Forall₂ (StandsFor context) (outermost definition) (parameters.map Prod.snd)
  literal : ∀ text, definition = .str text → parameters = []

theorem parametersOf_of_forall₂ {context : Context} {definition : Value} {parameters : Entries}
    (h : List.Forall₂ (StandsFor context) (outermost definition) (parameters.map Prod.snd)) :
    ParametersOf context definition parameters := by
  refine ⟨by rw [h.length_eq, List.length_map], h, ?_⟩
  rintro text rfl
  exact List.map_eq_nil_iff.mp (List.forall₂_nil_left_iff.mp h)

/-- A machine that compiles has the parameters of its definition, named by its source. -/
theorem Machine.parametersOf_of_compile {context : Context} {template machine : Value}
    {name : String} {s s' : Session} {m : CompiledMachine}
    (h : (compile context template name machine).run s = (.ok m, s')) :
    ∃ definition names, Machine.definition machine = .ok definition ∧
      ParametersOf context definition m.parameters ∧
      Generator.Issues TokenSource.next s.tokens names s'.tokens ∧
      m.parameters.keys = names.map Atom.str := by
  obtain ⟨definition, names, hdefinition, hissues, -, hkeys, asked, -, hvalues⟩ :=
    parameters_of_compile h
  refine ⟨definition, names, hdefinition, parametersOf_of_forall₂ ?_, hissues, hkeys⟩
  rw [List.forall₂_map_left_iff] at hvalues
  refine hvalues.imp fun intrinsic v hv => ?_
  cases asked with
  | false => exact .inl hv
  | true => exact .inr ⟨template, hv⟩

/-! ## A pass, whatever it does to its template -/

namespace Pass

/-- How many outermost intrinsics some machines have. -/
def intrinsicTotal (machines : List (Atom × Value)) : Nat :=
  (machines.map fun entry => Machine.intrinsicCount entry.2).sum

/-- A machine has compiled to one with the parameters of its definition. -/
def HasParameters (context : Context) (entry : Atom × Value) (m : CompiledMachine) : Prop :=
  ∃ definition, Machine.definition entry.2 = .ok definition ∧
    ParametersOf context definition m.parameters

/-- How a pass looks at its template and what it does to merge a fragment under a key. -/
structure Way where
  view : Entries → Value
  merge : String → Value → Entries → Except Misfit Entries

namespace Way

/-- The way of a pass over a template that is a tree. -/
def plain : Way := { view := .map, merge := mergeUnder }

/-- The way of a pass over a template with shared containers. -/
def shared : Way :=
  { view := fun template => (Value.map template).unrolled, merge := Shared.mergeUnder }

variable (way : Way) (context : Context)

def addMachine (key : Atom) (machine : Value) : PassM Unit := do
  let name := Literal.displayAtom key
  let compiled ← inSession fun template => Machine.compile context (way.view template) name machine
  change (way.merge "Resources" compiled.resources)
  change (way.merge "Outputs" compiled.outputs)
  inSession fun _ =>
    Compile.tell .info s!"Compiled state machine \"{name}\" as {compiled.logicalId}"

def addMachines : List (Atom × Value) → PassM Unit
  | [] => return ()
  | (key, machine) :: rest => do
    way.addMachine context key machine
    addMachines rest

theorem addMachines_plain (machines : List (Atom × Value)) :
    plain.addMachines context machines = Pass.addMachines context machines := by
  induction machines with
  | nil => rfl
  | cons entry rest ih =>
    rw [addMachines, ih]
    rfl

theorem addMachines_shared (machines : List (Atom × Value)) :
    shared.addMachines context machines = Shared.addMachines context machines := by
  induction machines with
  | nil => rfl
  | cons entry rest ih =>
    rw [addMachines, ih]
    rfl

/-- The machines that compile in a pass, which ends with the first that does not or that cannot be
merged. -/
def compiled : List (Atom × Value) → Entries × Session → List CompiledMachine
  | [], _ => []
  | (key, machine) :: rest, (template, session) =>
    match (Machine.compile context (way.view template) (Literal.displayAtom key) machine).run
      session with
    | (.error _, _) => []
    | (.ok m, _) => m :: match (way.addMachine context key machine).run (template, session) with
      | (.ok (), state) => compiled rest state
      | (.error _, _) => []

variable {way context} {key : Atom} {machine : Value} {template : Entries} {session s : Session}

theorem run_addMachine_of_error {e : CompileError}
    (h : (Machine.compile context (way.view template) (Literal.displayAtom key) machine).run
      session = (.error e, s)) :
    (way.addMachine context key machine).run (template, session) = (.error e, (template, s)) := by
  rw [addMachine, run_bind_of_error (run_inSession h)]

/-- A change of the template draws no names, and it fails as a misfit if it does. -/
theorem run_change_cases (f : Entries → Except Misfit Entries) (template : Entries)
    (session : Session) :
    (∃ filled, (change f).run (template, session) = (.ok (), (filled, session))) ∨
      ∃ misfit, (change f).run (template, session) = (.error (.misfit misfit), (template, session)) := by
  cases h : f template with
  | ok filled => exact .inl ⟨filled, run_change f h session⟩
  | error misfit => exact .inr ⟨misfit, run_change_error h session⟩

/-- A machine that compiles is merged without further names, unless the template does not admit
it. -/
theorem run_addMachine_of_ok {m : CompiledMachine}
    (h : (Machine.compile context (way.view template) (Literal.displayAtom key) machine).run
      session = (.ok m, s)) :
    match (way.addMachine context key machine).run (template, session) with
    | (.ok (), (_, s')) => s'.tokens = s.tokens
    | (.error e, _) => ∃ misfit, e = .misfit misfit := by
  rw [addMachine, run_bind_of_ok (run_inSession h)]
  rcases run_change_cases (way.merge "Resources" m.resources) template s with
    ⟨filled, hfirst⟩ | ⟨misfit, hfirst⟩
  · rw [run_bind_of_ok hfirst]
    rcases run_change_cases (way.merge "Outputs" m.outputs) filled s with
      ⟨filled', hsecond⟩ | ⟨misfit, hsecond⟩
    · rw [run_bind_of_ok hsecond]
      rfl
    · rw [run_bind_of_error hsecond]
      exact ⟨misfit, rfl⟩
  · rw [run_bind_of_error hfirst]
    exact ⟨misfit, rfl⟩

theorem length_keys_of_forall₂ {machines : List (Atom × Value)} {compiled : List CompiledMachine}
    (h : List.Forall₂ (HasParameters context) machines compiled) :
    (compiled.flatMap (·.parameters.keys)).length = intrinsicTotal machines := by
  induction h with
  | nil => rfl
  | @cons entry m machines compiled hm _ ih =>
    obtain ⟨definition, hdefinition, hparameters⟩ := hm
    have hcount : Machine.intrinsicCount entry.2 = m.parameters.length := by
      rw [Machine.intrinsicCount, hdefinition, hparameters.length]
    rw [List.flatMap_cons, List.length_append, ih, intrinsicTotal, intrinsicTotal, List.map_cons,
      List.sum_cons, hcount, Entries.keys, List.length_map]

/-- A pass names the parameters of its machines one after the other from its source. -/
theorem issues_of_addMachines (way : Way) (context : Context) (machines : List (Atom × Value))
    (template : Entries) (session : Session) :
    ∃ names tokens, Generator.Issues TokenSource.next session.tokens names tokens ∧
      (way.compiled context machines (template, session)).flatMap (·.parameters.keys) =
        names.map Atom.str ∧
      List.Forall₂ (HasParameters context)
        (machines.take (way.compiled context machines (template, session)).length)
        (way.compiled context machines (template, session)) ∧
      ∀ state, (way.addMachines context machines).run (template, session) = (.ok (), state) →
        (way.compiled context machines (template, session)).length = machines.length ∧
          state.2.tokens = tokens := by
  induction machines generalizing template session with
  | nil =>
    refine ⟨[], session.tokens, rfl, rfl, .nil, fun state h => ?_⟩
    cases h
    exact ⟨rfl, rfl⟩
  | cons entry rest ih =>
    obtain ⟨key, machine⟩ := entry
    rw [compiled, addMachines]
    rcases hrun : (Machine.compile context (way.view template) (Literal.displayAtom key)
      machine).run session with ⟨e | m, s⟩
    · refine ⟨[], session.tokens, rfl, rfl, .nil, fun state h => ?_⟩
      rw [run_bind_of_error (run_addMachine_of_error hrun)] at h
      cases h
    · obtain ⟨definition, names, hdefinition, hparameters, hissues, hkeys⟩ :=
        Machine.parametersOf_of_compile hrun
      have hadded := run_addMachine_of_ok hrun
      rcases hadd : (way.addMachine context key machine).run (template, session) with
        ⟨e | u, filled, s'⟩
      · -- it has compiled, and its names count, though the template does not admit it
        refine ⟨names, s.tokens, hissues, ?_, .cons ⟨definition, hdefinition, hparameters⟩ .nil,
          fun state h => ?_⟩
        · rw [List.flatMap_singleton, hkeys]
        · rw [run_bind_of_error hadd] at h
          cases h
      · -- the rest draws from where this machine has left the source
        rw [hadd] at hadded
        obtain ⟨more, tokens, hmore, hmoreKeys, hrest, hend⟩ := ih filled s'
        rw [hadded] at hmore
        refine ⟨names ++ more, tokens, hissues.append hmore, ?_, ?_, fun state h => ?_⟩
        · rw [List.flatMap_cons, List.map_append, hkeys, ← hmoreKeys]
        · exact .cons ⟨definition, hdefinition, hparameters⟩ hrest
        · rw [run_bind_of_ok hadd] at h
          obtain ⟨hlength, htokens⟩ := hend state h
          exact ⟨congrArg (· + 1) hlength, htokens⟩

/-- A pass over a counter that succeeds has used up a name for each intrinsic. -/
theorem tokens_of_addMachines {machines : List (Atom × Value)} {c : Counter}
    {state : Entries × Session}
    (h : (way.addMachines context machines).run (template, Session.start (.counted c)) =
      (.ok (), state)) :
    state.2.tokens = .counted (c.advanced (intrinsicTotal machines)) ∧
      c.issued + intrinsicTotal machines ≤ max c.issued c.capacity := by
  obtain ⟨names, tokens, hissues, hnames, hparameters, hend⟩ :=
    issues_of_addMachines way context machines template (Session.start (.counted c))
  obtain ⟨hlength, htokens⟩ := hend state h
  have htotal := length_keys_of_forall₂ hparameters
  rw [hlength, List.take_length, hnames, List.length_map] at htotal
  rw [htokens, ← htotal]
  exact (TokenSource.issues_counted hissues).2

/-- A pass fails as the first machine that does, after all those before it. -/
theorem addMachines_eq_error_iff (machines : List (Atom × Value)) (e : CompileError) :
    ((way.addMachines context machines).run (template, session)).1 = .error e ↔
      ∃ done key machine rest state, machines = done ++ (key, machine) :: rest ∧
        (way.addMachines context done).run (template, session) = (.ok (), state) ∧
        ((way.addMachine context key machine).run state).1 = .error e := by
  induction machines generalizing template session with
  | nil =>
    constructor
    · intro h
      cases h
    · rintro ⟨done, key, machine, rest, state, h, -⟩
      exact absurd h.symm (List.append_ne_nil_of_right_ne_nil done (List.cons_ne_nil _ _))
  | cons entry machines ih =>
    obtain ⟨key, machine⟩ := entry
    rw [addMachines]
    rcases hadd : (way.addMachine context key machine).run (template, session) with
      ⟨e' | u, filled, s⟩
    · rw [run_bind_of_error hadd]
      constructor
      · intro h
        refine ⟨[], key, machine, machines, (template, session), rfl, rfl, ?_⟩
        rw [hadd]
        exact h
      · rintro ⟨done, key', machine', rest, state, hmachines, hdone, herror⟩
        cases done with
        | nil =>
          obtain ⟨rfl, rfl⟩ := Prod.mk.inj (List.cons.inj hmachines).1
          cases hdone
          rw [hadd] at herror
          exact herror
        | cons first done =>
          obtain rfl := (List.cons.inj hmachines).1
          rw [addMachines, run_bind_of_error hadd] at hdone
          cases hdone
    · rw [run_bind_of_ok hadd, ih]
      constructor
      · rintro ⟨done, key', machine', rest, state, rfl, hdone, herror⟩
        refine ⟨(key, machine) :: done, key', machine', rest, state, rfl, ?_, herror⟩
        rw [addMachines, run_bind_of_ok hadd]
        exact hdone
      · rintro ⟨done, key', machine', rest, state, hmachines, hdone, herror⟩
        cases done with
        | nil =>
          obtain ⟨rfl, rfl⟩ := Prod.mk.inj (List.cons.inj hmachines).1
          cases hdone
          rw [hadd] at herror
          cases herror
        | cons first done =>
          obtain ⟨rfl, htail⟩ := List.cons.inj hmachines
          rw [addMachines, run_bind_of_ok hadd] at hdone
          exact ⟨done, key', machine', rest, state, htail, hdone, herror⟩

theorem addMachine_eq_exhausted_iff {filled : Entries} {c : Counter}
    (hissued : c.issued ≤ c.capacity) (log : List Log.Entry) {name : String}
    {cause : TokenFailure} :
    ((way.addMachine context key machine).run (filled, ⟨.counted c, log⟩)).1 =
        .error (.exhausted name cause) ↔
      Machine.checkFailure? context (Literal.displayAtom key) machine = none ∧
        (∀ definition, Machine.definition machine = .ok definition →
          definition.hasNumbers = false) ∧
        c.capacity < c.issued + Machine.intrinsicCount machine ∧
        name = Literal.displayAtom key ∧ cause = .exhausted ⟨c.capacityText, c.length⟩ := by
  rw [← Machine.compile_eq_exhausted_iff context (way.view filled) _ _ hissued log]
  rcases hrun : (Machine.compile context (way.view filled) (Literal.displayAtom key) machine).run
    ⟨.counted c, log⟩ with ⟨e | m, s⟩
  · rw [run_addMachine_of_error hrun]
    constructor <;> intro h <;> cases h <;> rfl
  · have hadded := run_addMachine_of_ok hrun
    constructor
    · intro h
      rcases hadd : (way.addMachine context key machine).run (filled, ⟨.counted c, log⟩) with
        ⟨e | u, state⟩
      · rw [hadd] at h hadded
        obtain ⟨misfit, rfl⟩ := hadded
        cases h
      · rw [hadd] at h
        cases h
    · intro h
      cases h

end Way

/-- After some machines one more passes its checks and makes the intrinsics more than the names of a
counter. -/
structure Overdraws (context : Context) (c : Counter) (done : List (Atom × Value)) (key : Atom)
    (machine : Value) : Prop where
  checked : Machine.checkFailure? context (Literal.displayAtom key) machine = none
  bounded : ∀ definition, Machine.definition machine = .ok definition →
    definition.hasNumbers = false
  enough : intrinsicTotal done ≤ c.capacity
  tooMany : c.capacity < intrinsicTotal (done ++ [(key, machine)])

theorem intrinsicTotal_concat (done : List (Atom × Value)) (key : Atom) (machine : Value) :
    intrinsicTotal (done ++ [(key, machine)]) =
      intrinsicTotal done + Machine.intrinsicCount machine := by
  simp [intrinsicTotal]

namespace Way

variable {way : Way} {context : Context} {key : Atom} {machine : Value} {template : Entries}

/-- The machine after those that have compiled fails for want of names if it overdraws the
counter. -/
theorem addMachine_eq_exhausted_iff_overdraws {c : Counter} (hstart : c.issued = 0)
    {done : List (Atom × Value)} {state : Entries × Session}
    (hdone : (way.addMachines context done).run (template, Session.start (.counted c)) =
      (.ok (), state)) (name : String) (cause : TokenFailure) :
    ((way.addMachine context key machine).run state).1 = .error (.exhausted name cause) ↔
      Overdraws context c done key machine ∧ name = Literal.displayAtom key ∧
        cause = .exhausted ⟨c.capacityText, c.length⟩ := by
  obtain ⟨htokens, hbound⟩ := tokens_of_addMachines hdone
  obtain ⟨filled, tokens, log⟩ := state
  obtain rfl : tokens = .counted (c.advanced (intrinsicTotal done)) := htokens
  have henough : intrinsicTotal done ≤ c.capacity := by omega
  have hissued : (c.advanced (intrinsicTotal done)).issued = intrinsicTotal done := by
    rw [Counter.advanced, hstart, Nat.zero_add]
  rw [addMachine_eq_exhausted_iff (hissued.trans_le henough) log, hissued,
    ← intrinsicTotal_concat done key machine]
  constructor
  · rintro ⟨hcheck, hbounded, htooMany, hname, hcause⟩
    exact ⟨⟨hcheck, hbounded, henough, htooMany⟩, hname, hcause⟩
  · rintro ⟨hoverdraws, hname, hcause⟩
    exact ⟨hoverdraws.checked, hoverdraws.bounded, hoverdraws.tooMany, hname, hcause⟩

theorem addMachines_eq_exhausted_iff {c : Counter} (hstart : c.issued = 0)
    (machines : List (Atom × Value)) (name : String) (cause : TokenFailure) :
    ((way.addMachines context machines).run (template, Session.start (.counted c))).1 =
        .error (.exhausted name cause) ↔
      ∃ done key machine rest, machines = done ++ (key, machine) :: rest ∧
        ((way.addMachines context done).run (template, Session.start (.counted c))).1 = .ok () ∧
        Overdraws context c done key machine ∧ name = Literal.displayAtom key ∧
        cause = .exhausted ⟨c.capacityText, c.length⟩ := by
  rw [addMachines_eq_error_iff]
  constructor
  · rintro ⟨done, key, machine, rest, state, hmachines, hdone, herror⟩
    rw [addMachine_eq_exhausted_iff_overdraws hstart hdone] at herror
    refine ⟨done, key, machine, rest, hmachines, ?_, herror⟩
    rw [hdone]
  · rintro ⟨done, key, machine, rest, hmachines, hdone, hoverdraws⟩
    rcases hrun : (way.addMachines context done).run (template, Session.start (.counted c)) with
      ⟨e | u, state⟩
    · rw [hrun] at hdone
      cases hdone
    · exact ⟨done, key, machine, rest, state, hmachines, hrun,
        (addMachine_eq_exhausted_iff_overdraws hstart hrun name cause).mpr hoverdraws⟩

end Way

/-- What is true of the names in a pass over some machines, given what passes result in and which of
the machines have compiled. -/
structure NamesParameters (context : Context) (tokens : TokenSource)
    (result : List (Atom × Value) → Except CompileError Unit) (machines : List (Atom × Value))
    (compiled : List CompiledMachine) : Prop where
  /-- No two parameters have the same name. -/
  nodup : (compiled.flatMap (·.parameters.keys)).Nodup
  /-- No parameter is lost. -/
  parameters : List.Forall₂ (HasParameters context) (machines.take compiled.length) compiled
  all_compiled : result machines = .ok () → compiled.length = machines.length
  /-- A counter gives the parameters its first names. -/
  counted : ∀ length head, tokens = .counted (.create length head) →
    ∃ names counter, Generator.Issues Counter.next (.create length head) names counter ∧
      compiled.flatMap (·.parameters.keys) = names.map Atom.str
  /-- It is exhausted by the first machine that makes the intrinsics more than its names, if nothing
  else fails before, and by nothing else. -/
  exhausted_iff : ∀ length head, tokens = .counted (.create length head) → ∀ name cause,
    result machines = .error (.exhausted name cause) ↔
      ∃ done key machine rest, machines = done ++ (key, machine) :: rest ∧ result done = .ok () ∧
        Overdraws context (.create length head) done key machine ∧
        name = Literal.displayAtom key ∧
        cause = .exhausted ⟨(Counter.create length head).capacityText, length⟩

theorem Way.namesParameters (way : Way) (context : Context) (tokens : TokenSource)
    (machines : List (Atom × Value)) (template : Entries) :
    NamesParameters context tokens
      (fun machines => ((way.addMachines context machines).run (template, Session.start tokens)).1)
      machines (way.compiled context machines (template, Session.start tokens)) := by
  obtain ⟨names, after, hissues, hnames, hparameters, hend⟩ :=
    issues_of_addMachines way context machines template (Session.start tokens)
  constructor
  case nodup =>
    rw [hnames]
    exact (tokens.isFresh_next names after hissues).map fun _ _ h => Atom.str.inj h
  case parameters => exact hparameters
  case all_compiled =>
    intro hresult
    rcases hrun : (way.addMachines context machines).run (template, Session.start tokens) with
      ⟨e | u, state⟩
    · rw [hrun] at hresult
      cases hresult
    · exact (hend state hrun).1
  case counted =>
    rintro length head rfl
    obtain ⟨hupcoming, -, hbound⟩ := TokenSource.issues_counted hissues
    have hcapacity : (Counter.create length head).issued + names.length ≤
        (Counter.create length head).capacity := by
      have hzero : (Counter.create length head).issued = 0 := rfl
      omega
    have hcounted := Counter.issues_upcoming hcapacity
    rw [← hupcoming] at hcounted
    exact ⟨names, _, hcounted, hnames⟩
  case exhausted_iff =>
    rintro length head rfl name cause
    exact Way.addMachines_eq_exhausted_iff rfl machines name cause

/-- In every pass the parameters have names of their own, as many as there are intrinsics; a counter
gives them its first names, and is exhausted by nothing but too many intrinsics. -/
theorem names_of_run (context : Context) (tokens : TokenSource) (machines : List (Atom × Value))
    (template : Entries) :
    NamesParameters context tokens
      (fun machines => (run context tokens (.map machines) (.map template)).result) machines
      (Way.plain.compiled context machines (withSections template, Session.start tokens)) ∧
    NamesParameters context tokens
      (fun machines => (Shared.run context tokens machines template).result) machines
      (Way.shared.compiled context machines (withSections template, Session.start tokens)) := by
  have hplain := Way.plain.namesParameters context tokens machines (withSections template)
  have hshared := Way.shared.namesParameters context tokens machines (withSections template)
  simp only [Way.addMachines_plain] at hplain
  simp only [Way.addMachines_shared] at hshared
  exact ⟨hplain, hshared⟩

/-- A counter whose names are too short for a number has none. A text needs none; the tree after it
has an intrinsic. -/
theorem names_of_run_short :
    let context : Context :=
      { providerTags := .map []
        functions := some []
        lints := false
        style := Json.oneLine }
    let text : Atom × Value := (.str "text", .single "definition" (.str "A"))
    let tree : Value := .single "definition" (.single "A" (.single "Ref" (.str "Topic")))
    (run context (.counted (.create 1 Counter.defaultHead)) (.map [text, (.str "tree", tree)])
      (.map [])).result = .error (.exhausted "tree" (.exhausted ⟨"0", 1⟩)) := by
  intro context text tree
  have hdone : (run context (.counted (.create 1 Counter.defaultHead)) (.map [text])
      (.map [])).result = .ok () := eq_ok_of_isOk (by decide +kernel)
  have hcapacity : (Counter.create 1 Counter.defaultHead).capacityText = "0" := by decide +kernel
  have hshape : Machine.shapeReport tree = [] := by decide +kernel
  have hcheck : Machine.checkFailure? context "tree" tree = none := by
    rw [Machine.checkFailure?, Machine.shapeFailure?, if_pos hshape]
    rfl
  have hoverdraws : Overdraws context (.create 1 Counter.defaultHead) [text] (.str "tree") tree := by
    refine ⟨hcheck, fun definition hdefinition => ?_, by decide +kernel, by decide +kernel⟩
    cases hdefinition
    rfl
  have hnames := (names_of_run context (.counted (.create 1 Counter.defaultHead))
    [text, (.str "tree", tree)] []).1
  exact (hnames.exhausted_iff 1 Counter.defaultHead rfl _ _).mpr
    ⟨[text], .str "tree", tree, [], rfl, hdone, hoverdraws, rfl, by rw [hcapacity]⟩

end Pass

end FlowTemplate
