import FlowTemplate.Proofs.Compile.Outcome
/-!
# Want of names

Of the steps of a compilation only one asks for names: making the definition string. So a compilation
with a counter fails for want of names exactly if its machine passes the checks before that step and
its definition has more outermost intrinsics than the counter has names left.
-/

namespace FlowTemplate

open FlowTemplate.Computation Intrinsic

/-- A result that is no failure for want of names. -/
def IsNotExhausted {α : Type} (result : Except CompileError α) : Prop :=
  ∀ name cause, result ≠ .error (.exhausted name cause)

namespace IsNotExhausted

variable {α β ε : Type}

theorem bind {result : Except CompileError α} {f : α → Except CompileError β}
    (h : IsNotExhausted result) (hf : ∀ a, IsNotExhausted (f a)) : IsNotExhausted (result >>= f) := by
  cases result with
  | error e => exact fun name cause heq => h name cause (congrArg _ (Except.error.inj heq))
  | ok a => exact hf a

theorem mapError {f : ε → CompileError} (h : ∀ e name cause, f e ≠ .exhausted name cause)
    (result : Except ε α) : IsNotExhausted (result.mapError f) := by
  cases result with
  | error e => exact fun name cause heq => h e name cause (Except.error.inj heq)
  | ok a => exact fun name cause heq => by cases heq

theorem of_misfit (result : Except Misfit α) : IsNotExhausted (result.mapError .misfit) :=
  mapError (fun _ _ _ h => by cases h) result

theorem run_lift {result : Except CompileError α} (h : IsNotExhausted result) (s : Session) :
    IsNotExhausted ((Compile.lift id result).run s).1 := by
  cases result <;> exact h

/-- Where the second step never fails for want of names, both do if the first one does. -/
theorem run_bind_eq_iff {x : Compile α} {f : α → Compile β}
    (hf : ∀ a s, IsNotExhausted ((f a).run s).1) (s : Session) (name : String)
    (cause : TokenFailure) :
    ((x >>= f).run s).1 = .error (.exhausted name cause) ↔
      (x.run s).1 = .error (.exhausted name cause) := by
  rcases hrun : x.run s with ⟨e | a, s₁⟩
  · rw [run_bind_of_error hrun]
    constructor <;> intro h <;> exact congrArg _ (Except.error.inj h)
  · rw [run_bind_of_ok hrun]
    constructor
    · intro h
      exact absurd h (hf a s₁ name cause)
    · intro h
      cases h

end IsNotExhausted

namespace Machine

open Compile

variable {context : Context} {machine : Value} {name : String}

theorem isNotExhausted_pinned (context : Context) (template : Value) (name : String)
    (machine : Value) (built : DefinitionString) :
    IsNotExhausted (pinned context template name machine built) := by
  refine (IsNotExhausted.of_misfit _).bind fun asked => ?_
  cases asked with
  | false => exact fun name cause h => by cases h
  | true =>
    refine IsNotExhausted.mapError (fun e name cause h => ?_) _
    cases e <;> cases h

theorem isNotExhausted_assemble (context : Context) (name : String) (machine : Value)
    (built : DefinitionString) : IsNotExhausted (assemble context name machine built) := by
  refine (IsNotExhausted.of_misfit _).bind fun role => ?_
  dsimp only
  split
  · exact fun name cause h => by cases h
  · refine (IsNotExhausted.of_misfit _).bind fun _ => (IsNotExhausted.of_misfit _).bind fun _ =>
      (IsNotExhausted.of_misfit _).bind fun _ => (IsNotExhausted.of_misfit _).bind fun _ =>
      (IsNotExhausted.of_misfit _).bind fun _ => (IsNotExhausted.of_misfit _).bind fun _ =>
      (IsNotExhausted.mapError (fun e name cause h => by cases h) _).bind fun _ => ?_
    exact fun name cause h => by cases h

theorem ne_exhausted_of_checkFailure? {e : CompileError}
    (h : checkFailure? context name machine = some e) (name' : String) (cause : TokenFailure) :
    e ≠ .exhausted name' cause := by
  rintro rfl
  rcases eq_some_or_of_orElse h with hshape | hcheck
  · rw [shapeFailure?] at hshape
    split at hshape <;> cases hshape
  · split at hcheck
    · rcases eq_some_or_of_orElse hcheck with hreading | hlint
      · rw [readingFailure?] at hreading
        split at hreading
        · obtain ⟨excess, -, hexcess⟩ := Option.map_eq_some_iff.mp hreading
          cases excess <;> cases hexcess
        · cases hreading
      · rw [lintFailure?] at hlint
        split at hlint <;> cases hlint
    · cases hcheck

/-- A definition string fails for want of names if its source cannot issue one for each outermost
intrinsic. -/
theorem definitionString_eq_exhausted_iff (context : Context) (name : String) {definition : Value}
    (hdefinition : Machine.definition machine = .ok definition) (s : Session) (name' : String)
    (cause : TokenFailure) :
    ((definitionString context name machine).run s).1 = .error (.exhausted name' cause) ↔
      definition.hasNumbers = false ∧
        ((draws Session.nextToken (outermost definition).length).run s).1 = .error cause ∧
        name' = name := by
  rw [definitionString, hdefinition, run_bind_of_ok (run_lift_ok _ definition s),
    ← DefinitionString.build_eq_generator_iff context.style Session.nextToken context.resolve]
  dsimp only
  by_cases hnumbers : definition.hasNumbers = true
  · rw [if_pos hnumbers]
    constructor
    · intro h
      cases h
    · rintro ⟨hnone, -⟩
      rw [hnumbers] at hnone
      cases hnone
  · rw [if_neg hnumbers, run_bind, run_adapt]
    rcases (DefinitionString.build context.style Session.nextToken context.resolve
      definition).run s with ⟨e | built, s₁⟩
    · cases e with
      | generator e =>
        constructor
        · intro h
          cases h
          exact ⟨Bool.eq_false_iff.mpr hnumbers, rfl, rfl⟩
        · rintro ⟨-, h, rfl⟩
          cases h
          rfl
      | misfit m =>
        constructor
        · intro h
          cases h
        · rintro ⟨-, h, -⟩
          cases h
    · constructor
      · intro h
        cases built <;> cases h
      · rintro ⟨-, h, -⟩
        cases h

theorem draws_counted_eq_error_iff {c : Counter} (hissued : c.issued ≤ c.capacity)
    (log : List Log.Entry) (n : Nat) (cause : TokenFailure) :
    ((draws Session.nextToken n).run ⟨.counted c, log⟩).1 = .error cause ↔
      c.capacity < c.issued + n ∧ cause = .exhausted ⟨c.capacityText, c.length⟩ := by
  rw [Session.run_draws_nextToken, TokenSource.run_draws_counted, Counter.run_draws_next]
  by_cases hn : c.capacity < c.issued + n
  · rw [if_neg (by omega)]
    constructor
    · intro h
      cases h
      exact ⟨hn, rfl⟩
    · rintro ⟨-, rfl⟩
      rfl
  · rw [if_pos (by omega)]
    constructor
    · intro h
      cases h
    · rintro ⟨h, -⟩
      exact absurd h hn

/-- A machine fails for want of names if it passes its checks and has more outermost intrinsics than
its counter has names left. -/
theorem compile_eq_exhausted_iff (context : Context) (template : Value) (name : String)
    (machine : Value) {c : Counter} (hissued : c.issued ≤ c.capacity) (log : List Log.Entry)
    (name' : String) (cause : TokenFailure) :
    ((compile context template name machine).run ⟨.counted c, log⟩).1 =
        .error (.exhausted name' cause) ↔
      checkFailure? context name machine = none ∧
        (∀ definition, Machine.definition machine = .ok definition →
          definition.hasNumbers = false) ∧
        c.capacity < c.issued + intrinsicCount machine ∧
        name' = name ∧ cause = .exhausted ⟨c.capacityText, c.length⟩ := by
  have hchecks := run_checks context name
    (fun hshape : shapeReport machine = [] => exists_definition_of_shapeReport hshape)
    ⟨.counted c, log⟩
  rw [compile_eq]
  cases hcheck : checkFailure? context name machine with
  | some e =>
    rw [hcheck] at hchecks
    rw [run_bind_of_error hchecks]
    constructor
    · intro h
      exact absurd (Except.error.inj h) (ne_exhausted_of_checkFailure? hcheck name' cause)
    · rintro ⟨h, -⟩
      cases h
  | none =>
    rw [hcheck] at hchecks
    obtain ⟨hshape, log', hrun⟩ := hchecks
    obtain ⟨definition, hdefinition⟩ := exists_definition_of_shapeReport hshape
    have hcount : intrinsicCount machine = (outermost definition).length := by
      rw [intrinsicCount, hdefinition]
    have hstring := definitionString_eq_exhausted_iff context name hdefinition
      ⟨.counted c, log'⟩ name' cause
    rw [draws_counted_eq_error_iff hissued] at hstring
    rw [run_bind_of_ok hrun, hcount, compileChecked]
    have hrest (built : DefinitionString) (s : Session) : IsNotExhausted
        ((Compile.lift id (pinned context template name machine built) >>= fun definition =>
          Compile.lift id (assemble context name machine definition)).run s).1 := by
      intro name' cause h
      rw [IsNotExhausted.run_bind_eq_iff fun built s =>
        (isNotExhausted_assemble context name machine built).run_lift s] at h
      exact (isNotExhausted_pinned context template name machine built).run_lift s name' cause h
    rw [IsNotExhausted.run_bind_eq_iff hrest, hstring]
    constructor
    · rintro ⟨hnumbers, ⟨hcapacity, hcause⟩, hname⟩
      refine ⟨rfl, fun definition' hdefinition' => ?_, hcapacity, hname, hcause⟩
      rw [hdefinition] at hdefinition'
      cases hdefinition'
      exact hnumbers
    · rintro ⟨-, hnumbers, hcapacity, hname, hcause⟩
      exact ⟨hnumbers definition hdefinition, ⟨hcapacity, hcause⟩, hname⟩

end Machine

end FlowTemplate
