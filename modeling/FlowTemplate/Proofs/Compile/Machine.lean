import FlowTemplate.Compile.Machine
import FlowTemplate.Proofs.Definition.Build
import FlowTemplate.Proofs.Placeholder.Source
/-!
# What one compilation depends on

Compiling a state machine writes to the log but never reads it; of the source of names it uses up
one name for each outermost intrinsic of the definition; and all that it asks of the template is how
references are pinned.
-/

namespace FlowTemplate

open FlowTemplate.Computation

open Intrinsic in
/-- A session draws names as its source does. -/
theorem Session.run_draws_nextToken (n : Nat) (s : Session) :
    (draws nextToken n).run s = (((draws TokenSource.next n).run s.tokens).1,
      { s with tokens := ((draws TokenSource.next n).run s.tokens).2 }) := by
  have hid {α : Type} (result : Except TokenFailure α) : result.mapError id = result := by
    cases result <;> rfl
  have hnext (tokens : TokenSource) : nextToken { s with tokens } =
      (tokens.next.1.mapError id, { s with tokens := tokens.next.2 }) := by
    rw [hid]
    rfl
  have hdraws := run_draws_of_next (fun tokens => ({ s with tokens } : Session)) id hnext n s.tokens
  rwa [hid] at hdraws

namespace Compile

variable {ε ε' α β : Type}

/-- The outcome and the use of names do not depend on what has been logged. -/
def IgnoresLog (x : ExceptT ε (StateM Session) α) : Prop :=
  ∀ s s' : Session, s.tokens = s'.tokens →
    (x.run s).1 = (x.run s').1 ∧ (x.run s).2.tokens = (x.run s').2.tokens

/-- When the computation succeeds, a counter is some names further. -/
def Advances (x : ExceptT ε (StateM Session) α) (n : Nat) : Prop :=
  ∀ c log a s', x.run ⟨.counted c, log⟩ = (.ok a, s') → s'.tokens = .counted (c.advanced n)

theorem run_lift_eq_ok {encode : ε → CompileError} {result : Except ε α} {a : α}
    {s s' : Session} (h : (lift encode result).run s = (.ok a, s')) : result = .ok a ∧ s' = s := by
  cases result with
  | error e => cases h
  | ok b =>
    cases h
    exact ⟨rfl, rfl⟩

/-! ## Nothing depends on the log -/

theorem ignoresLog_pure (a : α) : IgnoresLog (pure a : ExceptT ε (StateM Session) α) :=
  fun _ _ h => ⟨rfl, h⟩

theorem ignoresLog_throw (e : ε) : IgnoresLog (throw e : ExceptT ε (StateM Session) α) :=
  fun _ _ h => ⟨rfl, h⟩

theorem ignoresLog_tell (level : Log.Level) (message : String) : IgnoresLog (tell level message) :=
  fun _ _ h => ⟨rfl, h⟩

theorem ignoresLog_lift (encode : ε → CompileError) (result : Except ε α) :
    IgnoresLog (lift encode result) := by
  cases result with
  | ok a => exact ignoresLog_pure a
  | error e => exact ignoresLog_throw (encode e)

theorem IgnoresLog.alike {x : ExceptT ε (StateM Session) α} (h : IgnoresLog x) :
    Alike Session.tokens x x := h

theorem IgnoresLog.bind {x : ExceptT ε (StateM Session) α} {f : α → ExceptT ε (StateM Session) β}
    (hx : IgnoresLog x) (hf : ∀ a, IgnoresLog (f a)) : IgnoresLog (x >>= f) :=
  hx.alike.bind hf

theorem IgnoresLog.adapt {x : ExceptT ε (StateM Session) α} (hx : IgnoresLog x) (f : ε → ε') :
    IgnoresLog (x.adapt f) := by
  intro s s' h
  obtain ⟨houtcome, htokens⟩ := hx s s' h
  rw [run_adapt, run_adapt]
  revert houtcome htokens
  rcases x.run s with ⟨e | a, t⟩ <;> rcases x.run s' with ⟨e' | a', t'⟩ <;>
    intro houtcome htokens <;> cases houtcome
  · exact ⟨rfl, htokens⟩
  · exact ⟨rfl, htokens⟩

theorem ignoresLog_draws (n : Nat) : IgnoresLog (Intrinsic.draws Session.nextToken n) := by
  intro s s' h
  rw [Session.run_draws_nextToken, Session.run_draws_nextToken, h]
  exact ⟨rfl, rfl⟩

theorem ignoresLog_extract (tree : Value) :
    IgnoresLog (Intrinsic.extract Session.nextToken tree) := by
  intro s s' h
  obtain ⟨houtcome, htokens⟩ := ignoresLog_draws (Intrinsic.outermost tree).length s s' h
  rw [Intrinsic.run_extract, Intrinsic.run_extract, Intrinsic.outcome, Intrinsic.outcome, houtcome]
  exact ⟨rfl, htokens⟩

theorem ignoresLog_build (style : Json.Style) (resolve : Value → Value) (definition : Value) :
    IgnoresLog (DefinitionString.build style Session.nextToken resolve definition) := by
  unfold DefinitionString.build
  split
  · exact ignoresLog_pure _
  · refine ((ignoresLog_extract definition).adapt _).bind fun (tree, parameters) => ?_
    dsimp only
    split
    · exact ignoresLog_pure _
    · exact ignoresLog_throw _

/-! ## Names are used up one by one -/

theorem advances_pure (a : α) : Advances (pure a : ExceptT ε (StateM Session) α) 0 := by
  intro c log b s' h
  cases h
  rfl

theorem advances_throw (e : ε) (n : Nat) : Advances (throw e : ExceptT ε (StateM Session) α) n := by
  intro c log b s' h
  cases h

theorem advances_tell (level : Log.Level) (message : String) : Advances (tell level message) 0 := by
  intro c log b s' h
  cases h
  rfl

theorem advances_lift (encode : ε → CompileError) (result : Except ε α) :
    Advances (lift encode result) 0 := by
  cases result with
  | ok a => exact advances_pure a
  | error e => exact advances_throw (encode e) 0

theorem Advances.bind {x : ExceptT ε (StateM Session) α} {f : α → ExceptT ε (StateM Session) β}
    {m n : Nat} (hx : Advances x m) (hf : ∀ a, Advances (f a) n) : Advances (x >>= f) (m + n) := by
  intro c log b s' h
  obtain ⟨a, t, hrun, hrest⟩ := run_bind_eq_ok h
  obtain ⟨tokens, log'⟩ := t
  have htokens : tokens = .counted (c.advanced m) := hx c log a _ hrun
  subst htokens
  rw [hf a _ log' b s' hrest, Counter.advanced_advanced]

theorem Advances.bind_left {x : ExceptT ε (StateM Session) α}
    {f : α → ExceptT ε (StateM Session) β} {n : Nat} (hx : Advances x n)
    (hf : ∀ a, Advances (f a) 0) : Advances (x >>= f) n :=
  hx.bind hf

theorem Advances.bind_right {x : ExceptT ε (StateM Session) α}
    {f : α → ExceptT ε (StateM Session) β} {n : Nat} (hx : Advances x 0)
    (hf : ∀ a, Advances (f a) n) : Advances (x >>= f) n := by
  have h := hx.bind hf
  rwa [Nat.zero_add] at h

theorem Advances.adapt {x : ExceptT ε (StateM Session) α} {n : Nat} (hx : Advances x n)
    (f : ε → ε') : Advances (x.adapt f) n := by
  intro c log a s' h
  rw [run_adapt] at h
  rcases hrun : x.run ⟨.counted c, log⟩ with ⟨e | b, t⟩
  · rw [hrun] at h
    cases h
  · rw [hrun] at h
    cases h
    exact hx c log a _ hrun

theorem advances_draws (n : Nat) : Advances (Intrinsic.draws Session.nextToken n) n := by
  intro c log names s' h
  rw [Session.run_draws_nextToken] at h
  obtain ⟨hnames, rfl⟩ := Prod.mk.inj h
  have hrun : (Intrinsic.draws TokenSource.next n).run (.counted c) = (.ok names, _) :=
    Prod.ext hnames rfl
  have htokens := (TokenSource.issues_counted (Intrinsic.issues_of_draws hrun)).2.1
  rw [Intrinsic.length_of_draws hrun] at htokens
  exact htokens

theorem advances_build (style : Json.Style) (resolve : Value → Value) (definition : Value) :
    Advances (DefinitionString.build style Session.nextToken resolve definition)
      (Intrinsic.outermost definition).length := by
  unfold DefinitionString.build
  split
  · exact advances_pure _
  · have hextract : Advances (Intrinsic.extract Session.nextToken definition)
        (Intrinsic.outermost definition).length := by
      intro c log a s' h
      rw [Intrinsic.run_extract] at h
      rcases hrun : (Intrinsic.draws Session.nextToken _).run ⟨.counted c, log⟩ with ⟨e | names, t⟩
      · rw [hrun] at h
        cases h
      · rw [hrun] at h
        cases h
        exact advances_draws _ c log names _ hrun
    refine (hextract.adapt _).bind_left fun (tree, parameters) => ?_
    dsimp only
    split
    · exact advances_pure _
    · exact advances_throw _ _

end Compile

namespace Machine

open Compile

/-- The checks of a block that come before anything is compiled. -/
def checks (context : Context) (name : String) (machine : Value) : Compile Unit := do
  Compile.lift id (checkShape name machine)
  if context.lints then lint name machine else return ()

/-- The compilation of a block that has been checked. -/
def compileChecked (context : Context) (template : Value) (name : String) (machine : Value) :
    Compile CompiledMachine := do
  let definition ← definitionString context name machine
  let definition ← Compile.lift id (pinned context template name machine definition)
  Compile.lift id (assemble context name machine definition)

theorem compile_eq (context : Context) (template : Value) (name : String) (machine : Value) :
    compile context template name machine =
      checks context name machine >>= fun _ => compileChecked context template name machine := by
  unfold compile checks
  rw [bind_assoc]
  refine congrArg _ (funext fun _ => ?_)
  by_cases h : context.lints = true
  · rw [if_pos h, if_pos h]
    rfl
  · rw [if_neg h, if_neg h]
    rfl

theorem ignoresLog_lint (name : String) (machine : Value) : IgnoresLog (lint name machine) := by
  refine (ignoresLog_lift _ _).bind fun _ => (ignoresLog_lift _ _).bind fun definition => ?_
  dsimp only
  split
  · exact ignoresLog_tell _ _
  · exact ignoresLog_throw _

theorem ignoresLog_definitionString (context : Context) (name : String) (machine : Value) :
    IgnoresLog (definitionString context name machine) := by
  refine (ignoresLog_lift _ _).bind fun definition => ?_
  dsimp only
  split
  · exact ignoresLog_throw _
  · refine ((ignoresLog_build _ _ _).adapt _).bind fun built => ?_
    split
    · exact ignoresLog_pure _
    · exact (ignoresLog_tell _ _).bind fun _ => ignoresLog_pure _

theorem ignoresLog_compileChecked (context : Context) (template : Value) (name : String)
    (machine : Value) : IgnoresLog (compileChecked context template name machine) :=
  (ignoresLog_definitionString context name machine).bind
    fun _ => (ignoresLog_lift _ _).bind fun _ => ignoresLog_lift _ _

theorem ignoresLog_compile (context : Context) (template : Value) (name : String)
    (machine : Value) : IgnoresLog (compile context template name machine) := by
  have hchecks : IgnoresLog (checks context name machine) := by
    refine (ignoresLog_lift _ _).bind fun _ => ?_
    split
    · exact ignoresLog_lint name machine
    · exact ignoresLog_pure ()
  rw [compile_eq]
  exact hchecks.bind fun _ => ignoresLog_compileChecked context template name machine

/-- How many names the definition of a block uses up. -/
def intrinsicCount (machine : Value) : Nat :=
  match definition machine with
  | .ok definition => (Intrinsic.outermost definition).length
  | .error _ => 0

theorem advances_lint (name : String) (machine : Value) : Advances (lint name machine) 0 := by
  refine (advances_lift _ _).bind_right fun _ => (advances_lift _ _).bind_right fun definition => ?_
  dsimp only
  split
  · exact advances_tell _ _
  · exact advances_throw _ _

theorem advances_definitionString (context : Context) (name : String) (machine : Value) :
    Advances (definitionString context name machine) (intrinsicCount machine) := by
  unfold definitionString intrinsicCount
  cases definition machine with
  | error m => exact advances_throw _ _
  | ok definition =>
    change Advances (if definition.hasNumbers then _ else _) _
    dsimp only
    split
    · exact advances_throw _ _
    · refine ((advances_build _ _ _).adapt _).bind_left fun built => ?_
      split
      · exact advances_pure _
      · exact (advances_tell _ _).bind_left fun _ => advances_pure _

theorem advances_compile (context : Context) (template : Value) (name : String) (machine : Value) :
    Advances (compile context template name machine) (intrinsicCount machine) := by
  have hchecks : Advances (checks context name machine) 0 := by
    refine (advances_lift _ _).bind_right fun _ => ?_
    split
    · exact advances_lint name machine
    · exact advances_pure ()
  rw [compile_eq]
  exact hchecks.bind_right fun _ => (advances_definitionString context name machine).bind_left
    fun definition => (advances_lift _ _).bind_left fun definition => advances_lift _ _

/-! ## The template and the result -/

/-- Templates in which references are pinned alike compile alike. -/
theorem compile_congr {context : Context} {template template' : Value}
    (h : ∀ v, context.pin template v = context.pin template' v) (name : String) (machine : Value) :
    compile context template name machine = compile context template' name machine := by
  have hpin : context.pin template = context.pin template' := funext h
  have hpinned : pinned context template = pinned context template' := by
    funext name machine definition
    rw [pinned, pinned, hpin]
  rw [compile, compile, hpinned]

/-- A compilation that succeeds has passed its checks, made a definition string, pinned it and put
the machine together. Only the first two of these steps see the session. -/
theorem stages_of_compile {context : Context} {template : Value} {name : String} {machine : Value}
    {s s' : Session} {compiled : CompiledMachine}
    (h : (compile context template name machine).run s = (.ok compiled, s')) :
    ∃ s₁ built result, (checks context name machine).run s = (.ok (), s₁) ∧
      (definitionString context name machine).run s₁ = (.ok built, s') ∧
      pinned context template name machine built = .ok result ∧
      assemble context name machine result = .ok compiled := by
  rw [compile_eq] at h
  obtain ⟨_, s₁, hchecks, hchecked⟩ := run_bind_eq_ok h
  obtain ⟨built, s₂, hbuilt, hrest⟩ := run_bind_eq_ok hchecked
  obtain ⟨result, s₃, hlift, hlast⟩ := run_bind_eq_ok hrest
  obtain ⟨hpinned, rfl⟩ := run_lift_eq_ok hlift
  obtain ⟨hassemble, rfl⟩ := run_lift_eq_ok hlast
  exact ⟨s₁, built, result, hchecks, hbuilt, hpinned, hassemble⟩

end Machine

end FlowTemplate
