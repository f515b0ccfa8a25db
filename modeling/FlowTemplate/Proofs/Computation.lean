/-!
# Running computations that fail and carry a state

A computation of a pass runs from a state to an outcome and a state, which a failure leaves behind
too. What is done one after the other runs one after the other, up to the first failure.
-/

namespace FlowTemplate.Computation

variable {σ γ ε ε' α β : Type}

theorem run_pure (a : α) (s : σ) : (pure a : ExceptT ε (StateM σ) α).run s = (.ok a, s) := rfl

theorem run_bind (x : ExceptT ε (StateM σ) α) (f : α → ExceptT ε (StateM σ) β) (s : σ) :
    (x >>= f).run s = match x.run s with
      | (.ok a, s) => (f a).run s
      | (.error e, s) => (.error e, s) := by
  change ExceptT.bindCont f (x.run s).1 (x.run s).2 = _
  rcases x.run s with ⟨_ | a, s₁⟩ <;> rfl

theorem run_bind_of_ok {x : ExceptT ε (StateM σ) α} {s s' : σ} {a : α}
    (h : x.run s = (.ok a, s')) (f : α → ExceptT ε (StateM σ) β) :
    (x >>= f).run s = (f a).run s' := by
  rw [run_bind, h]

theorem run_bind_of_error {x : ExceptT ε (StateM σ) α} {s s' : σ} {e : ε}
    (h : x.run s = (.error e, s')) (f : α → ExceptT ε (StateM σ) β) :
    (x >>= f).run s = (.error e, s') := by
  rw [run_bind, h]

/-- A sequence succeeds when both steps do. -/
theorem run_bind_eq_ok {x : ExceptT ε (StateM σ) α} {f : α → ExceptT ε (StateM σ) β} {s s' : σ}
    {b : β} (h : (x >>= f).run s = (.ok b, s')) :
    ∃ a s₁, x.run s = (.ok a, s₁) ∧ (f a).run s₁ = (.ok b, s') := by
  rcases hx : x.run s with ⟨_ | a, s₁⟩
  · rw [run_bind_of_error hx] at h
    cases h
  · rw [run_bind_of_ok hx] at h
    exact ⟨a, s₁, rfl, h⟩

theorem run_adapt (x : ExceptT ε (StateM σ) α) (f : ε → ε') (s : σ) :
    (x.adapt f).run s = match x.run s with
      | (.ok a, s) => (.ok a, s)
      | (.error e, s) => (.error (f e), s) := by
  change (Except.mapError f (x.run s).1, (x.run s).2) = _
  rcases x.run s with ⟨_ | a, s₁⟩ <;> rfl

/-- Two computations end alike, and as far as `core` looks at a state they leave the same one behind,
whenever they start from states that are the same so far. -/
def Alike (core : σ → γ) (x y : ExceptT ε (StateM σ) α) : Prop :=
  ∀ s s', core s = core s' →
    (x.run s).1 = (y.run s').1 ∧ core (x.run s).2 = core (y.run s').2

theorem Alike.bind {core : σ → γ} {x y : ExceptT ε (StateM σ) α}
    {f g : α → ExceptT ε (StateM σ) β} (hxy : Alike core x y)
    (hfg : ∀ a, Alike core (f a) (g a)) : Alike core (x >>= f) (y >>= g) := by
  intro s s' h
  obtain ⟨houtcome, hcore⟩ := hxy s s' h
  rw [run_bind, run_bind]
  revert houtcome hcore
  rcases x.run s with ⟨e | a, t⟩ <;> rcases y.run s' with ⟨e' | a', t'⟩ <;>
    intro houtcome hcore <;> cases houtcome
  · exact ⟨rfl, hcore⟩
  · exact hfg a t t' hcore

/-! ## Failures without a state -/

theorem bind_eq_ok {x : Except ε α} {f : α → Except ε β} {b : β} (h : (x >>= f) = .ok b) :
    ∃ a, x = .ok a ∧ f a = .ok b := by
  cases x with
  | error e => cases h
  | ok a => exact ⟨a, rfl, h⟩

theorem bind_of_ok {x : Except ε α} {a : α} (h : x = .ok a) (f : α → Except ε β) :
    (x >>= f) = f a := by
  rw [h]
  rfl

/-- Where everything in a list has a result, the list has that of the results. -/
theorem mapM_of_ok {f : α → Except ε β} {g : α → β} (as : List α)
    (h : ∀ a ∈ as, f a = .ok (g a)) : as.mapM f = .ok (as.map g) := by
  induction as with
  | nil => rfl
  | cons a as ih =>
    obtain ⟨ha, has⟩ := List.forall_mem_cons.mp h
    rw [List.mapM_cons, bind_of_ok ha, bind_of_ok (ih has), List.map_cons]
    rfl

/-- What is done to every item is done to changed items as to the items, up to the change. -/
theorem mapM_map {f : α → Except ε β} {c : α → α} {d : β → β} (h : ∀ a, f (c a) = (f a).map d)
    (as : List α) : (as.map c).mapM f = (as.mapM f).map (List.map d) := by
  induction as with
  | nil => rfl
  | cons a as ih =>
    rw [List.map_cons, List.mapM_cons, List.mapM_cons, ih, h]
    rcases f a with e | b
    · rfl
    · rcases as.mapM f with e | bs <;> rfl

theorem map_bind {f : β → β} {x : Except ε α} {k k' : α → Except ε β}
    (h : ∀ a, k' a = (k a).map f) : (x >>= k') = (x >>= k).map f := by
  cases x with
  | error e => rfl
  | ok a => exact h a

/-- A computation has succeeded with a result that meets a check. -/
def okWith (check : α → Bool) : Except ε α → Bool
  | .ok a => check a
  | .error _ => false

theorem exists_of_okWith {check : α → Bool} {x : Except ε α} (h : okWith check x = true) :
    ∃ a, x = .ok a ∧ check a = true := by
  cases x with
  | error e => cases h
  | ok a => exact ⟨a, rfl, h⟩

theorem mapError_ok (f : ε → ε') (a : α) : (Except.ok a : Except ε α).mapError f = .ok a := rfl

theorem mapError_eq_ok {x : Except ε α} {f : ε → ε'} {a : α} (h : x.mapError f = .ok a) :
    x = .ok a := by
  cases x with
  | error e => cases h
  | ok b => cases h; rfl

theorem exists_of_mapError {x : Except ε α} {f : ε → ε'} {e' : ε'} (h : x.mapError f = .error e') :
    ∃ e, x = .error e ∧ f e = e' := by
  cases x with
  | error e => cases h; exact ⟨e, rfl, rfl⟩
  | ok a => cases h

theorem eq_ok_of_isOk {ε : Type} {result : Except ε Unit} (h : result.isOk = true) :
    result = .ok () := by
  cases result with
  | error e => cases h
  | ok u => rfl

/-! ## Failures that are known beforehand -/

/-- The result is the failure that was foretold; where none was, there is none. -/
def FailsAs (failure? : Option ε) (result : Except ε α) : Prop :=
  match failure? with
  | some e => result = .error e
  | none => ∃ a, result = .ok a

variable {failure? : Option ε} {result : Except ε α}

theorem FailsAs.map (h : FailsAs failure? result) (f : α → β) : FailsAs failure? (result.map f) := by
  cases failure? with
  | some e =>
    have h : result = .error e := h
    rw [h]
    rfl
  | none =>
    obtain ⟨a, rfl⟩ := h
    exact ⟨f a, rfl⟩

theorem FailsAs.mapError (h : FailsAs failure? result) (f : ε → ε') :
    FailsAs (failure?.map f) (result.mapError f) := by
  cases failure? with
  | some e =>
    have h : result = .error e := h
    rw [h]
    rfl
  | none =>
    obtain ⟨a, rfl⟩ := h
    exact ⟨a, rfl⟩

theorem FailsAs.eq_some {e : ε} (h : FailsAs failure? (.error e : Except ε α)) :
    failure? = some e := by
  cases failure? with
  | some e' =>
    have h : (Except.error e : Except ε α) = .error e' := h
    cases h
    rfl
  | none =>
    obtain ⟨a, ha⟩ := h
    cases ha

/-- Of things done one after the other the first that fails decides. -/
theorem failsAs_mapM {f : α → Except ε β} {failureOf? : α → Option ε} (as : List α)
    (h : ∀ a ∈ as, FailsAs (failureOf? a) (f a)) :
    FailsAs (as.findSome? failureOf?) (as.mapM f) := by
  induction as with
  | nil => exact ⟨[], rfl⟩
  | cons a as ih =>
    obtain ⟨ha, has⟩ := List.forall_mem_cons.mp h
    have ih := ih has
    rw [List.mapM_cons, List.findSome?_cons]
    cases hfailure : failureOf? a with
    | some e =>
      rw [hfailure] at ha
      have ha : f a = .error e := ha
      rw [ha]
      rfl
    | none =>
      rw [hfailure] at ha
      obtain ⟨b, hb⟩ := ha
      rw [hb]
      exact ih.map fun bs => b :: bs

/-- Everything has a result of which something holds exactly if all of them do. -/
theorem exists_mapM_all_iff {f : α → Except ε β} {p : β → Bool} (as : List α) :
    (∃ bs, as.mapM f = .ok bs ∧ bs.all p = true) ↔ ∀ a ∈ as, ∃ b, f a = .ok b ∧ p b = true := by
  induction as with
  | nil => exact iff_of_true ⟨[], rfl, rfl⟩ fun a ha => absurd ha List.not_mem_nil
  | cons a as ih =>
    rw [List.forall_mem_cons, ← ih, List.mapM_cons]
    constructor
    · rintro ⟨bs, hbs, hall⟩
      obtain ⟨b, hb, hbs⟩ := bind_eq_ok hbs
      obtain ⟨rest, hrest, hbs⟩ := bind_eq_ok hbs
      cases hbs
      obtain ⟨hp, hall⟩ := Bool.and_eq_true_iff.mp (List.all_cons ▸ hall)
      exact ⟨⟨b, hb, hp⟩, rest, hrest, hall⟩
    · rintro ⟨⟨b, hb, hp⟩, rest, hrest, hall⟩
      refine ⟨b :: rest, ?_, by rw [List.all_cons, hp, hall]; rfl⟩
      rw [hb, hrest]
      rfl

/-- Of two steps the second is tried only where the first does not fail. -/
theorem failsAs_run_bind {x : ExceptT ε (StateM σ) α} {f : α → ExceptT ε (StateM σ) β} {s : σ}
    {first? second? : Option ε} (hx : FailsAs first? (x.run s).1)
    (hf : ∀ a s', x.run s = (.ok a, s') → FailsAs second? ((f a).run s').1) :
    FailsAs (first? <|> second?) ((x >>= f).run s).1 := by
  rcases hrun : x.run s with ⟨e | a, s'⟩
  · rw [hrun] at hx
    rw [run_bind_of_error hrun, hx.eq_some]
    rfl
  · rw [hrun] at hx
    rw [run_bind_of_ok hrun]
    cases first? with
    | some e => cases hx
    | none => exact hf a s' hrun

/-! ## Failures of one kind -/

/-- Every error that a computation may end with is of one kind. -/
def FailsOnly (kind : ε → Prop) (x : ExceptT ε (StateM σ) α) : Prop :=
  ∀ s e s', x.run s = (.error e, s') → kind e

/-- The second step of a sequence may rely on what the first one has come to. -/
theorem FailsOnly.bind {kind : ε → Prop} {x : ExceptT ε (StateM σ) α}
    {f : α → ExceptT ε (StateM σ) β} (hx : FailsOnly kind x)
    (hf : ∀ a s s', x.run s = (.ok a, s') → FailsOnly kind (f a)) : FailsOnly kind (x >>= f) := by
  intro s e t h
  rcases hrun : x.run s with ⟨e' | a, s'⟩
  · rw [run_bind_of_error hrun] at h
    cases h
    exact hx s e _ hrun
  · rw [run_bind_of_ok hrun] at h
    exact hf a s s' hrun s' e t h

end FlowTemplate.Computation
