import FlowTemplate.Intrinsic
import FlowTemplate.Proofs.Computation
/-!
# Extraction as a draw and a replacement

Extracting the intrinsics of a tree does two things that can be told apart: it draws as many names
as the tree has outermost intrinsics, and it puts the placeholders of these names in the places of
the intrinsics, in the order in which the tree is read. Both directions follow from one equation:
what a successful run yields, and that a run succeeds when the generator issues enough names.
-/

namespace FlowTemplate.Intrinsic

open FlowTemplate.Computation

variable {σ ε : Type}

/-- Draws some number of names. -/
def draws (next : Generator σ ε) : Nat → ExceptT ε (StateM σ) (List String)
  | 0 => pure []
  | n + 1 => do
    let name ← next.draw
    let names ← draws next n
    return name :: names

/-- The generator issues some names one after the other, from one state to another. -/
def Generator.Issues (next : Generator σ ε) (s : σ) (names : List String) (s' : σ) : Prop :=
  (draws next names.length).run s = (.ok names, s')

/-- The generator never issues a name twice. -/
def Generator.IsFresh (next : Generator σ ε) (s : σ) : Prop :=
  ∀ names s', next.Issues s names s' → names.Nodup

mutual

/-- A tree with other values in the places of its outermost intrinsics, in their order. -/
def fill : Value → List Value → Value
  | .list items, values => .list (fillItems items values)
  | .map entries, values =>
    if isIntrinsic (.map entries) then values.headD (.map entries)
    else .map (fillEntries entries values)
  | v, _ => v

def fillItems : List Value → List Value → List Value
  | [], _ => []
  | v :: rest, values =>
    fill v (values.take (outermost v).length) :: fillItems rest (values.drop (outermost v).length)

def fillEntries : List (Atom × Value) → List Value → List (Atom × Value)
  | [], _ => []
  | (k, v) :: rest, values =>
    (k, fill v (values.take (outermost v).length)) ::
      fillEntries rest (values.drop (outermost v).length)

end

/-! ## Draws -/

theorem run_draw (next : Generator σ ε) (s : σ) : next.draw.run s = next s := rfl

theorem run_draws_succ (next : Generator σ ε) (n : Nat) (s : σ) :
    (draws next (n + 1)).run s = match next s with
      | (.ok name, s) => match (draws next n).run s with
        | (.ok names, s) => (.ok (name :: names), s)
        | (.error e, s) => (.error e, s)
      | (.error e, s) => (.error e, s) := by
  rw [draws, run_bind, run_draw]
  rcases next s with ⟨e | name, s₁⟩
  · rfl
  · simp only [run_bind, run_pure]
    rcases (draws next n).run s₁ with ⟨e | names, s₂⟩ <;> rfl

theorem length_of_draws {next : Generator σ ε} {n : Nat} {s s' : σ} {names : List String}
    (h : (draws next n).run s = (.ok names, s')) : names.length = n := by
  induction n generalizing s names with
  | zero => cases h; rfl
  | succ n ih =>
    rw [draws] at h
    obtain ⟨name, s₁, -, h⟩ := run_bind_eq_ok h
    obtain ⟨rest, s₂, hrest, h⟩ := run_bind_eq_ok h
    cases h
    rw [List.length_cons, ih hrest]

theorem issues_of_draws {next : Generator σ ε} {n : Nat} {s s' : σ} {names : List String}
    (h : (draws next n).run s = (.ok names, s')) : next.Issues s names s' := by
  rw [Generator.Issues, length_of_draws h, h]

/-- Drawing names in two goes is drawing them in one. -/
theorem run_draws_add (next : Generator σ ε) (m n : Nat) (s : σ) :
    (draws next (m + n)).run s = match (draws next m).run s with
      | (.ok names, s) => match (draws next n).run s with
        | (.ok more, s) => (.ok (names ++ more), s)
        | (.error e, s) => (.error e, s)
      | (.error e, s) => (.error e, s) := by
  induction m generalizing s with
  | zero =>
    simp only [Nat.zero_add, draws, run_pure, List.nil_append]
    rcases (draws next n).run s with ⟨e | more, s₁⟩ <;> rfl
  | succ m ih =>
    simp only [Nat.add_right_comm m 1 n, run_draws_succ, ih]
    rcases next s with ⟨e | name, s₁⟩
    · rfl
    · simp only
      rcases (draws next m).run s₁ with ⟨e | names, s₂⟩
      · rfl
      · simp only
        rcases (draws next n).run s₂ with ⟨e | more, s₃⟩ <;> rfl

theorem Generator.Issues.append {next : Generator σ ε} {s s₁ s₂ : σ} {names more : List String}
    (h : next.Issues s names s₁) (h' : next.Issues s₁ more s₂) :
    next.Issues s (names ++ more) s₂ := by
  rw [Issues] at h h'
  rw [Issues, List.length_append, run_draws_add, h]
  simp only [h']

/-- A generator that does what another one does, on states that stand for those of the other. -/
theorem run_draws_of_next {σ' ε' : Type} {next : Generator σ ε} {next' : Generator σ' ε'}
    (state : σ → σ') (encode : ε → ε')
    (h : ∀ s, next' (state s) = ((next s).1.mapError encode, state (next s).2)) (n : Nat) (s : σ) :
    (draws next' n).run (state s) =
      (((draws next n).run s).1.mapError encode, state ((draws next n).run s).2) := by
  induction n generalizing s with
  | zero => rfl
  | succ n ih =>
    rw [run_draws_succ, run_draws_succ, h]
    rcases next s with ⟨e | name, s₁⟩
    · rfl
    · have hname : (Except.ok name : Except ε String).mapError encode = .ok name := rfl
      simp only [hname, ih]
      rcases (draws next n).run s₁ with ⟨e | names, s₂⟩ <;> rfl

/-! ## Extraction -/

/-- The outcome of a run with what it yields put to use. -/
def outcome {α β : Type} (f : α → β) (run : Except ε α × σ) : Except ε β × σ :=
  (run.1.map f, run.2)

/-- The values that stand for names in a tree. -/
def placeholders (names : List String) : List Value := names.map fun name => .str (placeholder name)

mutual

/-- Extraction draws a name for each outermost intrinsic, puts placeholders in their places and
keeps each intrinsic beside its name. -/
theorem run_extract (next : Generator σ ε) : (v : Value) → (s : σ) →
    (extract next v).run s =
      outcome (fun names => (fill v (placeholders names), names.zip (outermost v)))
        ((draws next (outermost v).length).run s)
  | .atom _, _ | .tuple _, _ | .set _, _ | .anchored .., _ | .again _, _ => rfl
  | .list items, s => by
    rw [extract, run_bind, run_extractItems next items s, outermost]
    rcases (draws next (outermostItems items).length).run s with ⟨e | names, s₁⟩ <;> rfl
  | .map entries, s => by
    rw [extract, outermost]
    by_cases h : isIntrinsic (.map entries) = true
    · rw [if_pos h, if_pos h, run_bind, run_draw, List.length_singleton, run_draws_succ]
      rcases next s with ⟨e | name, s₁⟩
      · rfl
      · simp [draws, run_pure, outcome, placeholders, fill, h, Except.map]
    · rw [if_neg h, if_neg h, run_bind, run_extractEntries next entries s]
      rcases (draws next (outermostEntries entries).length).run s with ⟨e | names, s₁⟩
      · rfl
      · simp [run_pure, outcome, fill, h, Except.map]

theorem run_extractItems (next : Generator σ ε) : (items : List Value) → (s : σ) →
    (extractItems next items).run s =
      outcome
        (fun names => (fillItems items (placeholders names), names.zip (outermostItems items)))
        ((draws next (outermostItems items).length).run s)
  | [], _ => rfl
  | v :: rest, s => by
    rw [extractItems, run_bind, run_extract next v s, outermostItems, List.length_append,
      run_draws_add]
    rcases hv : (draws next (outermost v).length).run s with ⟨e | names, s₁⟩
    · rfl
    · simp only [outcome, Except.map, run_bind, run_extractItems next rest s₁]
      rcases (draws next (outermostItems rest).length).run s₁ with ⟨e | more, s₂⟩
      · rfl
      · have hlength := length_of_draws hv
        simp [run_pure, placeholders, fillItems, hlength, List.zip_append]

theorem run_extractEntries (next : Generator σ ε) : (entries : List (Atom × Value)) → (s : σ) →
    (extractEntries next entries).run s =
      outcome
        (fun names =>
          (fillEntries entries (placeholders names), names.zip (outermostEntries entries)))
        ((draws next (outermostEntries entries).length).run s)
  | [], _ => rfl
  | (k, v) :: rest, s => by
    rw [extractEntries, run_bind, run_extract next v s, outermostEntries, List.length_append,
      run_draws_add]
    rcases hv : (draws next (outermost v).length).run s with ⟨e | names, s₁⟩
    · rfl
    · simp only [outcome, Except.map, run_bind, run_extractEntries next rest s₁]
      rcases (draws next (outermostEntries rest).length).run s₁ with ⟨e | more, s₂⟩
      · rfl
      · have hlength := length_of_draws hv
        simp [run_pure, placeholders, fillEntries, hlength, List.zip_append]

end

end FlowTemplate.Intrinsic
