import FlowTemplate.Proofs.Document.Position
import FlowTemplate.Proofs.Lint.Fit
/-!
# References to states

A definition names its states in three ways: as its start, as the target of a transition, and, in
the definitions nested in it, again in these ways among the states declared there. Each reference
has its turn in the walk over the document and a location, from which it is read; it dangles if no
state of its own definition answers to it.
-/

namespace FlowTemplate.Lint

open Schema

/-! ## References -/

/-- The name of a state where a document refers to it. -/
structure Reference where
  /-- When the walk comes to it, the outermost number first. -/
  order : List Nat
  location : List Step
  target : String
  /-- The state that goes on to the target; none for a start. -/
  state : Option String
  /-- The states of the definition that the reference is part of. -/
  declared : Entries

/-- The text of a location behind that of the root. -/
def rendered : List Step → String
  | [] => ""
  | .key k :: rest => "." ++ Literal.displayAtom k ++ rendered rest
  | .index i :: rest => s!"[{i}]" ++ rendered rest

namespace Reference

/-- No state of the definition answers to the reference. -/
def IsDangling (r : Reference) : Prop := r.declared.contains r.target = false

def complaint (r : Reference) : Complaint :=
  match r.state with
  | none => .unknownStart r.target
  | some name => .unknownTarget name r.target

/-- What the linter has to say about a dangling reference in a document at a path. -/
def finding (path : String) (r : Reference) : Finding :=
  ⟨r.complaint, path ++ rendered r.location⟩

/-- A reference of a part as one of the whole. -/
def under (order : List Nat) (steps : List Step) (r : Reference) : Reference :=
  { r with order := order ++ r.order, location := steps ++ r.location }

end Reference

/-- The step to what stands under a text key. -/
abbrev field (name : String) : Step := .key (.str name)

/-- A state of some type goes on to a target. -/
inductive TransitionAt (fields : Entries) (type : String) :
    (order : List Nat) → (location : List Step) → (target : String) → Prop
  | next {target : String} : fields.find? "Next" = some (.str target) →
      TransitionAt fields type [0] [field "Next"] target
  | default {target : String} : type = "Choice" → fields.find? "Default" = some (.str target) →
      TransitionAt fields type [1] [field "Default"] target
  | choice {rules : List Value} {i : Nat} {rule : Entries} {target : String} : type = "Choice" →
      fields.find? "Choices" = some (.list rules) → rules[i]? = some (.map rule) →
      rule.find? "Next" = some (.str target) →
      TransitionAt fields type [2, i] [field "Choices", .index i, field "Next"] target
  | catcher {catchers : List Value} {i : Nat} {catcher : Entries} {target : String} :
      fields.find? "Catch" = some (.list catchers) → catchers[i]? = some (.map catcher) →
      catcher.find? "Next" = some (.str target) →
      TransitionAt fields type [3, i] [field "Catch", .index i, field "Next"] target

/-- A state of some type has a definition in it. -/
inductive NestsAt (fields : Entries) (type : String) :
    (order : List Nat) → (location : List Step) → Value → Prop
  | branch {branches : List Value} {i : Nat} {v : Value} : type = "Parallel" →
      fields.find? "Branches" = some (.list branches) → branches[i]? = some v →
      NestsAt fields type [4, i] [field "Branches", .index i] v
  | processor {v : Value} : type = "Map" → fields.find? "ItemProcessor" = some v →
      NestsAt fields type [4] [field "ItemProcessor"] v
  | iterator {v : Value} : type = "Map" → fields.find? "ItemProcessor" = none →
      fields.find? "Iterator" = some v → NestsAt fields type [4] [field "Iterator"] v

/-- A definition refers to a state, by itself or in a definition nested in it. -/
inductive Refers : Value → Reference → Prop
  | start {fields states : Entries} {start : String} :
      fields.find? "StartAt" = some (.str start) → fields.find? "States" = some (.map states) →
      Refers (.map fields) ⟨[0], [field "StartAt"], start, none, states⟩
  | transition {fields states state : Entries} {i : Nat} {k : Atom} {type target : String}
      {order : List Nat} {location : List Step} :
      fields.find? "States" = some (.map states) → states[i]? = some (k, .map state) →
      state.find? "Type" = some (.str type) → TransitionAt state type order location target →
      Refers (.map fields) ⟨1 :: i :: order, field "States" :: .key k :: location, target,
        some (Literal.displayAtom k), states⟩
  | nested {fields states state : Entries} {i : Nat} {k : Atom} {type : String}
      {order : List Nat} {location : List Step} {v : Value} {r : Reference} :
      fields.find? "States" = some (.map states) → states[i]? = some (k, .map state) →
      state.find? "Type" = some (.str type) → NestsAt state type order location v → Refers v r →
      Refers (.map fields) (r.under (1 :: i :: order) (field "States" :: .key k :: location))

/-- A value stands at a location in another one. -/
inductive StandsAt : Value → List Step → Value → Prop
  | here {v : Value} : StandsAt v [] v
  | key {entries : Entries} {k : Atom} {v w : Value} {location : List Step} : (k, v) ∈ entries →
      StandsAt v location w → StandsAt (.map entries) (.key k :: location) w
  | index {items : List Value} {i : Nat} {v w : Value} {location : List Step} :
      items[i]? = some v → StandsAt v location w →
      StandsAt (.list items) (.index i :: location) w

/-! ## The places of references -/

theorem StandsAt.trans {u v w : Value} {location rest : List Step} (h : StandsAt u location v)
    (h' : StandsAt v rest w) : StandsAt u (location ++ rest) w := by
  induction h with
  | here => exact h'
  | key hmem _ ih => exact .key hmem (ih h')
  | index hitem _ ih => exact .index hitem (ih h')

theorem StandsAt.hasOwnKeys {v w : Value} {location : List Step} (h : StandsAt v location w)
    (hv : v.HasOwnKeys) : w.HasOwnKeys := by
  induction h with
  | here => exact hv
  | key hmem _ ih => exact ih (hv.of_mem hmem)
  | index hitem _ ih => exact ih (hv.of_mem_parts (List.mem_of_getElem? hitem))

variable {fields declared : Entries} {type name path target : String} {v w : Value}
  {order : List Nat} {location : List Step} {r : Reference}

theorem standsAt_field {key : String} (h : fields.find? key = some v)
    (h' : StandsAt v location w) : StandsAt (.map fields) (field key :: location) w :=
  .key (Entries.mem_of_find? h) h'

theorem TransitionAt.standsAt (h : TransitionAt fields type order location target) :
    StandsAt (.map fields) location (.str target) := by
  cases h with
  | next h => exact standsAt_field h .here
  | default _ h => exact standsAt_field h .here
  | choice _ hrules hrule h =>
    exact standsAt_field hrules (.index hrule (standsAt_field h .here))
  | catcher hcatchers hcatcher h =>
    exact standsAt_field hcatchers (.index hcatcher (standsAt_field h .here))

theorem NestsAt.standsAt (h : NestsAt fields type order location v) :
    StandsAt (.map fields) location v := by
  cases h with
  | branch _ hbranches hv => exact standsAt_field hbranches (.index hv .here)
  | processor _ h => exact standsAt_field h .here
  | iterator _ _ h => exact standsAt_field h .here

theorem TransitionAt.head (h : TransitionAt fields type order location target) :
    ∃ n < 4, ∃ rest, order = n :: rest := by
  cases h with
  | next | default | choice | catcher => exact ⟨_, by decide, _, rfl⟩

theorem NestsAt.head (h : NestsAt fields type order location v) : ∃ rest, order = 4 :: rest := by
  cases h with
  | branch | processor | iterator => exact ⟨_, rfl⟩

/-- A reference stands at its location. -/
theorem Refers.standsAt (h : Refers v r) : StandsAt v r.location (.str r.target) := by
  induction h with
  | start hstart _ => exact standsAt_field hstart .here
  | transition hstates hstate _ htransition =>
    exact standsAt_field hstates (.key (List.mem_of_getElem? hstate) htransition.standsAt)
  | nested hstates hstate _ hnests _ ih =>
    exact standsAt_field hstates
      (.key (List.mem_of_getElem? hstate) (hnests.standsAt.trans ih))

/-! ## Places tell references apart -/

theorem TransitionAt.unique {order' : List Nat} {location' : List Step} {target' : String}
    (h : TransitionAt fields type order location target)
    (h' : TransitionAt fields type order' location' target') (heq : location = location') :
    order = order' ∧ target = target' := by
  cases h with
  | next h =>
    cases h' with
    | next h' => exact ⟨rfl, by cases find?_unique h h'; rfl⟩
    | default | choice | catcher => simp at heq
  | default _ h =>
    cases h' with
    | default _ h' => exact ⟨rfl, by cases find?_unique h h'; rfl⟩
    | next | choice | catcher => simp at heq
  | choice _ hrules hrule h =>
    cases h' with
    | choice _ hrules' hrule' h' =>
      simp only [List.cons.injEq, Step.index.injEq, and_true, true_and] at heq
      subst heq
      cases find?_unique hrules hrules'
      cases hrule.symm.trans hrule'
      cases find?_unique h h'
      exact ⟨rfl, rfl⟩
    | next | default | catcher => simp at heq
  | catcher hcatchers hcatcher h =>
    cases h' with
    | catcher hcatchers' hcatcher' h' =>
      simp only [List.cons.injEq, Step.index.injEq, and_true, true_and] at heq
      subst heq
      cases find?_unique hcatchers hcatchers'
      cases hcatcher.symm.trans hcatcher'
      cases find?_unique h h'
      exact ⟨rfl, rfl⟩
    | next | default | choice => simp at heq

/-- Behind different steps there are different nested definitions, and no steps to one go on as the
steps to another. -/
theorem NestsAt.unique {order' : List Nat} {location' rest rest' : List Step}
    (h : NestsAt fields type order location v) (h' : NestsAt fields type order' location' w)
    (heq : location ++ rest = location' ++ rest') :
    order = order' ∧ location = location' ∧ v = w ∧ rest = rest' := by
  cases h with
  | branch _ hbranches hv =>
    cases h' with
    | branch _ hbranches' hw =>
      cases find?_unique hbranches hbranches'
      simp only [List.cons_append, List.nil_append, List.cons.injEq, Step.index.injEq,
        true_and] at heq
      obtain ⟨rfl, rfl⟩ := heq
      cases hv.symm.trans hw
      exact ⟨rfl, rfl, rfl, rfl⟩
    | processor => simp at heq
    | iterator => simp at heq
  | processor _ hv =>
    cases h' with
    | branch => simp at heq
    | processor _ hw =>
      cases find?_unique hv hw
      exact ⟨rfl, rfl, rfl, by simpa using heq⟩
    | iterator => simp at heq
  | iterator _ _ hv =>
    cases h' with
    | branch => simp at heq
    | processor => simp at heq
    | iterator _ _ hw =>
      cases find?_unique hv hw
      exact ⟨rfl, rfl, rfl, by simpa using heq⟩

theorem TransitionAt.not_within {order' : List Nat} {location' rest : List Step}
    (h : TransitionAt fields type order location target)
    (h' : NestsAt fields type order' location' v) : location ≠ location' ++ rest := by
  cases h <;> cases h' <;> simp

theorem getElem?_unique {states : Entries} (hnodup : states.keys.Nodup) {i j : Nat} {k : Atom}
    (hi : states[i]? = some (k, v)) (hj : states[j]? = some (k, w)) : i = j ∧ v = w := by
  have hkey {n : Nat} {u : Value} (h : states[n]? = some (k, u)) : states.keys[n]? = some k := by
    rw [Entries.keys, List.getElem?_map, h]
    rfl
  have hlt : i < states.keys.length := (List.getElem?_eq_some_iff.mp (hkey hi)).1
  obtain rfl : i = j := (List.getElem?_inj hlt hnodup).mp ((hkey hi).trans (hkey hj).symm)
  exact ⟨rfl, by simpa using hi.symm.trans hj⟩

/-- Where no mapping holds a key twice, a definition has one state of a name. -/
theorem state_unique (hkeys : (Value.map fields).HasOwnKeys)
    {states states' state state' : Entries} {i i' : Nat} {k : Atom} {type type' : String}
    (hstates : fields.find? "States" = some (.map states))
    (hstates' : fields.find? "States" = some (.map states'))
    (hstate : states[i]? = some (k, .map state)) (hstate' : states'[i']? = some (k, .map state'))
    (htype : state.find? "Type" = some (.str type))
    (htype' : state'.find? "Type" = some (.str type')) :
    states = states' ∧ i = i' ∧ state = state' ∧ type = type' := by
  cases find?_unique hstates hstates'
  obtain ⟨rfl, hsame⟩ :=
    getElem?_unique (hkeys.of_mem (Entries.mem_of_find? hstates)).nodup hstate hstate'
  cases hsame
  cases find?_unique htype htype'
  exact ⟨rfl, rfl, rfl, rfl⟩

/-- Where no mapping holds a key twice, there is one reference at a location. -/
theorem Refers.unique {s : Reference} (h : Refers v r) (h' : Refers v s) (hkeys : v.HasOwnKeys)
    (heq : r.location = s.location) : r = s := by
  induction h generalizing s with
  | start hstart hstates =>
    cases h' with
    | start hstart' hstates' =>
      cases find?_unique hstart hstart'
      cases find?_unique hstates hstates'
      rfl
    | transition => simp at heq
    | nested => simp [Reference.under] at heq
  | transition hstates hstate htype htransition =>
    cases h' with
    | start => simp at heq
    | transition hstates' hstate' htype' htransition' =>
      simp only [List.cons.injEq, Step.key.injEq, true_and] at heq
      obtain ⟨rfl, heq⟩ := heq
      obtain ⟨rfl, rfl, rfl, rfl⟩ :=
        state_unique hkeys hstates hstates' hstate hstate' htype htype'
      obtain ⟨rfl, rfl⟩ := htransition.unique htransition' heq
      cases heq
      rfl
    | nested hstates' hstate' htype' hnests' _ =>
      simp only [Reference.under, List.cons_append, List.cons.injEq, Step.key.injEq,
        true_and] at heq
      obtain ⟨rfl, heq⟩ := heq
      obtain ⟨rfl, rfl, rfl, rfl⟩ :=
        state_unique hkeys hstates hstates' hstate hstate' htype htype'
      exact absurd heq (htransition.not_within hnests')
  | nested hstates hstate htype hnests _ ih =>
    cases h' with
    | start => simp [Reference.under] at heq
    | transition hstates' hstate' htype' htransition' =>
      simp only [Reference.under, List.cons_append, List.cons.injEq, Step.key.injEq,
        true_and] at heq
      obtain ⟨rfl, heq⟩ := heq
      obtain ⟨rfl, rfl, rfl, rfl⟩ :=
        state_unique hkeys hstates hstates' hstate hstate' htype htype'
      exact absurd heq.symm (htransition'.not_within hnests)
    | nested hstates' hstate' htype' hnests' hrefers' =>
      simp only [Reference.under, List.cons_append, List.cons.injEq, Step.key.injEq,
        true_and] at heq
      obtain ⟨rfl, heq⟩ := heq
      obtain ⟨rfl, rfl, rfl, rfl⟩ :=
        state_unique hkeys hstates hstates' hstate hstate' htype htype'
      obtain ⟨rfl, rfl, rfl, hlocation⟩ := hnests.unique hnests' heq
      have hstateKeys := (hkeys.of_mem (Entries.mem_of_find? hstates)).of_mem
        (List.mem_of_getElem? hstate)
      rw [ih hrefers' (hnests.standsAt.hasOwnKeys hstateKeys) hlocation]

/-! ## Paths -/

theorem rendered_append (steps more : List Step) :
    rendered (steps ++ more) = rendered steps ++ rendered more := by
  induction steps with
  | nil => simp [rendered]
  | cons step rest ih => cases step <;> simp [rendered, ih, String.append_assoc]

theorem text_self (s : String) : toString s = s := rfl

theorem rendered_field (path key : String) : s!"{path}.{key}" = path ++ rendered [field key] := by
  simp [rendered, Literal.displayAtom, text_self, String.append_assoc]

theorem rendered_next (path key : String) (i : Nat) :
    s!"{path}.{key}[{i}].Next" = path ++ rendered [field key, .index i, field "Next"] := by
  have hclose : "].Next" = "]" ++ ("." ++ "Next") := rfl
  simp only [rendered, Literal.displayAtom, text_self, String.append_assoc, String.append_empty,
    hclose]

theorem rendered_branch (path : String) (i : Nat) :
    s!"{path}.Branches[{i}]" = path ++ rendered [field "Branches", .index i] := by
  have hopen : ".Branches[" = "." ++ ("Branches" ++ "[") := rfl
  simp only [rendered, Literal.displayAtom, text_self, String.append_assoc, String.append_empty,
    hopen]

theorem rendered_state (path : String) (k : Atom) :
    path ++ ".States." ++ Literal.displayAtom k = path ++ rendered [field "States", .key k] := by
  have hopen : ".States." = "." ++ ("States" ++ ".") := rfl
  simp only [rendered, Literal.displayAtom, String.append_assoc, String.append_empty, hopen]

theorem finding_under (path : String) (order : List Nat) (steps : List Step) (r : Reference) :
    (r.under order steps).finding path = r.finding (path ++ rendered steps) := by
  simp only [Reference.finding, Reference.under, Reference.complaint, rendered_append,
    String.append_assoc]

end FlowTemplate.Lint
