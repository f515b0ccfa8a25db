import FlowTemplate.Proofs.Lint.Root
/-!
# Definitions in accepted definitions

Where the linter has nothing against a definition, it has nothing against any definition nested in
it that it visits, given that one alone. Of a `Map` state it visits one definition: next to an
`ItemProcessor`, it passes over an `Iterator`.
-/

namespace FlowTemplate.Lint

open Schema

variable {fields declared states : Entries} {name path key : String} {v w : Value}

/-! ## Nesting -/

/-- A state holds a definition under a key: as a branch of a `Parallel` state, or as what a `Map`
state does for each item, for which there are two keys. -/
inductive HeldUnder (state : Entries) : (key : String) → Value → Prop
  | branch {held v : Value} {branches : List Value} : state.find? "Type" = some (.str "Parallel") →
      state.find? "Branches" = some held → items? held = some branches → v ∈ branches →
      HeldUnder state "Branches" v
  | item {key : String} {v : Value} : state.find? "Type" = some (.str "Map") →
      key ∈ ["ItemProcessor", "Iterator"] → state.find? key = some v → HeldUnder state key v

/-- The linter visits what a state holds under a key. -/
def IsVisited (state : Entries) (key : String) : Prop :=
  key = "Iterator" → state.contains "ItemProcessor" = false

instance (state : Entries) (key : String) : Decidable (IsVisited state key) :=
  inferInstanceAs (Decidable (key = "Iterator" → state.contains "ItemProcessor" = false))

/-- A definition has another one in it, at any depth, where the states in between hold definitions
under keys as `p` says. -/
inductive NestedBy (p : Entries → String → Prop) : Value → Value → Prop
  | held {v declared s w : Value} {fields states state : Entries} {k : Atom} {key : String} :
      v.entries? = some fields → fields.find? "States" = some declared →
      declared.entries? = some states → (k, s) ∈ states → s.entries? = some state →
      HeldUnder state key w → p state key → NestedBy p v w
  | trans {u v w : Value} : NestedBy p u v → NestedBy p v w → NestedBy p u w

/-! ## Numbers in front of containers -/

theorem bare_of_entries? (h : v.entries? = some fields) : v.bare = .map fields := by
  rw [Value.entries?] at h
  split at h
  · rename_i hbare
    rw [hbare, Option.some.inj h]
  · cases h

theorem bare_of_items? {branches : List Value} (h : items? v = some branches) :
    v.bare = .list branches := by
  rw [items?] at h
  split at h
  · rename_i hbare
    rw [hbare, Option.some.inj h]
  · cases h

/-- A walk that passes over numbers finds the same in a container without them. -/
theorem look_bare (look : Value → List Finding) (h : ∀ n v, look (.anchored n v) = look v) :
    (v : Value) → look v.bare = look v
  | .anchored n v => by rw [Value.bare, look_bare look h v, h]
  | .atom _ | .list _ | .tuple _ | .set _ | .map _ | .again _ => rfl

theorem definitionFindings_of_entries? (h : v.entries? = some fields) :
    definitionFindings path v = definitionFindings path (.map fields) := by
  have hbare := look_bare (definitionFindings path) (fun _ _ => by rw [definitionFindings]) v
  rw [← hbare, bare_of_entries? h]

theorem declaredFindings_of_entries? (h : v.entries? = some states) :
    declaredFindings path v = eachStateFindings states path states := by
  have hbare := look_bare (declaredFindings path) (fun _ _ => by rw [declaredFindings]) v
  rw [← hbare, bare_of_entries? h, declaredFindings]

theorem stateFindings_of_entries? (h : v.entries? = some fields) :
    stateFindings declared name path v = stateFindings declared name path (.map fields) := by
  have hbare := look_bare (stateFindings declared name path) (fun _ _ => by rw [stateFindings]) v
  rw [← hbare, bare_of_entries? h]

theorem branchListFindings_of_items? {branches : List Value} (h : items? v = some branches) :
    branchListFindings path v = eachBranchFindings path 0 branches := by
  have hbare := look_bare (branchListFindings path) (fun _ _ => by rw [branchListFindings]) v
  rw [← hbare, bare_of_items? h, branchListFindings]

/-! ## Walks that find nothing -/

theorem definitionFindings_map_eq_nil_iff : definitionFindings path (.map fields) = [] ↔
    shapeFindings definitionShape path (.map fields) = [] ∧
      startFindings path fields = [] ∧ statesFindings path fields = [] := by
  rw [definitionFindings]
  split
  · rw [List.append_eq_nil_iff]
    exact (and_iff_right ‹_›).symm
  · rename_i hshape
    exact iff_of_false hshape fun h => hshape h.1

theorem stateFindings_map_eq_nil_iff : stateFindings declared name path (.map fields) = [] ↔
    shapeFindings stateShape path (.map fields) = [] ∧
      (continuationFindings name path fields = [] ∧ targetFindings declared name path fields = []) ∧
        withinFindings fields (textAt fields "Type") path = [] := by
  rw [stateFindings]
  split
  · rw [List.append_eq_nil_iff, List.append_eq_nil_iff]
    exact (and_iff_right ‹_›).symm
  · rename_i hshape
    exact iff_of_false hshape fun h => hshape h.1

theorem eachStateFindings_eq_nil_iff_forall : eachStateFindings declared path states = [] ↔
    ∀ entry ∈ states, stateFindings declared (Literal.displayAtom entry.1)
      (path ++ ".States." ++ Literal.displayAtom entry.1) entry.2 = [] := by
  rw [eachStateFindings_eq_flatten, List.flatten_eq_nil_iff, List.forall_mem_map]

/-- Whether anything is found in a definition does not depend on where it stands. -/
theorem definitionFindings_eq_nil_iff (v : Value) (path other : String) :
    definitionFindings path v = [] ↔ definitionFindings other v = [] :=
  (rooted_definition v).eq_nil_iff path other

theorem eachBranchFindings_eq_nil_iff_forall {branches : List Value} (index : Nat) :
    eachBranchFindings path index branches = [] ↔
      ∀ w ∈ branches, definitionFindings "$" w = [] := by
  induction branches generalizing index with
  | nil => simp [eachBranchFindings]
  | cons branch rest ih =>
    rw [eachBranchFindings, List.append_eq_nil_iff, ih, List.forall_mem_cons,
      definitionFindings_eq_nil_iff branch _ "$"]

/-! ## What is held and visited -/

theorem itemKey_of_isVisited (hkey : key ∈ ["ItemProcessor", "Iterator"])
    (hfind : fields.find? key = some v) (h : IsVisited fields key) : itemKey fields = key := by
  rw [itemKey]
  rcases List.mem_cons.mp hkey with rfl | hkey
  · rw [if_pos]
    rw [Entries.contains, hfind, Option.isSome_some]
  · obtain rfl := List.mem_singleton.mp hkey
    rw [h rfl]
    rfl

/-- Of a state that the linter has nothing against, it has nothing against what it visits there. -/
theorem definitionFindings_of_heldUnder (hheld : HeldUnder fields key w)
    (hvisited : IsVisited fields key)
    (h : withinFindings fields (textAt fields "Type") path = []) :
    definitionFindings "$" w = [] := by
  cases hheld with
  | branch htype hbranches hitems hw =>
    rw [textAt_eq htype, withinFindings, branchesFindings_eq hbranches,
      branchListFindings_of_items? hitems, eachBranchFindings_eq_nil_iff_forall] at h
    exact h w hw
  | item htype hkey hfind =>
    rw [textAt_eq htype, withinFindings, itemKey_of_isVisited hkey hfind hvisited,
      nestedFindings_eq hfind] at h
    exact (definitionFindings_eq_nil_iff w _ "$").mp h

/-- By induction on the nesting: the linter has nothing against what it visits in a definition that
it has nothing against. -/
theorem definitionFindings_of_nestedBy (hnested : NestedBy IsVisited v w)
    (h : definitionFindings "$" v = []) : definitionFindings "$" w = [] := by
  induction hnested with
  | held hfields hstates hdeclared hmem hstate hheld hvisited =>
    rw [definitionFindings_of_entries? hfields] at h
    obtain ⟨-, -, hwalk⟩ := definitionFindings_map_eq_nil_iff.mp h
    rw [statesFindings_eq hstates, declaredFindings_of_entries? hdeclared,
      eachStateFindings_eq_nil_iff_forall] at hwalk
    have hclean := hwalk _ hmem
    rw [stateFindings_of_entries? hstate] at hclean
    obtain ⟨-, -, hwithin⟩ := stateFindings_map_eq_nil_iff.mp hclean
    exact definitionFindings_of_heldUnder hheld hvisited hwithin
  | trans _ _ ih ih' => exact ih' (ih h)

/-! ## Verdicts -/

/-- A text is no definition, only a definition may be written in it. -/
theorem ne_str_of_definitionFindings (h : definitionFindings path v = []) (text : String) :
    v ≠ .str text := by
  rintro rfl
  rw [definitionFindings.eq_def] at h
  have hviolations := (report_eq_nil_iff definitionShape path (.str text)).mp
    (List.map_eq_nil_iff.mp h)
  obtain ⟨fields, hmap, -⟩ := (ensures_definitionShape .none {} (.str text)).holds hviolations rfl
  cases hmap

theorem report_eq_nil_of_definitionFindings (h : definitionFindings "$" v = []) :
    report v = .ok [] := by
  have hnot := ne_str_of_definitionFindings h
  rw [report_of_not_text hnot, findings_of_not_text hnot, h]

/-- A definition that is accepted has its document without findings. -/
theorem definitionFindings_of_report {definition : Value} (hstands : StandsFor definition v)
    (h : report definition = .ok []) : definitionFindings "$" v = [] := by
  have hread : excess? definition = none := by
    rw [report] at h
    split at h
    · cases h
    · assumption
  exact Except.ok.inj ((report_of_standsFor hstands hread).symm.trans h)

/-- Every definition that the linter visits in an accepted one is accepted alone. -/
theorem report_nestedBy {definition document nested : Value}
    (hstands : StandsFor definition document) (haccepted : report definition = .ok [])
    (hnested : NestedBy IsVisited document nested) : report nested = .ok [] :=
  report_eq_nil_of_definitionFindings
    (definitionFindings_of_nestedBy hnested (definitionFindings_of_report hstands haccepted))

/-- A definition of one state. -/
def soleState (start name : String) (state : List (String × Value)) : Value :=
  .object [("StartAt", .str start), ("States", .object [(name, .object state)])]

/-- What is done with an item: nothing. -/
def doneItem (start : String) : Value := soleState start "Item" [("Type", .str "Succeed")]

/-- A definition that goes through items, with some definitions of what to do with each. -/
def eachItem (held : List (String × Value)) : Value :=
  soleState "Each" "Each" (("Type", .str "Map") :: ("End", .bool true) :: held)

/-- Going through items in a branch. -/
def branchOfItems : Value :=
  soleState "Both" "Both" [
    ("Type", .str "Parallel"),
    ("Branches", .list [eachItem [("ItemProcessor", doneItem "Item")]]),
    ("End", .bool true)]

theorem report_nestedBy_branch : StandsFor branchOfItems branchOfItems ∧
    report branchOfItems = .ok [] ∧ NestedBy IsVisited branchOfItems (doneItem "Item") ∧
    report (doneItem "Item") = .ok [] := by
  have hstands : StandsFor branchOfItems branchOfItems := .value (by
    intro text
    simp [branchOfItems, soleState, Value.object])
  have haccepted : report branchOfItems = .ok [] := by decide +kernel
  have hbranch : NestedBy IsVisited branchOfItems (eachItem [("ItemProcessor", doneItem "Item")]) :=
    .held rfl rfl rfl List.mem_cons_self rfl (.branch rfl rfl rfl List.mem_cons_self) (by decide)
  have hitem : NestedBy IsVisited (eachItem [("ItemProcessor", doneItem "Item")])
      (doneItem "Item") :=
    .held rfl rfl rfl List.mem_cons_self rfl (.item rfl List.mem_cons_self rfl) (by decide)
  have hnested := hbranch.trans hitem
  exact ⟨hstands, haccepted, hnested, report_nestedBy hstands haccepted hnested⟩

/-- What stands under `Iterator` next to an `ItemProcessor` need not be accepted alone. -/
theorem not_report_skipped : ¬ ∀ definition document nested : Value,
    StandsFor definition document → report definition = .ok [] →
      NestedBy (fun _ _ => True) document nested → report nested = .ok [] := by
  intro h
  let skipped := eachItem [("ItemProcessor", doneItem "Item"), ("Iterator", doneItem "Missing")]
  have hstands : StandsFor skipped skipped := .value (by
    intro text
    simp [skipped, eachItem, soleState, Value.object])
  have haccepted : report skipped = .ok [] := by decide +kernel
  have hnested : NestedBy (fun _ _ => True) skipped (doneItem "Missing") :=
    .held rfl rfl rfl List.mem_cons_self rfl
      (.item rfl (List.mem_cons_of_mem _ List.mem_cons_self) rfl) trivial
  have hrefused : report (doneItem "Missing") ≠ .ok [] := by decide +kernel
  exact hrefused (h skipped skipped _ hstands haccepted hnested)

end FlowTemplate.Lint
