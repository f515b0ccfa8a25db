import FlowTemplate.Proofs.Lint.Printed
import FlowTemplate.Proofs.Lint.Reference
import Mathlib.Data.List.Induction
import Mathlib.Data.List.Lex
/-!
# The references that the linter finds missing

The walk of the linter is put together from walks over parts: the target under a key, the targets in
the items of a list, the states of a definition, the definitions nested in a state. Of each it is
said which references are found missing there, and that they come in order; the references of a part
are those of the whole behind the steps to the part, and so are their findings.
-/

namespace FlowTemplate.Lint

open Schema

variable {fields declared : Entries} {type name path target : String} {v w : Value}
  {order : List Nat} {location : List Step} {r : Reference}

/-! ## Findings in the order of references -/

/-- The finding says that a reference is dangling. -/
def IsMissingTarget (f : Finding) : Bool := f.code == "MISSING_TRANSITION_TARGET"

/-- The references of some kind are found missing, one after the other in the order of the walk. -/
def Traced (p : Reference → Prop) (found : String → List Finding) : Prop :=
  ∃ references : List Reference, references.Pairwise (fun r s => r.order < s.order) ∧
    (∀ r, r ∈ references ↔ p r) ∧
    ∀ path, (found path).filter IsMissingTarget = references.map (Reference.finding path)

variable {p q : Reference → Prop} {found other : String → List Finding}

theorem Traced.congr (h : Traced p found) (hp : ∀ r, p r ↔ q r)
    (hfound : ∀ path, other path = found path) : Traced q other := by
  obtain ⟨references, hsorted, hmem, hfindings⟩ := h
  refine ⟨references, hsorted, fun r => (hmem r).trans (hp r), fun path => ?_⟩
  rw [hfound, hfindings]

theorem traced_none (hp : ∀ r, ¬ p r) (h : ∀ path, (found path).filter IsMissingTarget = []) :
    Traced p found :=
  ⟨[], .nil, fun r => iff_of_false List.not_mem_nil (hp r), h⟩

/-- A single reference is found missing if no state answers to it. -/
theorem traced_one (r : Reference) : Traced (fun s => s = r ∧ r.IsDangling) fun path =>
    if r.declared.contains r.target = true then [] else [r.finding path] := by
  by_cases h : r.declared.contains r.target = true
  · refine traced_none (fun s hs => ?_) fun path => by rw [if_pos h]; rfl
    exact Bool.false_ne_true (hs.2.symm.trans h)
  · have hmissing (path : String) : IsMissingTarget (r.finding path) = true := by
      rw [IsMissingTarget, Finding.code, Reference.finding, Reference.complaint]
      cases r.state <;> rfl
    refine ⟨[r], List.pairwise_singleton _ _, fun s => ?_, fun path => ?_⟩
    · rw [List.mem_singleton, Reference.IsDangling, Bool.eq_false_iff]
      exact (and_iff_left h).symm
    · dsimp only
      rw [if_neg h, List.filter_singleton, hmissing]
      rfl

theorem Traced.append (h : Traced p found) (h' : Traced q other)
    (hlt : ∀ r s, p r → q s → r.order < s.order) :
    Traced (fun r => p r ∨ q r) fun path => found path ++ other path := by
  obtain ⟨first, hfirst, hp, hfound⟩ := h
  obtain ⟨second, hsecond, hq, hother⟩ := h'
  refine ⟨first ++ second, ?_, fun r => ?_, fun path => ?_⟩
  · rw [List.pairwise_append]
    exact ⟨hfirst, hsecond, fun r hr s hs => hlt r s ((hp r).mp hr) ((hq s).mp hs)⟩
  · rw [List.mem_append, hp, hq]
  · rw [List.filter_append, hfound, hother, List.map_append]

/-- What is found in a part of a document is found in the document behind the steps to the part. -/
theorem Traced.under (h : Traced p found) (order : List Nat) (steps : List Step) :
    Traced (fun r => ∃ s, p s ∧ r = s.under order steps) fun path =>
      found (path ++ rendered steps) := by
  obtain ⟨references, hsorted, hmem, hfindings⟩ := h
  refine ⟨references.map (Reference.under order steps), ?_, fun r => ?_, fun path => ?_⟩
  · refine hsorted.map _ fun r s hlt => ?_
    exact List.append_left_lt hlt
  · simp only [List.mem_map, hmem, eq_comm]
  · rw [hfindings, List.map_map]
    exact List.map_congr_left fun r _ => (finding_under path order steps r).symm

/-- The items of a list are found one after the other, if their numbers are in front. -/
theorem traced_items {α : Type} (items : List α) {p : Nat → α → Reference → Prop}
    {found : Nat → α → String → List Finding}
    (h : ∀ i x, items[i]? = some x → Traced (p i x) (found i x))
    (hhead : ∀ i x r, p i x r → ∃ rest, r.order = i :: rest) :
    Traced (fun r => ∃ i x, items[i]? = some x ∧ p i x r) fun path =>
      (items.mapIdx fun i x => found i x path).flatten := by
  induction items using List.reverseRecOn with
  | nil => exact traced_none (by simp) fun path => rfl
  | append_singleton init last ih =>
    have hinit := ih fun i x hx => h i x (by
      rw [List.getElem?_append_left (List.getElem?_eq_some_iff.mp hx).1, hx])
    have hlast := h init.length last (by simp)
    refine (hinit.append hlast ?_).congr (fun r => ?_) fun path => by simp
    · rintro r s ⟨i, x, hx, hr⟩ hs
      obtain ⟨rest, hrest⟩ := hhead i x r hr
      obtain ⟨more, hmore⟩ := hhead init.length last s hs
      rw [hrest, hmore]
      exact List.cons_lt_cons_iff.mpr (.inl (List.getElem?_eq_some_iff.mp hx).1)
    · constructor
      · rintro (⟨i, x, hx, hr⟩ | hr)
        · exact ⟨i, x, by rw [List.getElem?_append_left (List.getElem?_eq_some_iff.mp hx).1, hx], hr⟩
        · exact ⟨init.length, last, by simp, hr⟩
      · rintro ⟨i, x, hx, hr⟩
        by_cases hi : i < init.length
        · exact .inl ⟨i, x, by rwa [List.getElem?_append_left hi] at hx, hr⟩
        · obtain ⟨hlength, -⟩ := List.getElem?_eq_some_iff.mp hx
          rw [List.length_append, List.length_singleton] at hlength
          obtain rfl : i = init.length := by omega
          obtain rfl : last = x := by simpa using hx
          exact .inr hr

/-! ## Transitions -/

/-- A dangling reference of a state, where `t` says which references the state makes. -/
structure Dangles (declared : Entries) (name : String)
    (t : List Nat → List Step → String → Prop) (r : Reference) : Prop where
  state : r.state = some name
  declared : r.declared = declared
  dangling : r.IsDangling
  made : t r.order r.location r.target

/-- What is found of a target at a path. -/
def missing (declared : Entries) (name : String) (transition : String × String) : List Finding :=
  if declared.contains transition.1 = true then []
  else [⟨.unknownTarget name transition.1, transition.2⟩]

theorem targetFindings_eq : targetFindings declared name path fields =
    (transitions path fields).flatMap (missing declared name) := by
  rw [targetFindings]
  induction transitions path fields with
  | nil => rfl
  | cons transition rest ih =>
    rw [List.flatMap_cons, ← ih, missing, List.filterMap_cons]
    split <;> simp_all

variable {t t' : List Nat → List Step → String → Prop}

theorem dangles_or_iff : Dangles declared name (fun o l s => t o l s ∨ t' o l s) r ↔
    Dangles declared name t r ∨ Dangles declared name t' r := by
  constructor
  · rintro ⟨hstate, hdeclared, hdangling, h | h⟩
    · exact .inl ⟨hstate, hdeclared, hdangling, h⟩
    · exact .inr ⟨hstate, hdeclared, hdangling, h⟩
  · rintro (⟨hstate, hdeclared, hdangling, h⟩ | ⟨hstate, hdeclared, hdangling, h⟩)
    · exact ⟨hstate, hdeclared, hdangling, .inl h⟩
    · exact ⟨hstate, hdeclared, hdangling, .inr h⟩

/-- The one reference to a target at a place. -/
theorem traced_target (declared : Entries) (name : String) (order : List Nat)
    (location : List Step) (target : String) :
    Traced (Dangles declared name fun o l s => o = order ∧ l = location ∧ s = target) fun path =>
      missing declared name (target, path ++ rendered location) := by
  refine (traced_one ⟨order, location, target, some name, declared⟩).congr (fun r => ?_)
    fun path => rfl
  constructor
  · rintro ⟨rfl, hdangling⟩
    exact ⟨rfl, rfl, hdangling, rfl, rfl, rfl⟩
  · obtain ⟨order', location', target', state, declared'⟩ := r
    rintro ⟨rfl, rfl, hdangling, rfl, rfl, rfl⟩
    exact ⟨rfl, hdangling⟩

/-- A target under a key of a state. -/
def AtKey (fields : Entries) (key : String) (n : Nat) (order : List Nat) (location : List Step)
    (target : String) : Prop :=
  order = [n] ∧ location = [field key] ∧ fields.find? key = some (.str target)

/-- A target in an item of a list under a key of a state. -/
def AtItem (fields : Entries) (key : String) (n : Nat) (order : List Nat) (location : List Step)
    (target : String) : Prop :=
  ∃ (items : List Value) (i : Nat) (item : Entries), fields.find? key = some (.list items) ∧
    items[i]? = some (.map item) ∧ item.find? "Next" = some (.str target) ∧ order = [n, i] ∧
    location = [field key, .index i, field "Next"]

theorem traced_key (fields declared : Entries) (name : String) {key : String} (n : Nat)
    (h : ∀ v, fields.find? key = some v → IsText v) :
    Traced (Dangles declared name (AtKey fields key n)) fun path =>
      (if fields.contains key = true then [(textAt fields key, s!"{path}.{key}")] else []).flatMap
        (missing declared name) := by
  cases hfind : fields.find? key with
  | none =>
    refine traced_none (fun r hr => ?_) fun path => by simp [Entries.contains, hfind]
    cases hfind.symm.trans hr.made.2.2
  | some v =>
    obtain ⟨s, rfl⟩ := h v hfind
    refine (traced_target declared name [n] [field key] s).congr (fun r => ?_) fun path => ?_
    · have hmade (o : List Nat) (l : List Step) (t : String) :
          (o = [n] ∧ l = [field key] ∧ t = s) ↔ AtKey fields key n o l t := by
        simp only [AtKey, hfind, Option.some.injEq, Value.atom.injEq, Atom.str.injEq, eq_comm]
      simp only [hmade]
    · rw [rendered_field, textAt_eq hfind, Entries.contains, hfind, Option.isSome_some, if_pos rfl,
        List.flatMap_singleton]

theorem text_next {rule : Entries} (h : rule.find? "Next" = some (.str target)) :
    ((Value.map rule).entries?.map fun fields => textAt fields "Next").getD "" = target :=
  textAt_eq h

theorem IsTransition.exists_next (h : IsTransition v) :
    ∃ (rule : Entries) (next : String), v = .map rule ∧ rule.find? "Next" = some (.str next) :=
  saysNext_of_isRecord (by simp) (by simp) h

/-- The targets in the items of a list. -/
theorem traced_nextTargets (key : String) (n : Nat) {items : List Value}
    (h : ∀ item ∈ items, IsTransition item) :
    Traced (Dangles declared name fun o l s => ∃ (i : Nat) (rule : Entries),
        items[i]? = some (.map rule) ∧ rule.find? "Next" = some (.str s) ∧ o = [n, i] ∧
          l = [field key, .index i, field "Next"])
      fun path => (nextTargets key path items).flatMap (missing declared name) := by
  have hitem : ∀ i item, items[i]? = some item →
      Traced (Dangles declared name fun o l s => ∃ rule : Entries, item = .map rule ∧
          rule.find? "Next" = some (.str s) ∧ o = [i] ∧ l = [field key, .index i, field "Next"])
        fun path => missing declared name
          ((item.entries?.map fun fields => textAt fields "Next").getD "",
            s!"{path}.{key}[{i}].Next") := by
    intro i item hitem
    obtain ⟨rule, next, rfl, hnext⟩ := (h item (List.mem_of_getElem? hitem)).exists_next
    refine (traced_target declared name [i] [field key, .index i, field "Next"] next).congr
      (fun r => ?_) fun path => by rw [text_next hnext, rendered_next]
    constructor
    · rintro ⟨hstate, hdeclared, hdangling, ho, hl, hs⟩
      exact ⟨hstate, hdeclared, hdangling, rule, rfl, hs ▸ hnext, ho, hl⟩
    · rintro ⟨hstate, hdeclared, hdangling, other, heq, hs, ho, hl⟩
      obtain rfl := Value.map.inj heq
      have hsame : Value.str next = .str r.target := Option.some.inj (hnext.symm.trans hs)
      exact ⟨hstate, hdeclared, hdangling, ho, hl, by cases hsame; rfl⟩
  have hall := (traced_items items hitem fun i item r hr => by
    obtain ⟨rule, -, -, ho, -⟩ := hr.made
    exact ⟨[], ho⟩).under [n] []
  refine hall.congr (fun r => ?_) fun path => ?_
  · constructor
    · rintro ⟨s, ⟨i, item, hitem, hs⟩, rfl⟩
      obtain ⟨rule, rfl, hnext, ho, hl⟩ := hs.made
      exact ⟨hs.state, hs.declared, hs.dangling, i, rule, hitem, hnext, congrArg (n :: ·) ho, hl⟩
    · rintro ⟨hstate, hdeclared, hdangling, i, rule, hitem, hnext, ho, hl⟩
      refine ⟨⟨[i], r.location, r.target, r.state, r.declared⟩, ⟨i, _, hitem, hstate, hdeclared,
        hdangling, rule, rfl, hnext, rfl, hl⟩, ?_⟩
      obtain ⟨order, location, target, state, declared'⟩ := r
      obtain rfl : order = [n, i] := ho
      rfl
  · rw [rendered, String.append_empty, nextTargets, List.flatMap_def, List.mapIdx_eq_zipIdx_map,
      List.map_map, List.mapIdx_eq_zipIdx_map]
    rfl

theorem traced_listAt (fields declared : Entries) (name : String) {key : String} (n : Nat)
    (h : ∀ v, fields.find? key = some v → IsListOf IsTransition v) :
    Traced (Dangles declared name (AtItem fields key n)) fun path =>
      (nextTargets key path (listAt fields key)).flatMap (missing declared name) := by
  cases hfind : fields.find? key with
  | none =>
    refine traced_none (fun r hr => ?_) fun path => by rw [listAt_eq_nil hfind]; rfl
    obtain ⟨items, i, rule, hsome, -⟩ := hr.made
    cases hfind.symm.trans hsome
  | some v =>
    obtain ⟨items, rfl, hitems⟩ := h v hfind
    refine (traced_nextTargets key n hitems).congr (fun r => ?_) fun path => by
      rw [listAt_eq hfind]
    constructor
    · rintro ⟨hstate, hdeclared, hdangling, i, rule, hmade⟩
      exact ⟨hstate, hdeclared, hdangling, items, i, rule, hfind, hmade⟩
    · rintro ⟨hstate, hdeclared, hdangling, others, i, rule, heq, hmade⟩
      cases hfind.symm.trans heq
      exact ⟨hstate, hdeclared, hdangling, i, rule, hmade⟩

theorem lt_of_heads {s : Reference} {m n : Nat} (hr : ∃ rest, r.order = m :: rest)
    (hs : ∃ rest, s.order = n :: rest) (h : m < n) : r.order < s.order := by
  obtain ⟨rest, hr⟩ := hr
  obtain ⟨more, hs⟩ := hs
  rw [hr, hs]
  exact List.cons_lt_cons_iff.mpr (.inl h)

theorem AtKey.head {n : Nat} {key : String}
    (h : Dangles declared name (AtKey fields key n) r) : ∃ rest, r.order = n :: rest :=
  ⟨[], h.made.1⟩

theorem AtItem.head {n : Nat} {key : String}
    (h : Dangles declared name (AtItem fields key n) r) : ∃ rest, r.order = n :: rest := by
  obtain ⟨-, i, -, -, -, -, horder, -⟩ := h.made
  exact ⟨[i], horder⟩

theorem transitionAt_iff : TransitionAt fields type order location target ↔
    (AtKey fields "Next" 0 order location target ∨
      (type = "Choice" ∧ (AtKey fields "Default" 1 order location target ∨
        AtItem fields "Choices" 2 order location target))) ∨
      AtItem fields "Catch" 3 order location target := by
  constructor
  · intro h
    cases h with
    | next h => exact .inl (.inl ⟨rfl, rfl, h⟩)
    | default htype h => exact .inl (.inr ⟨htype, .inl ⟨rfl, rfl, h⟩⟩)
    | choice htype hrules hrule h =>
      exact .inl (.inr ⟨htype, .inr ⟨_, _, _, hrules, hrule, h, rfl, rfl⟩⟩)
    | catcher hcatchers hcatcher h => exact .inr ⟨_, _, _, hcatchers, hcatcher, h, rfl, rfl⟩
  · rintro ((⟨rfl, rfl, h⟩ | ⟨htype, ⟨rfl, rfl, h⟩ | ⟨rules, i, rule, hrules, hrule, h, rfl, rfl⟩⟩) |
      ⟨catchers, i, catcher, hcatchers, hcatcher, h, rfl, rfl⟩)
    · exact .next h
    · exact .default htype h
    · exact .choice htype hrules hrule h
    · exact .catcher hcatchers hcatcher h

/-- The references that a state makes by its transitions. -/
theorem traced_transitions (declared : Entries) (name : String) (h : ReadsState fields type) :
    Traced (Dangles declared name (TransitionAt fields type)) fun path =>
      targetFindings declared name path fields := by
  have hnext := traced_key fields declared name 0
    (h.common.rules ("Next", IsText) (by simp [stateRules]))
  have hcatch := traced_listAt fields declared name 3
    (h.common.rules ("Catch", IsListOf IsTransition) (by simp [stateRules]))
  have hmade : TransitionAt fields type = fun o l s =>
      (AtKey fields "Next" 0 o l s ∨ (type = "Choice" ∧ (AtKey fields "Default" 1 o l s ∨
        AtItem fields "Choices" 2 o l s))) ∨ AtItem fields "Catch" 3 o l s := by
    funext o l s
    exact propext transitionAt_iff
  by_cases htype : type = "Choice"
  · subst htype
    have hown : HasFields ["Choices"] _ fields := h.own
    have hdefault := traced_key fields declared name 1 (hown.rules ("Default", IsText) (by simp))
    have hchoices := traced_listAt fields declared name 2
      (hown.rules ("Choices", IsListOf IsTransition) (by simp))
    refine ((hnext.append (hdefault.append hchoices ?_) ?_).append hcatch ?_).congr (fun r => ?_)
      fun path => ?_
    · exact fun r s hr hs => lt_of_heads (AtKey.head hr) (AtItem.head hs) (by decide)
    · rintro r s hr (hs | hs)
      · exact lt_of_heads (AtKey.head hr) (AtKey.head hs) (by decide)
      · exact lt_of_heads (AtKey.head hr) (AtItem.head hs) (by decide)
    · rintro r s (hr | hr | hr) hs
      · exact lt_of_heads (AtKey.head hr) (AtItem.head hs) (by decide)
      · exact lt_of_heads (AtKey.head hr) (AtItem.head hs) (by decide)
      · exact lt_of_heads (AtItem.head hr) (AtItem.head hs) (by decide)
    · simp only [hmade, dangles_or_iff, true_and]
    · simp only [targetFindings_eq, transitions, textAt_eq h.ofType, beq_self_eq_true, if_true,
        List.flatMap_append]
  · refine (hnext.append hcatch ?_).congr (fun r => ?_) fun path => ?_
    · exact fun r s hr hs => lt_of_heads (AtKey.head hr) (AtItem.head hs) (by decide)
    · simp only [hmade, dangles_or_iff, htype, false_and, or_false]
    · simp [targetFindings_eq, transitions, textAt_eq h.ofType, htype]

/-- A dangling reference of a definition. -/
structure Misses (v : Value) (r : Reference) : Prop where
  refers : Refers v r
  dangling : r.IsDangling

/-- A dangling reference of a definition nested in a state. -/
def MissesWithin (fields : Entries) (type : String) (r : Reference) : Prop :=
  ∃ order location w s, NestsAt fields type order location w ∧ Misses w s ∧
    r = s.under order location

theorem eachBranchFindings_eq (path : String) (n : Nat) (branches : List Value) :
    eachBranchFindings path n branches =
      (branches.mapIdx fun i v => definitionFindings s!"{path}.Branches[{n + i}]" v).flatten := by
  induction branches generalizing n with
  | nil => rfl
  | cons v rest ih =>
    rw [eachBranchFindings, ih, List.mapIdx_cons, List.flatten_cons]
    simp only [Nat.add_zero, Nat.add_assoc, Nat.add_comm 1]

/-- The references of the branches of a state, where those of each branch are found. -/
theorem traced_branches {branches : List Value}
    (hbranches : fields.find? "Branches" = some (.list branches))
    (h : ∀ w ∈ branches, Traced (Misses w) (definitionFindings · w)) :
    Traced (MissesWithin fields "Parallel") (branchesFindings · fields) := by
  have hbranch : ∀ i w, branches[i]? = some w →
      Traced (fun r => ∃ s, Misses w s ∧ r = s.under [i] [field "Branches", .index i]) fun path =>
        definitionFindings (path ++ rendered [field "Branches", .index i]) w :=
    fun i w hw => (h w (List.mem_of_getElem? hw)).under [i] [field "Branches", .index i]
  have hall := (traced_items branches hbranch fun i w r hr => by
    obtain ⟨s, -, rfl⟩ := hr
    exact ⟨s.order, rfl⟩).under [4] []
  refine hall.congr (fun r => ?_) fun path => ?_
  · constructor
    · rintro ⟨-, ⟨i, w, hw, s, hs, rfl⟩, rfl⟩
      exact ⟨[4, i], _, w, s, .branch rfl hbranches hw, hs, rfl⟩
    · rintro ⟨order, location, w, s, hnests, hs, rfl⟩
      cases hnests with
      | @branch others i w _ hothers hw =>
        obtain rfl : branches = others := by simpa using hbranches.symm.trans hothers
        exact ⟨_, ⟨i, w, hw, s, hs, rfl⟩, rfl⟩
      | processor htype => exact absurd htype (by decide)
      | iterator htype => exact absurd htype (by decide)
  · rw [branchesFindings_eq hbranches, branchListFindings, eachBranchFindings_eq]
    simp only [Nat.zero_add, rendered_branch, rendered, String.append_empty]

theorem nestsAt_map_iff : NestsAt fields "Map" order location w ↔
    order = [4] ∧ location = [field (itemKey fields)] ∧
      fields.find? (itemKey fields) = some w := by
  cases hprocessor : fields.find? "ItemProcessor" with
  | none =>
    rw [itemKey_of_none hprocessor]
    constructor
    · intro h
      cases h with
      | branch htype => exact absurd htype (by decide)
      | processor _ h => cases hprocessor.symm.trans h
      | iterator _ _ h => exact ⟨rfl, rfl, h⟩
    · rintro ⟨rfl, rfl, h⟩
      exact .iterator rfl hprocessor h
  | some u =>
    rw [itemKey_of_processor hprocessor]
    constructor
    · intro h
      cases h with
      | branch htype => exact absurd htype (by decide)
      | processor _ h => exact ⟨rfl, rfl, h⟩
      | iterator _ hnone => cases hprocessor.symm.trans hnone
    · rintro ⟨rfl, rfl, h⟩
      exact .processor rfl h

/-- The references of the definition in a `Map` state, where they are found. -/
theorem traced_processor (hw : fields.find? (itemKey fields) = some w)
    (h : Traced (Misses w) (definitionFindings · w)) :
    Traced (MissesWithin fields "Map") (nestedFindings (itemKey fields) · fields) := by
  refine (h.under [4] [field (itemKey fields)]).congr (fun r => ?_) fun path => ?_
  · constructor
    · rintro ⟨s, hs, rfl⟩
      exact ⟨_, _, w, s, nestsAt_map_iff.mpr ⟨rfl, rfl, hw⟩, hs, rfl⟩
    · rintro ⟨order, location, u, s, hnests, hs, rfl⟩
      obtain ⟨rfl, rfl, hu⟩ := nestsAt_map_iff.mp hnests
      obtain rfl : w = u := Option.some.inj (hw.symm.trans hu)
      exact ⟨s, hs, rfl⟩
  · rw [nestedFindings_eq hw]
    simp only [rendered, Literal.displayAtom, String.append_assoc, String.append_empty]

/-- What is found in the definitions nested in a state of a type. -/
def withinFindings (fields : Entries) (type path : String) : List Finding :=
  match type with
  | "Parallel" => branchesFindings path fields
  | "Map" => nestedFindings (itemKey fields) path fields
  | _ => []

/-- The references of the definitions nested in a state. -/
theorem traced_nested (h : ReadsState fields type)
    (ih : ∀ w, Nests fields type w → Traced (Misses w) (definitionFindings · w)) :
    Traced (MissesWithin fields type) (withinFindings fields type) := by
  by_cases hparallel : type = "Parallel"
  · subst hparallel
    obtain ⟨branches, hfind⟩ := h.branches
    exact traced_branches hfind fun w hw => ih w (.branch rfl hfind hw)
  by_cases hmap : type = "Map"
  · subst hmap
    obtain ⟨w, hfind⟩ := h.processor
    exact traced_processor hfind (ih w (nests_map_iff.mpr hfind))
  · refine traced_none (fun r hr => ?_) fun path => ?_
    · obtain ⟨order, location, w, s, hnests, -⟩ := hr
      cases hnests with
      | branch htype => exact hparallel htype
      | processor htype => exact hmap htype
      | iterator htype => exact hmap htype
    · unfold withinFindings
      split
      · exact absurd rfl hparallel
      · exact absurd rfl hmap
      · rfl

/-- What is said about the continuation of a state is no word on a target. -/
theorem filter_continuationFindings (name path : String) (fields : Entries) :
    (continuationFindings name path fields).filter IsMissingTarget = [] := by
  have hnone (complaint : Complaint) (h : complaint.code ≠ "MISSING_TRANSITION_TARGET") :
      [Finding.mk complaint path].filter IsMissingTarget = [] := by
    rw [List.filter_singleton, IsMissingTarget, Finding.code, beq_false_of_ne h]
    rfl
  rw [continuationFindings]
  split
  · split
    · exact hnone _ (by simp [Complaint.code])
    · rfl
  · split
    · exact hnone _ (by simp [Complaint.code])
    · split
      · exact hnone _ (by simp [Complaint.code])
      · rfl

/-- The dangling references of a state, its own first. -/
def MissesInState (declared : Entries) (name : String) (fields : Entries) (type : String)
    (r : Reference) : Prop :=
  Dangles declared name (TransitionAt fields type) r ∨ MissesWithin fields type r

theorem stateFindings_map (hshape : stateShape.violations (.map fields) = [])
    (htype : fields.find? "Type" = some (.str type)) :
    stateFindings declared name path (.map fields) =
      continuationFindings name path fields ++
        (targetFindings declared name path fields ++ withinFindings fields type path) := by
  have hclean : shapeFindings stateShape path (.map fields) = [] := by
    rw [shapeFindings, (report_eq_nil_iff stateShape path _).mpr hshape, List.map_nil]
  rw [stateFindings, hclean]
  dsimp only
  rw [textAt_eq htype, List.append_assoc]
  rfl

theorem traced_state (hshape : stateShape.violations (.map fields) = [])
    (h : ReadsState fields type)
    (ih : ∀ w, Nests fields type w → Traced (Misses w) (definitionFindings · w)) :
    Traced (MissesInState declared name fields type)
      (stateFindings declared name · (.map fields)) := by
  have hhead : ∀ r s, Dangles declared name (TransitionAt fields type) r →
      MissesWithin fields type s → r.order < s.order := by
    rintro r s hr ⟨order, location, w, inner, hnests, -, hs⟩
    obtain ⟨n, hn, rest, hrest⟩ := hr.made.head
    obtain ⟨more, hmore⟩ := hnests.head
    refine lt_of_heads ⟨rest, hrest⟩ ⟨more ++ inner.order, ?_⟩ hn
    rw [hs, Reference.under, hmore]
    rfl
  have hboth := (traced_transitions declared name h).append (traced_nested h ih) hhead
  obtain ⟨references, hsorted, hmem, hfindings⟩ := hboth
  refine ⟨references, hsorted, hmem, fun path => ?_⟩
  dsimp only
  rw [stateFindings_map hshape h.ofType, List.filter_append, filter_continuationFindings,
    List.nil_append, hfindings]

/-! ## Definitions -/

theorem eachStateFindings_eq (declared : Entries) (path : String) (states : Entries) :
    eachStateFindings declared path states = (states.mapIdx fun _ entry =>
      stateFindings declared (Literal.displayAtom entry.1)
        (path ++ ".States." ++ Literal.displayAtom entry.1) entry.2).flatten := by
  rw [eachStateFindings_eq_flatten, List.mapIdx_eq_zipIdx_map]
  conv_lhs => rw [← List.zipIdx_map_fst 0 states, List.map_map]
  rfl

/-- A state of a definition makes a reference, behind the steps to the state. -/
def MissesAt (states : Entries) (i : Nat) (entry : Atom × Value) (r : Reference) : Prop :=
  ∃ (state : Entries) (type : String) (s : Reference), entry.2 = .map state ∧
    state.find? "Type" = some (.str type) ∧
    MissesInState states (Literal.displayAtom entry.1) state type s ∧
    r = s.under [i] [field "States", .key entry.1]

/-- A dangling reference of a definition is its start or one that a state of it makes. -/
theorem misses_map_iff {start : String} {states : Entries}
    (hstart : fields.find? "StartAt" = some (.str start))
    (hstates : fields.find? "States" = some (.map states)) :
    Misses (.map fields) r ↔
      (r = ⟨[0], [field "StartAt"], start, none, states⟩ ∧ states.contains start = false) ∨
        ∃ s, (∃ i entry, states[i]? = some entry ∧ MissesAt states i entry s) ∧
          r = s.under [1] [] := by
  constructor
  · rintro ⟨hrefers, hdangling⟩
    cases hrefers with
    | start hstart' hstates' =>
      rw [hstart] at hstart'
      rw [hstates] at hstates'
      cases hstart'
      cases hstates'
      exact .inl ⟨rfl, hdangling⟩
    | @transition _ _ state i k type target order location hstates' hstate htype htransition =>
      rw [hstates] at hstates'
      cases hstates'
      exact .inr ⟨_, ⟨i, _, hstate, state, type,
        ⟨order, location, target, some (Literal.displayAtom k), states⟩, rfl, htype,
        .inl ⟨rfl, rfl, hdangling, htransition⟩, rfl⟩, rfl⟩
    | @nested _ _ state i k type order location w s hstates' hstate htype hnests hrefers =>
      rw [hstates] at hstates'
      cases hstates'
      refine .inr ⟨_, ⟨i, _, hstate, state, type, s.under order location, rfl, htype,
        .inr ⟨order, location, w, s, hnests, ⟨hrefers, hdangling⟩, rfl⟩, rfl⟩, ?_⟩
      simp [Reference.under]
  · rintro (⟨rfl, hdangling⟩ | ⟨-, ⟨i, ⟨k, v⟩, hstate, state, type, s, rfl, htype, hs, rfl⟩, rfl⟩)
    · exact ⟨.start hstart hstates, hdangling⟩
    · rcases hs with hs | ⟨order, location, w, inner, hnests, hinner, rfl⟩
      · refine ⟨?_, hs.dangling⟩
        obtain ⟨order, location, target, name, declared⟩ := s
        obtain ⟨rfl, rfl, -, htransition⟩ := hs
        exact .transition hstates hstate htype htransition
      · refine ⟨?_, hinner.dangling⟩
        have hrefers := Refers.nested hstates hstate htype hnests hinner.refers
        simpa [Reference.under] using hrefers

/-- By induction on the size of the document: the linter finds the dangling references of a document
that fits its schemas. -/
theorem traced_definition (v : Value) (hv : v.hasNumbers = false) (h : Fits v) :
    Traced (Misses v) (definitionFindings · v) := by
  induction hsize : sizeOf v using Nat.strong_induction_on generalizing v with
  | _ n ih =>
  subst hsize
  obtain ⟨hshape, heach⟩ := fits_iff.mp h
  have hviolations : definitionShape.violations v = [] := List.isEmpty_iff.mp hshape
  obtain ⟨fields, start, states, rfl, hstart, hstates⟩ := reads_definition hv hviolations
  have hstate : ∀ i entry, states[i]? = some entry → Traced (MissesAt states i entry) fun path =>
      stateFindings states (Literal.displayAtom entry.1)
        (path ++ ".States." ++ Literal.displayAtom entry.1) entry.2 := by
    rintro i ⟨k, w⟩ hentry
    have hmem := List.mem_of_getElem? hentry
    have hnumbers := (Value.entriesHaveNumbers_eq_false_iff states).mp
      (Value.hasNumbers_of_find? hv hstates) _ hmem
    obtain ⟨haccepts, hnested⟩ := fitsState_iff.mp (heach fields states rfl hstates _ hmem)
    have hclean : stateShape.violations w = [] := List.isEmpty_iff.mp haccepts
    obtain ⟨state, type, rfl, hreads⟩ := reads_state hnumbers hclean
    have hnests : ∀ u, Nests state type u → Traced (Misses u) (definitionFindings · u) :=
      fun u hu => ih _ (hu.sizeOf_lt.trans ((Value.sizeOf_lt_of_mem hmem).trans
        (Value.sizeOf_lt_of_find? hstates))) u (hu.hasNumbers hnumbers)
        (hnested state type u rfl hreads.ofType hu) rfl
    have hinner : Traced (MissesInState states (Literal.displayAtom k) state type)
        (stateFindings states (Literal.displayAtom k) · (.map state)) :=
      traced_state hclean hreads hnests
    refine (hinner.under [i] [field "States", .key k]).congr (fun r => ?_) fun path => by
      rw [rendered_state]
    constructor
    · rintro ⟨s, hs, rfl⟩
      exact ⟨state, type, s, rfl, hreads.ofType, hs, rfl⟩
    · rintro ⟨other, type', s, heq, htype', hs, rfl⟩
      obtain rfl := Value.map.inj heq
      obtain rfl : type = type' := by simpa using hreads.ofType.symm.trans htype'
      exact ⟨s, hs, rfl⟩
  have hstates' := (traced_items states hstate fun i entry r hr => by
    obtain ⟨-, -, s, -, -, -, rfl⟩ := hr
    exact ⟨s.order, rfl⟩).under [1] []
  have hstart' := traced_one ⟨[0], [field "StartAt"], start, none, states⟩
  refine (hstart'.append hstates' ?_).congr (fun r => (misses_map_iff hstart hstates).symm)
    fun path => ?_
  · rintro r s ⟨rfl, -⟩ ⟨inner, -, rfl⟩
    exact lt_of_heads ⟨[], rfl⟩ ⟨inner.order, rfl⟩ (by decide)
  · have hclean : shapeFindings definitionShape path (.map fields) = [] := by
      rw [shapeFindings, (report_eq_nil_iff definitionShape path _).mpr hviolations, List.map_nil]
    rw [definitionFindings, hclean]
    dsimp only
    rw [startFindings, textAt_eq hstart, hstates, statesFindings_eq hstates, declaredFindings,
      eachStateFindings_eq, rendered, String.append_empty]
    rfl

/-- The linter reports each dangling reference of a document that fits its schemas once, in the
order of the references, under the path of its location in the document, and it reports no other
missing target. Where no mapping holds a key twice, the locations are all different. -/
theorem report_missingTargets {definition document : Value} (hstands : StandsFor definition document)
    (hreadable : excess? definition = none) (hnumbers : document.hasNumbers = false)
    (hfits : Fits document) :
    ∃ (found : List Finding) (references : List Reference), report definition = .ok found ∧
      found.filter IsMissingTarget = references.map (Reference.finding "$") ∧
      references.Pairwise (fun r s => r.order < s.order) ∧
      (∀ r, r ∈ references ↔ Refers document r ∧ r.IsDangling) ∧
      (∀ r ∈ references, StandsAt document r.location (.str r.target)) ∧
      (document.HasOwnKeys → (references.map Reference.location).Nodup) := by
  obtain ⟨references, hsorted, hmem, hfindings⟩ := traced_definition document hnumbers hfits
  have hfound : findings definition = definitionFindings "$" document := by
    cases hstands with
    | text hparse => exact findings_of_parse hparse
    | value hnot => exact findings_of_not_text hnot
  refine ⟨findings definition, references, ?_, ?_, hsorted, fun r => ?_, fun r hr => ?_,
    fun hkeys => ?_⟩
  · rw [report, hreadable]
  · rw [hfound, hfindings]
  · exact (hmem r).trans ⟨fun h => ⟨h.refers, h.dangling⟩, fun h => ⟨h.1, h.2⟩⟩
  · exact ((hmem r).mp hr).refers.standsAt
  · refine List.pairwise_map.mpr (hsorted.imp_of_mem fun {r s} hr hs hlt heq => ?_)
    have hsame := ((hmem r).mp hr).refers.unique ((hmem s).mp hs).refers hkeys heq
    exact lt_irrefl r.order (hsame ▸ hlt)

/-- A definition with a branch whose state goes on to a state that only the definition around the
branch has. -/
def strayBranch : Value :=
  .object [
    ("StartAt", .str "Both"),
    ("States", .object [
      ("Both", .object [
        ("Type", .str "Parallel"),
        ("Branches", .list [.object [
          ("StartAt", .str "Rest"),
          ("States", .object [
            ("Rest", .object [("Type", .str "Pass"), ("Next", .str "Both")])])]]),
        ("End", .bool true)])])]

theorem fits_strayBranch : Fits strayBranch := by
  refine fits_map (by decide +kernel) rfl (List.forall_mem_singleton.mpr ?_)
  refine fitsState_parallel (by decide +kernel) rfl rfl (List.forall_mem_singleton.mpr ?_)
  refine fits_map (by decide +kernel) rfl (List.forall_mem_singleton.mpr ?_)
  exact fitsState_pass (by decide +kernel) rfl

theorem report_missingTargets_stray : StandsFor strayBranch strayBranch ∧
    excess? strayBranch = none ∧ strayBranch.hasNumbers = false ∧ Fits strayBranch ∧
    ∃ references : List Reference,
      references.map (Reference.finding "$") =
        [⟨.unknownTarget "Rest" "Both", "$.States.Both.Branches[0].States.Rest.Next"⟩] ∧
      ∀ r, r ∈ references ↔ Refers strayBranch r ∧ r.IsDangling := by
  have hstands : StandsFor strayBranch strayBranch :=
    .value (by simp [strayBranch, Value.object])
  have hreport : report strayBranch =
      .ok [⟨.unknownTarget "Rest" "Both", "$.States.Both.Branches[0].States.Rest.Next"⟩] := by
    decide +kernel
  obtain ⟨found, references, hfound, hfindings, -, hmem, -⟩ :=
    report_missingTargets hstands rfl rfl fits_strayBranch
  refine ⟨hstands, rfl, rfl, fits_strayBranch, references, ?_, hmem⟩
  obtain rfl := Except.ok.inj (hreport.symm.trans hfound)
  rw [← hfindings]
  rfl

end FlowTemplate.Lint
