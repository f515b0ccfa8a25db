import FlowTemplate.Proofs.Lint.Missing
/-!
# Findings under another root

The linter looks at a definition in the same way wherever it stands. Its findings depend on the path
to the definition only as on a root: every path begins with it, and so does every line that comes
from a schema. All other messages are the same under every root.
-/

namespace FlowTemplate.Lint

open Schema

/-- A finding under one root, and the same finding under another. -/
structure Rerooted (root other : String) (f g : Finding) : Prop where
  code : g.code = f.code
  path : ∃ rest, f.path = root ++ rest ∧ g.path = other ++ rest
  message :
    if f.code = "SCHEMA_VALIDATION_FAILED" then
      ∃ rest, f.message = root ++ rest ∧ g.message = other ++ rest
    else g.message = f.message

/-- What is found at a path depends on the path as on a root. -/
def Rooted (found : String → List Finding) : Prop :=
  ∀ root other, List.Forall₂ (Rerooted root other) (found root) (found other)

variable {found later : String → List Finding} {fields declared : Entries} {name : String}

/-- Under all roots something is found, or under none. -/
theorem Rooted.eq_nil_iff (h : Rooted found) (path other : String) :
    found path = [] ↔ found other = [] := by
  rw [← List.length_eq_zero_iff, ← List.length_eq_zero_iff, (h path other).length_eq]

/-! ## Findings put together -/

theorem rooted_none : Rooted fun _ => [] := fun _ _ => .nil

theorem Rooted.congr (h : Rooted found) (heq : ∀ path, later path = found path) : Rooted later := by
  intro root other
  rw [heq, heq]
  exact h root other

theorem Rooted.append (h : Rooted found) (h' : Rooted later) :
    Rooted fun path => found path ++ later path :=
  fun root other => List.rel_append (h root other) (h' root other)

theorem Rooted.flatMap {α : Type} {found : α → String → List Finding} {parts : List α}
    (h : ∀ part ∈ parts, Rooted (found part)) :
    Rooted fun path => parts.flatMap (found · path) := by
  induction parts with
  | nil => exact rooted_none
  | cons part rest ih =>
    obtain ⟨hpart, hrest⟩ := List.forall_mem_cons.mp h
    exact (hpart.append (ih hrest)).congr fun path => List.flatMap_cons

/-- What is found below a root is found below every root in front of it. -/
theorem Rooted.below (h : Rooted found) (steps : String) :
    Rooted fun path => found (path ++ steps) := by
  intro root other
  refine (h (root ++ steps) (other ++ steps)).imp fun f g hfg => ⟨hfg.code, ?_, ?_⟩
  · obtain ⟨rest, hf, hg⟩ := hfg.path
    exact ⟨steps ++ rest, by rw [hf, String.append_assoc], by rw [hg, String.append_assoc]⟩
  · have hmessage := hfg.message
    split at hmessage
    · obtain ⟨rest, hf, hg⟩ := hmessage
      rw [if_pos ‹_›]
      exact ⟨steps ++ rest, by rw [hf, String.append_assoc], by rw [hg, String.append_assoc]⟩
    · rwa [if_neg ‹_›]

/-- A single finding that comes from no schema. -/
theorem rooted_one {complaint : Complaint} (h : complaint.code ≠ "SCHEMA_VALIDATION_FAILED")
    (steps : String) : Rooted fun path => [⟨complaint, path ++ steps⟩] := by
  intro root other
  refine .cons ⟨rfl, ⟨steps, rfl, rfl⟩, ?_⟩ .nil
  rw [Finding.code, if_neg h]
  rfl

theorem rooted_ite {p : Prop} [Decidable p] (h : Rooted found) (h' : Rooted later) :
    Rooted fun path => if p then found path else later path := by
  by_cases hp : p
  · exact h.congr fun path => if_pos hp
  · exact h'.congr fun path => if_neg hp

/-! ## Shapes -/

/-- The line of a violation begins with the root. -/
theorem text_eq_root_append (violation : Violation) :
    ∃ rest, ∀ root, violation.text root = root ++ rest := by
  refine ⟨String.join (violation.path.map Step.text) ++ (": " ++ violation.message), fun root => ?_⟩
  rw [Violation.text, String.append_assoc, String.append_assoc]

/-- The line of a violation under one root, and its line under another. -/
theorem rerooted_line (root other : String) (violation : Violation) :
    Rerooted root other ⟨.shape (violation.text root), root⟩
      ⟨.shape (violation.text other), other⟩ := by
  have hcode : (Finding.mk (.shape (violation.text root)) root).code =
      "SCHEMA_VALIDATION_FAILED" := rfl
  obtain ⟨rest, htext⟩ := text_eq_root_append violation
  refine ⟨rfl, ⟨"", by rw [String.append_empty], by rw [String.append_empty]⟩, ?_⟩
  rw [if_pos hcode]
  exact ⟨rest, htext root, htext other⟩

theorem rooted_shape (schema : Schema) (v : Value) :
    Rooted fun path => shapeFindings schema path v := by
  intro root other
  dsimp only
  rw [shapeFindings, shapeFindings, Schema.report, Schema.report, lines, lines, List.map_map,
    List.map_map, List.forall₂_map_left_iff, List.forall₂_map_right_iff, List.forall₂_same]
  intro violation _
  exact rerooted_line root other violation

/-- Whether the shape lets anything behind it be looked at does not depend on the root. -/
theorem Rooted.behindShape (h : Rooted found) (schema : Schema) (v : Value) :
    Rooted fun path =>
      if shapeFindings schema path v = [] then found path else shapeFindings schema path v := by
  by_cases hclean : shapeFindings schema "" v = []
  · refine h.congr fun path => ?_
    rw [if_pos (((rooted_shape schema v).eq_nil_iff path "").mpr hclean)]
  · refine (rooted_shape schema v).congr fun path => ?_
    rw [if_neg fun hnil => hclean (((rooted_shape schema v).eq_nil_iff path "").mp hnil)]

/-! ## The graph of one definition -/

theorem rooted_start (fields : Entries) : Rooted fun path => startFindings path fields :=
  rooted_ite rooted_none (rooted_one (by simp [Complaint.code]) ".StartAt")

theorem rooted_continuation (name : String) (fields : Entries) :
    Rooted fun path => continuationFindings name path fields := by
  have hone (complaint : Complaint) (h : complaint.code ≠ "SCHEMA_VALIDATION_FAILED") :
      Rooted fun path => [⟨complaint, path⟩] :=
    (rooted_one h "").congr fun path => by rw [String.append_empty]
  refine rooted_ite (rooted_ite (hone _ ?_) rooted_none)
    (rooted_ite (hone _ ?_) (rooted_ite (hone _ ?_) rooted_none)) <;> simp [Complaint.code]

theorem rooted_missing (declared : Entries) (name target steps : String) :
    Rooted fun path => missing declared name (target, path ++ steps) := by
  have hone : Rooted fun path => [⟨.unknownTarget name target, path ++ steps⟩] :=
    rooted_one (by simp [Complaint.code]) steps
  exact (rooted_ite (p := declared.contains target = true) rooted_none hone).congr fun path => rfl

/-- The targets under a key of a state. -/
theorem rooted_key (declared fields : Entries) (name key : String) :
    Rooted fun path => (if fields.contains key = true then [(textAt fields key, s!"{path}.{key}")]
      else []).flatMap (missing declared name) := by
  by_cases h : fields.contains key = true
  · have hmissing := rooted_missing declared name (textAt fields key) (rendered [field key])
    refine hmissing.congr fun path => ?_
    rw [if_pos h, List.flatMap_singleton, rendered_field]
  · refine rooted_none.congr fun path => ?_
    rw [if_neg h, List.flatMap_nil]

theorem rooted_nextTargets (declared : Entries) (name key : String) (items : List Value) :
    Rooted fun path => (nextTargets key path items).flatMap (missing declared name) := by
  have hitem (part : Value × Nat) : Rooted fun path => missing declared name
      ((part.1.entries?.map fun fields => textAt fields "Next").getD "",
        s!"{path}.{key}[{part.2}].Next") :=
    (rooted_missing declared name _ _).congr fun path => by rw [rendered_next]
  refine (Rooted.flatMap fun part (_ : part ∈ items.zipIdx) => hitem part).congr fun path => ?_
  rw [nextTargets, List.mapIdx_eq_zipIdx_map, List.flatMap_map]

theorem rooted_targets (declared : Entries) (name : String) (fields : Entries) :
    Rooted fun path => targetFindings declared name path fields := by
  have hnext := rooted_key declared fields name "Next"
  have hcatch := rooted_nextTargets declared name "Catch" (listAt fields "Catch")
  by_cases htype : textAt fields "Type" = "Choice"
  · have hdefault := rooted_key declared fields name "Default"
    have hchoices := rooted_nextTargets declared name "Choices" (listAt fields "Choices")
    refine ((hnext.append (hdefault.append hchoices)).append hcatch).congr fun path => ?_
    simp only [targetFindings_eq, transitions, htype, beq_self_eq_true, if_true,
      List.flatMap_append]
  · refine (hnext.append hcatch).congr fun path => ?_
    simp [targetFindings_eq, transitions, htype]

/-! ## Definitions in definitions -/

-- Along the walk of the linter: one statement for each of its functions.
mutual

theorem rooted_definition : (v : Value) → Rooted (definitionFindings · v)
  | .map fields =>
    (((rooted_start fields).append (rooted_states fields)).behindShape definitionShape
      (.map fields)).congr fun path => by
        rw [definitionFindings]
        split
        · rw [if_pos ‹_›]
        · rw [if_neg ‹_›]
  | .anchored _ v => (rooted_definition v).congr fun path => by rw [definitionFindings]
  | .again _ => rooted_none.congr fun path => by rw [definitionFindings]
  | .atom _ | .list _ | .tuple _ | .set _ =>
    (rooted_shape definitionShape _).congr fun path => by rw [definitionFindings.eq_def]

theorem rooted_states : (fields : List (Atom × Value)) → Rooted (statesFindings · fields)
  | [] => rooted_none.congr fun path => by rw [statesFindings]
  | (k, v) :: rest =>
    (rooted_ite (rooted_declared v) (rooted_states rest)).congr fun path => by rw [statesFindings]

theorem rooted_declared : (v : Value) → Rooted (declaredFindings · v)
  | .map states => (rooted_eachState states states).congr fun path => by rw [declaredFindings]
  | .anchored _ v => (rooted_declared v).congr fun path => by rw [declaredFindings]
  | .atom _ | .list _ | .tuple _ | .set _ | .again _ =>
    rooted_none.congr fun path => by rw [declaredFindings.eq_def]

theorem rooted_eachState (declared : Entries) :
    (states : List (Atom × Value)) → Rooted (eachStateFindings declared · states)
  | [] => rooted_none.congr fun path => by rw [eachStateFindings]
  | (k, v) :: rest =>
    (((rooted_state declared (Literal.displayAtom k) v).below
        (".States." ++ Literal.displayAtom k)).append (rooted_eachState declared rest)).congr
      fun path => by rw [eachStateFindings, String.append_assoc]

theorem rooted_state (declared : Entries) (name : String) :
    (v : Value) → Rooted (stateFindings declared name · v)
  | .map fields => by
    have hbranches := rooted_branches fields
    have hnested := rooted_nested (itemKey fields) fields
    have hwithin : Rooted (withinFindings fields (textAt fields "Type")) := by
      unfold withinFindings
      split
      · exact hbranches
      · exact hnested
      · exact rooted_none
    exact ((((rooted_continuation name fields).append (rooted_targets declared name fields)).append
      hwithin).behindShape stateShape (.map fields)).congr fun path => by
        rw [stateFindings]
        split
        · rw [if_pos ‹_›]
          rfl
        · rw [if_neg ‹_›]
  | .anchored _ v => (rooted_state declared name v).congr fun path => by rw [stateFindings]
  | .again _ => rooted_none.congr fun path => by rw [stateFindings]
  | .atom _ | .list _ | .tuple _ | .set _ =>
    (rooted_shape stateShape _).congr fun path => by rw [stateFindings.eq_def]

theorem rooted_branches : (fields : List (Atom × Value)) → Rooted (branchesFindings · fields)
  | [] => rooted_none.congr fun path => by rw [branchesFindings]
  | (k, v) :: rest =>
    (rooted_ite (rooted_branchList v) (rooted_branches rest)).congr fun path => by
      rw [branchesFindings]

theorem rooted_branchList : (v : Value) → Rooted (branchListFindings · v)
  | .list branches => (rooted_eachBranch 0 branches).congr fun path => by rw [branchListFindings]
  | .anchored _ v => (rooted_branchList v).congr fun path => by rw [branchListFindings]
  | .atom _ | .map _ | .tuple _ | .set _ | .again _ =>
    rooted_none.congr fun path => by rw [branchListFindings.eq_def]

theorem rooted_eachBranch (index : Nat) :
    (branches : List Value) → Rooted (eachBranchFindings · index branches)
  | [] => rooted_none.congr fun path => by rw [eachBranchFindings]
  | v :: rest =>
    (((rooted_definition v).below (rendered [field "Branches", .index index])).append
        (rooted_eachBranch (index + 1) rest)).congr
      fun path => by rw [eachBranchFindings, rendered_branch]

theorem rooted_nested (key : String) :
    (fields : List (Atom × Value)) → Rooted (nestedFindings key · fields)
  | [] => rooted_none.congr fun path => by rw [nestedFindings]
  | (k, v) :: rest =>
    (rooted_ite ((rooted_definition v).below ("." ++ key)) (rooted_nested key rest)).congr
      fun path => by rw [nestedFindings, String.append_assoc]

end

/-! ## The linter -/

theorem report_of_standsFor {definition document : Value} (hstands : StandsFor definition document)
    (hreadable : excess? definition = none) :
    report definition = .ok (definitionFindings "$" document) := by
  rw [report, hreadable]
  cases hstands with
  | text hparse => rw [findings_of_parse hparse]
  | value hnot => rw [findings_of_not_text hnot]

/-- What the linter finds in a document that is nested at a path is what it finds in the document on
its own, one for one and in the same order, with the path in the place of the root. -/
theorem report_rerooted (document : Value) (path : String) :
    List.Forall₂ (Rerooted "$" path) (definitionFindings "$" document)
      (definitionFindings path document) ∧
    ∀ definition, StandsFor definition document → excess? definition = none →
      report definition = .ok (definitionFindings "$" document) :=
  ⟨rooted_definition document "$" path, fun _ => report_of_standsFor⟩

theorem report_rerooted_stray : StandsFor strayBranch strayBranch ∧ excess? strayBranch = none ∧
    ∃ found, report strayBranch = .ok found ∧
      List.Forall₂ (Rerooted "$" "$.States.Each.Iterator") found
        (definitionFindings "$.States.Each.Iterator" strayBranch) := by
  have hstands : StandsFor strayBranch strayBranch := .value (by simp [strayBranch, Value.object])
  obtain ⟨hrerooted, hreport⟩ := report_rerooted strayBranch "$.States.Each.Iterator"
  exact ⟨hstands, rfl, _, hreport strayBranch hstands rfl, hrerooted⟩

end FlowTemplate.Lint
