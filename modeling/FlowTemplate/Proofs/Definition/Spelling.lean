import FlowTemplate.Definition
import FlowTemplate.Proofs.Definition.Extraction
import FlowTemplate.Proofs.Document.Tree
import FlowTemplate.Proofs.Reference.Spelling
/-!
# Definition strings and the spelling of addresses

An address is an intrinsic in both spellings. So the names that are drawn for a definition and the
text that is made of it do not depend on how the addresses in it are spelled; only the intrinsics
kept beside the text do.
-/

namespace FlowTemplate

open FlowTemplate.Computation

namespace Intrinsic

variable {σ ε : Type}

theorem isIntrinsic_map (entries : Entries) :
    isIntrinsic (.map entries) = entries.keys.any isMarker := by
  rw [isIntrinsic, Entries.keys, List.any_map]
  rfl

theorem isIntrinsic_paired (entries : Entries) :
    isIntrinsic (.map entries.paired) = isIntrinsic (.map entries) := by
  rw [isIntrinsic_map, isIntrinsic_map, Value.keys_paired]

theorem isIntrinsic_of_isAddress {v : Value} (h : Reference.IsAddress v) :
    isIntrinsic v = true := by
  obtain ⟨argument, rfl⟩ := h
  have hmarked : [Atom.str "Fn::GetAtt"].any isMarker = true := by decide +kernel
  exact (isIntrinsic_map _).trans hmarked

/-- What has been extracted, with the addresses in the parameters written as pairs. -/
def respelled {α : Type} (found : α × List Parameter) : α × List Parameter :=
  (found.1, found.2.map fun (token, v) => (token, v.paired))

mutual

/-- Extraction takes the same parts out in both spellings, under the same names. -/
theorem run_extract_paired (next : Generator σ ε) : (v : Value) → (s : σ) →
    (extract next v.paired).run s = outcome respelled ((extract next v).run s)
  | .atom _, _ | .tuple _, _ | .set _, _ | .anchored .., _ | .again _, _ => by
    rw [Value.paired.eq_def]
    rfl
  | .list items, s => by
    rw [Value.paired_list, extract, extract, run_bind, run_bind,
      run_extractItems_paired next items s]
    rcases (extractItems next items).run s with ⟨e | found, s₁⟩ <;> rfl
  | .map entries, s => by
    rw [Value.paired_map, extract, extract, isIntrinsic_paired]
    by_cases h : isIntrinsic (.map entries) = true
    · rw [if_pos h, if_pos h, run_bind, run_bind]
      rcases (next.draw).run s with ⟨e | token, s₁⟩
      · rfl
      · simp [run_pure, outcome, respelled, Except.map]
    · have haddress : ¬ Reference.IsAddress (.map entries) := fun h' =>
        h (isIntrinsic_of_isAddress h')
      rw [if_neg h, if_neg h, run_bind, run_bind, Value.paired_of_not_address haddress,
        run_extractEntries_paired next entries s]
      rcases (extractEntries next entries).run s with ⟨e | found, s₁⟩ <;> rfl

theorem run_extractItems_paired (next : Generator σ ε) : (items : List Value) → (s : σ) →
    (extractItems next (items.map Value.paired)).run s =
      outcome respelled ((extractItems next items).run s)
  | [], _ => rfl
  | v :: rest, s => by
    rw [List.map_cons, extractItems, extractItems, run_bind, run_bind, run_extract_paired next v s]
    rcases (extract next v).run s with ⟨e | here, s₁⟩
    · rfl
    · simp only [outcome, Except.map, run_bind, run_extractItems_paired next rest s₁]
      rcases (extractItems next rest).run s₁ with ⟨e | after, s₂⟩
      · rfl
      · simp [run_pure, respelled]

theorem run_extractEntries_paired (next : Generator σ ε) :
    (entries : List (Atom × Value)) → (s : σ) →
    (extractEntries next (entries.map fun entry => (entry.1, entry.2.paired))).run s =
      outcome respelled ((extractEntries next entries).run s)
  | [], _ => rfl
  | (k, v) :: rest, s => by
    rw [List.map_cons, extractEntries, extractEntries, run_bind, run_bind,
      run_extract_paired next v s]
    rcases (extract next v).run s with ⟨e | here, s₁⟩
    · rfl
    · simp only [outcome, Except.map, run_bind, run_extractEntries_paired next rest s₁]
      rcases (extractEntries next rest).run s₁ with ⟨e | after, s₂⟩
      · rfl
      · simp [run_pure, respelled]

end

end Intrinsic

namespace Value

mutual

theorem hasNumbers_paired : (v : Value) → v.paired.hasNumbers = v.hasNumbers
  | .atom _ | .tuple _ | .set _ | .anchored .. | .again _ => by rw [paired.eq_def]
  | .list items => by
    rw [paired_list, hasNumbers, hasNumbers, itemsHaveNumbers_paired items]
  | .map entries => by
    rw [paired_map, hasNumbers, hasNumbers]
    by_cases haddress : Reference.IsAddress (.map entries)
    · obtain ⟨argument, hargument⟩ := haddress
      obtain rfl := Value.map.inj hargument
      cases argument with
      | atom a => cases a <;> rfl
      | _ => rfl
    · rw [paired_of_not_address haddress, entriesHaveNumbers_paired entries]

theorem itemsHaveNumbers_paired : (items : List Value) →
    itemsHaveNumbers (items.map paired) = itemsHaveNumbers items
  | [] => rfl
  | v :: rest => by
    rw [List.map_cons, itemsHaveNumbers, itemsHaveNumbers, hasNumbers_paired v,
      itemsHaveNumbers_paired rest]

theorem entriesHaveNumbers_paired : (entries : List (Atom × Value)) →
    entriesHaveNumbers (entries.map fun entry => (entry.1, entry.2.paired)) =
      entriesHaveNumbers entries
  | [] => rfl
  | (k, v) :: rest => by
    rw [List.map_cons, entriesHaveNumbers, entriesHaveNumbers, hasNumbers_paired v,
      entriesHaveNumbers_paired rest]

end

end Value

namespace DefinitionString

/-- The text with other values for its parameters. -/
def withValues (f : Value → Value) : DefinitionString → DefinitionString
  | .plain text => .plain text
  | .substitution text parameters =>
    .substitution text (parameters.map fun (k, v) => (k, f v))

variable {σ ε : Type} {resolve : Value → Value}

theorem assemble_respelled (hresolve : ∀ v, resolve v.paired = (resolve v).paired)
    (style : Json.Style) (tree : Value) (parameters : List Intrinsic.Parameter) :
    assemble style resolve tree (parameters.map fun (token, v) => (token, v.paired)) =
      (assemble style resolve tree parameters).map (withValues Value.paired) := by
  rw [assemble, assemble]
  cases tree.json? style with
  | none => rfl
  | some text =>
    cases parameters with
    | nil => rfl
    | cons parameter rest =>
      have hpairs : ((parameter :: rest).map fun found => (found.1, found.2.paired)).map
          (fun found => (Atom.str found.1, resolve found.2)) =
          ((parameter :: rest).map fun found => (Atom.str found.1, resolve found.2)).map
            fun entry => (entry.1, entry.2.paired) := by
        rw [List.map_map, List.map_map]
        exact List.map_congr_left fun found _ => Prod.ext rfl (hresolve found.2)
      have hentries := (congrArg Entries.ofPairs hpairs).trans (Entries.ofPairs_map _ _)
      exact congrArg (fun entries => Except.ok (substitution text entries)) hentries

theorem build_of_not_text {style : Json.Style} {next : Intrinsic.Generator σ ε}
    {definition : Value} (h : ∀ text, definition ≠ .str text) :
    build style next resolve definition = ofTree style next resolve definition := by
  rw [build]
  exact h

theorem run_build_paired (hresolve : ∀ v, resolve v.paired = (resolve v).paired)
    (style : Json.Style) (next : Intrinsic.Generator σ ε) (definition : Value) (s : σ) :
    (build style next resolve definition.paired).run s =
      Intrinsic.outcome (withValues Value.paired)
        ((build style next resolve definition).run s) := by
  have htree (tree : Value) : (ofTree style next resolve tree.paired).run s =
      Intrinsic.outcome (withValues Value.paired) ((ofTree style next resolve tree).run s) := by
    rw [ofTree, ofTree, run_bind, run_bind, run_adapt, run_adapt, Intrinsic.run_extract_paired]
    rcases (Intrinsic.extract next tree).run s with ⟨e | ⟨tree, parameters⟩, s₁⟩
    · rfl
    · simp only [Intrinsic.outcome, Except.map, Intrinsic.respelled,
        assemble_respelled hresolve style tree parameters]
      rcases assemble style resolve tree parameters with m | definition <;> rfl
  by_cases htext : ∃ text, definition = .str text
  · obtain ⟨text, rfl⟩ := htext
    rw [Value.paired_atom]
    rfl
  · have hnot : ∀ text, definition ≠ .str text := not_exists.mp htext
    have hnot' : ∀ text, definition.paired ≠ .str text :=
      fun text h => hnot text (Value.eq_atom_of_paired h)
    rw [build_of_not_text hnot, build_of_not_text hnot']
    exact htree definition

end DefinitionString

end FlowTemplate
