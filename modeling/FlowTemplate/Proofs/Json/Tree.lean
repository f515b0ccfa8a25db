import FlowTemplate.Json.Printer
import FlowTemplate.Proofs.Document.Tree
import FlowTemplate.Proofs.Json.Grammar
/-!
# Trees and JSON text

A tree has a JSON text, and whatever a text of the grammar writes is a tree.
-/

namespace FlowTemplate.Value

variable {around : List Nat} {v : Value}

theorem jsonFault_atom_eq_none_iff {a : Atom} :
    (Value.atom a).jsonFault around = none ↔ a.hasJson = true := by
  rw [jsonFault]
  split <;> simp_all

theorem jsonFault_of_anchored {number : Nat} (h : (anchored number v).jsonFault around = none) :
    v.jsonFault (number :: around) = none := by
  rw [jsonFault] at h
  split at h
  · cases h
  · exact h

theorem itemsFault_cons_eq_none_iff {rest : List Value} : itemsFault around (v :: rest) = none ↔
    v.jsonFault around = none ∧ itemsFault around rest = none := by
  rw [itemsFault]
  split <;> simp_all

theorem entriesFault_cons_eq_none_iff {k : Atom} {rest : Entries} :
    entriesFault around ((k, v) :: rest) = none ↔
      k.hasJson = true ∧ v.jsonFault around = none ∧ entriesFault around rest = none := by
  rw [entriesFault]
  split
  · split <;> simp_all
  · simp_all

theorem itemsFault_eq_none {items : List Value} (h : ∀ v ∈ items, v.jsonFault around = none) :
    itemsFault around items = none := by
  induction items with
  | nil => rfl
  | cons v rest ih =>
    obtain ⟨hv, hrest⟩ := List.forall_mem_cons.mp h
    exact itemsFault_cons_eq_none_iff.mpr ⟨hv, ih hrest⟩

theorem entriesFault_eq_none {entries : Entries}
    (h : ∀ entry ∈ entries, entry.1.hasJson = true ∧ entry.2.jsonFault around = none) :
    entriesFault around entries = none := by
  induction entries with
  | nil => rfl
  | cons entry rest ih =>
    obtain ⟨⟨hk, hv⟩, hrest⟩ := List.forall_mem_cons.mp h
    exact entriesFault_cons_eq_none_iff.mpr ⟨hk, hv, ih hrest⟩

theorem jsonFault_tree (h : v.isTree = true) (around : List Nat) :
    v.jsonFault around = none := by
  induction v, h using tree_induction with
  | atom a h => cases a <;> first | rfl | cases h
  | list items h ih => rw [jsonFault, itemsFault_eq_none ih]
  | map entries h ih =>
    rw [jsonFault]
    refine entriesFault_eq_none fun entry he => ⟨?_, ih entry he⟩
    obtain ⟨s, hs⟩ := ((isTree_map entries).mp h entry he).1
    rw [hs]
    rfl

/-- A tree has a JSON text. -/
theorem json?_tree (h : v.isTree = true) (style : Json.Style) :
    v.json? style = some (String.ofList (Json.render style 0 v)) := by
  rw [json?, toJson, jsonFault_tree h]
  rfl

end FlowTemplate.Value

namespace FlowTemplate.Json

/-- The parts of the piece are trees. -/
def Piece.IsTree : Piece → Prop
  | .value v => v.isTree = true
  | .items parts => ∀ v ∈ parts, v.isTree = true
  | .member entry => (∃ s, entry.1 = .str s) ∧ entry.2.isTree = true
  | .members parts => ∀ entry ∈ parts, (∃ s, entry.1 = .str s) ∧ entry.2.isTree = true

theorem Number.isTree {negative : Bool} {s : List Char} {a : Atom} (h : Number negative s a) :
    (Value.atom a).isTree = true := by
  obtain ⟨-, isFraction, isExponent⟩ := h
  cases isFraction <;> cases isExponent <;> rfl

theorem Scalar.isTree {s : List Char} {a : Atom} (h : Scalar s a) :
    (Value.atom a).isTree = true := by
  cases h with
  | word listed =>
    have htrees : ∀ entry ∈ words, (Value.atom entry.2).isTree = true := by decide
    exact htrees _ listed
  | number isNumber => exact isNumber.isTree
  | negative isNumber => exact isNumber.isTree

theorem Writes.isTree {s : List Char} {piece : Piece} (h : Writes s piece) : piece.IsTree := by
  induction h with
  | text body => exact rfl
  | scalar token => exact token.isTree
  | noItems hblanks => exact rfl
  | list hblanks parts ih => exact (Value.isTree_list _).mpr ih
  | noMembers hblanks => exact rfl
  | map hblanks parts ih =>
    refine (Value.isTree_map _).mpr fun entry hentry => ih entry ?_
    exact Entries.mem_ofPairs (fun pair hpair => (ih pair hpair).1) hentry
  | lastItem value hblanks ih => exact List.forall_mem_singleton.mpr ih
  | item value hbefore hafter more ih ihmore => exact List.forall_mem_cons.mpr ⟨ih, ihmore⟩
  | member body hbefore hafter value ih => exact ⟨⟨_, rfl⟩, ih⟩
  | lastMember first hblanks ih => exact List.forall_mem_singleton.mpr ih
  | moreMembers first hbefore hafter more ih ihmore => exact List.forall_mem_cons.mpr ⟨ih, ihmore⟩

/-- A text that can be read writes a tree. -/
theorem isTree_parse {text : String} {v : Value} (h : parse text = .ok v) : v.isTree = true := by
  obtain ⟨before, written, after, -, -, -, value⟩ := (parse_eq_ok_iff text v).mp h
  exact value.isTree

end FlowTemplate.Json
