import FlowTemplate.Document.Value
/-!
# Places and texts in a value

A list has its items as parts and a mapping its values, each in its order; nothing else has parts.
A place is reached from the whole through the parts, so it is a list of numbers. Places are ordered
as the value is read: a part comes before the parts after it, with all that is in it.

The texts of a value are all that stand in it, keys and the members of sets included.
-/

namespace FlowTemplate

/-- The numbers of the parts on the way to a place, counted from zero. -/
abbrev Position := List Nat

namespace Value

/-- The parts of a value, in their order. -/
def parts : Value → List Value
  | .list items => items
  | .map entries => entries.map (·.2)
  | _ => []

/-- What stands at a place in a value. -/
def part? (v : Value) : Position → Option Value
  | [] => some v
  | i :: position => v.parts[i]?.bind (part? · position)

/-- What a value is apart from its parts: how many there are, and under which keys. -/
def hull : Value → Value
  | .list items => .list (items.map fun _ => .null)
  | .map entries => .map (entries.map fun (k, _) => (k, .null))
  | v => v

variable {v w : Value}

theorem part?_cons (v : Value) (i : Nat) (position : Position) :
    v.part? (i :: position) = v.parts[i]?.bind (part? · position) := rfl

theorem part?_cons_eq_some_iff {i : Nat} {position : Position} :
    v.part? (i :: position) = some w ↔ ∃ x, v.parts[i]? = some x ∧ x.part? position = some w := by
  rw [part?_cons, Option.bind_eq_some_iff]

theorem sizeOf_lt_of_mem_parts (h : w ∈ v.parts) : sizeOf w < sizeOf v := by
  cases v with
  | list items =>
    have hlt : sizeOf w < sizeOf items := List.sizeOf_lt_of_mem h
    simp only [Value.list.sizeOf_spec]
    omega
  | map entries =>
    obtain ⟨entry, hentry, rfl⟩ := List.mem_map.mp h
    have hlt := List.sizeOf_lt_of_mem hentry
    have hpair : sizeOf entry = 1 + sizeOf entry.1 + sizeOf entry.2 := rfl
    simp only [Value.map.sizeOf_spec]
    omega
  | _ => cases h

/-- What holds of a value if it holds of its parts holds of every value. -/
@[elab_as_elim]
theorem parts_induction {P : Value → Prop} (h : ∀ v, (∀ w ∈ v.parts, P w) → P v) (v : Value) :
    P v :=
  h v fun w _ => parts_induction h w
termination_by sizeOf v
decreasing_by exact sizeOf_lt_of_mem_parts ‹_›

/-- No mapping in the value holds a key twice. -/
def HasOwnKeys (v : Value) : Prop :=
  ∀ position entries, v.part? position = some (.map entries) → (Entries.keys entries).Nodup

theorem HasOwnKeys.nodup {entries : Entries} (h : (Value.map entries).HasOwnKeys) :
    entries.keys.Nodup :=
  h [] entries rfl

theorem HasOwnKeys.of_mem_parts (h : v.HasOwnKeys) (hw : w ∈ v.parts) : w.HasOwnKeys := by
  obtain ⟨i, hi⟩ := List.mem_iff_getElem?.mp hw
  intro position entries hentries
  exact h (i :: position) entries (part?_cons_eq_some_iff.mpr ⟨w, hi, hentries⟩)

theorem HasOwnKeys.of_mem {entries : Entries} {entry : Atom × Value}
    (h : (Value.map entries).HasOwnKeys) (hentry : entry ∈ entries) : entry.2.HasOwnKeys :=
  h.of_mem_parts (List.mem_map_of_mem hentry)

end Value

/-! ## Texts -/

/-- The text that an atom is. -/
def Atom.texts : Atom → List String
  | .str s => [s]
  | _ => []

namespace Intrinsic

mutual

/-- The texts and keys anywhere in a value. -/
def allTexts : Value → List String
  | .atom a => a.texts
  | .list items | .tuple items => allTextsOfItems items
  | .set members => members.flatMap Atom.texts
  | .map entries => allTextsOfEntries entries
  | .anchored _ v => allTexts v
  | .again _ => []

def allTextsOfItems : List Value → List String
  | [] => []
  | v :: rest => allTexts v ++ allTextsOfItems rest

def allTextsOfEntries : List (Atom × Value) → List String
  | [] => []
  | (k, v) :: rest => k.texts ++ allTexts v ++ allTextsOfEntries rest

end

theorem mem_allTexts_list {items : List Value} {s : String} :
    s ∈ allTexts (.list items) ↔ ∃ v ∈ items, s ∈ allTexts v := by
  rw [allTexts]
  induction items with
  | nil => simp [allTextsOfItems]
  | cons v rest ih => simp [allTextsOfItems, ih]

theorem mem_allTexts_map {entries : Entries} {s : String} :
    s ∈ allTexts (.map entries) ↔ ∃ entry ∈ entries, s ∈ entry.1.texts ∨ s ∈ allTexts entry.2 := by
  rw [allTexts]
  induction entries with
  | nil => simp [allTextsOfEntries]
  | cons entry rest ih => simp [allTextsOfEntries, ih, or_assoc]

end Intrinsic

end FlowTemplate
