import FlowTemplate.Document.Sharing
import FlowTemplate.Proofs.Document.Plain
/-!
# Trees

What JSON text can express: every container of a tree holds trees, the keys of its mappings are
texts, and no container has a number.
-/

namespace FlowTemplate

namespace Value

theorem treeItems_iff (items : List Value) :
    treeItems items = true ↔ ∀ v ∈ items, v.isTree = true := by
  induction items with
  | nil => simp [treeItems]
  | cons v rest ih => simp [treeItems, ih]

theorem treeEntries_iff (entries : Entries) :
    treeEntries entries = true ↔
      ∀ entry ∈ entries, (∃ s, entry.1 = .str s) ∧ entry.2.isTree = true := by
  induction entries with
  | nil => simp [treeEntries]
  | cons entry rest ih =>
    obtain ⟨k, v⟩ := entry
    cases k <;> simp [treeEntries, ih]

theorem isTree_list (items : List Value) :
    (Value.list items).isTree = true ↔ ∀ v ∈ items, v.isTree = true := by
  rw [isTree, treeItems_iff]

theorem isTree_map (entries : Entries) : (Value.map entries).isTree = true ↔
    ∀ entry ∈ entries, (∃ s, entry.1 = .str s) ∧ entry.2.isTree = true := by
  rw [isTree, treeEntries_iff]

/-- A tree is an atom, a list or a mapping. -/
@[elab_as_elim]
theorem tree_cases {P : (v : Value) → v.isTree = true → Prop} (atom : ∀ a h, P (.atom a) h)
    (list : ∀ items h, P (.list items) h) (map : ∀ entries h, P (.map entries) h) :
    (v : Value) → (h : v.isTree = true) → P v h
  | .atom a, h => atom a h
  | .list items, h => list items h
  | .map entries, h => map entries h
  | .tuple _, h | .set _, h | .anchored .., h | .again _, h => by simp [isTree] at h

theorem bare_of_isTree {v : Value} (h : v.isTree = true) : v.bare = v := by
  cases v, h using tree_cases <;> rfl

theorem isTree_of_find? {entries : Entries} {key : String} {v : Value}
    (h : (Value.map entries).isTree = true) (hfind : entries.find? key = some v) :
    v.isTree = true :=
  ((isTree_map entries).mp h _ (Entries.mem_of_find? hfind)).2

theorem sizeOf_lt_of_mem {entries : Entries} {entry : Atom × Value} (h : entry ∈ entries) :
    sizeOf entry.2 < sizeOf (Value.map entries) := by
  have hentry : sizeOf entry < sizeOf entries := List.sizeOf_lt_of_mem h
  have hvalue : sizeOf entry = 1 + sizeOf entry.1 + sizeOf entry.2 := rfl
  rw [map.sizeOf_spec]
  omega

theorem sizeOf_lt_of_find? {entries : Entries} {key : String} {v : Value}
    (h : entries.find? key = some v) : sizeOf v < sizeOf (Value.map entries) :=
  sizeOf_lt_of_mem (Entries.mem_of_find? h)

/-- What holds of atoms that are trees, and of a list or mapping if it holds of the parts, holds of
every tree. -/
@[elab_as_elim]
theorem tree_induction {P : (v : Value) → v.isTree = true → Prop} (atom : ∀ a h, P (.atom a) h)
    (list : ∀ items (h : (Value.list items).isTree = true),
      (∀ v (hv : v ∈ items), P v ((isTree_list items).mp h v hv)) → P (.list items) h)
    (map : ∀ entries (h : (Value.map entries).isTree = true),
      (∀ entry (he : entry ∈ entries), P entry.2 ((isTree_map entries).mp h entry he).2) →
      P (.map entries) h) :
    (v : Value) → (h : v.isTree = true) → P v h
  | .atom a, h => atom a h
  | .list items, h => list items h fun v hv =>
    tree_induction atom list map v ((isTree_list items).mp h v hv)
  | .map entries, h => map entries h fun entry he =>
    tree_induction atom list map entry.2 ((isTree_map entries).mp h entry he).2
  | .tuple _, h | .set _, h | .anchored .., h | .again _, h => by simp [isTree] at h
termination_by v => sizeOf v
decreasing_by
  · have := List.sizeOf_lt_of_mem hv
    simp only [Value.list.sizeOf_spec]
    omega
  · exact sizeOf_lt_of_mem he

theorem isTree_of_isPlain {v : Value} (h : v.isPlain = true) : v.isTree = true := by
  induction v, h using plain_induction with
  | null | bool b | int i | str s => rfl
  | list items h ih => exact (isTree_list items).mpr ih
  | map entries h ih =>
    have htexts := (Entries.areDistinct_iff.mp ((isPlain_map entries).mp h).1).1
    exact (isTree_map entries).mpr fun entry he =>
      ⟨htexts entry.1 (List.mem_map_of_mem he), ih entry he⟩

/-! ## Containers with numbers -/

theorem itemsHaveNumbers_eq_false_iff (items : List Value) :
    itemsHaveNumbers items = false ↔ ∀ v ∈ items, v.hasNumbers = false := by
  induction items with
  | nil => simp [itemsHaveNumbers]
  | cons v rest ih => simp [itemsHaveNumbers, ih]

theorem entriesHaveNumbers_eq_false_iff (entries : Entries) :
    entriesHaveNumbers entries = false ↔ ∀ entry ∈ entries, entry.2.hasNumbers = false := by
  induction entries with
  | nil => simp [entriesHaveNumbers]
  | cons entry rest ih => simp [entriesHaveNumbers, ih]

theorem hasNumbers_of_isTree {v : Value} (h : v.isTree = true) : v.hasNumbers = false := by
  induction v, h using tree_induction with
  | atom a h => rfl
  | list items h ih => exact (itemsHaveNumbers_eq_false_iff items).mpr ih
  | map entries h ih => exact (entriesHaveNumbers_eq_false_iff entries).mpr ih

theorem bare_of_hasNumbers {v : Value} (h : v.hasNumbers = false) : v.bare = v := by
  cases v with
  | anchored n v => cases h
  | _ => rfl

theorem eq_map_of_entries? {v : Value} {entries : Entries} (hv : v.hasNumbers = false)
    (h : v.entries? = some entries) : v = .map entries := by
  rw [Value.entries?, bare_of_hasNumbers hv] at h
  cases v with
  | map entries => cases h; rfl
  | _ => cases h

theorem hasNumbers_of_find? {entries : Entries} {key : String} {v : Value}
    (hentries : (Value.map entries).hasNumbers = false) (h : entries.find? key = some v) :
    v.hasNumbers = false :=
  (entriesHaveNumbers_eq_false_iff entries).mp hentries _ (Entries.mem_of_find? h)

end Value

namespace Entries

theorem mem_foldl_insert {pairs : List (Atom × Value)}
    (h : ∀ pair ∈ pairs, ∃ s, pair.1 = .str s) {done : Entries} {entry : Atom × Value}
    (hentry : entry ∈ pairs.foldl (fun entries (k, v) => entries.insert k v) done) :
    entry ∈ done ∨ entry ∈ pairs := by
  induction pairs generalizing done with
  | nil => exact .inl hentry
  | cons pair rest ih =>
    obtain ⟨k, v⟩ := pair
    obtain ⟨s, rfl⟩ := h (k, v) List.mem_cons_self
    rcases ih (fun pair hpair => h pair (List.mem_cons_of_mem _ hpair)) hentry with hdone | hrest
    · rcases mem_insert hdone with hnew | hold
      · exact .inr (hnew ▸ List.mem_cons_self)
      · exact .inl hold
    · exact .inr (List.mem_cons_of_mem _ hrest)

/-- Every entry of what is written one after the other is one of those that are written. -/
theorem mem_ofPairs {pairs : List (Atom × Value)} (h : ∀ pair ∈ pairs, ∃ s, pair.1 = .str s)
    {entry : Atom × Value} (hentry : entry ∈ ofPairs pairs) : entry ∈ pairs :=
  (mem_foldl_insert h hentry).resolve_left List.not_mem_nil

end Entries

end FlowTemplate
