import FlowTemplate.Document.Misfit
/-!
# Entries under text keys, and plain values

A text key is the same key as an equal text only, so looking up, replacing, adding and erasing
entries under text keys are what they are for lists of pairs. Asking a value for what stands under a key fails for
nothing but the lack of entries. A value is plain when it holds null, truth values,
integers, texts, lists, and mappings from texts in which no key stands twice. Doubles are left out:
what is said of plain values is said of their exact text.
-/

namespace FlowTemplate

theorem Atom.sameKey_str_right (a : Atom) (s : String) : a.sameKey (.str s) = (a == .str s) := by
  cases a <;> simp [sameKey, quantity?, number?]

namespace Entries

variable {entries : Entries} {key : String} {v : Value}

@[simp] theorem find?_nil (key : String) : find? [] key = none := rfl

theorem find?_cons (k : Atom) (v : Value) (rest : Entries) (key : String) :
    find? ((k, v) :: rest) key = if k = .str key then some v else find? rest key := by
  simp [find?, get?, Atom.sameKey_str_right]

theorem mem_of_find? (h : find? entries key = some v) : (.str key, v) ∈ entries := by
  induction entries with
  | nil => simp at h
  | cons entry rest ih =>
    obtain ⟨k, w⟩ := entry
    rw [find?_cons] at h
    by_cases hk : k = .str key
    · rw [if_pos hk] at h
      exact List.mem_cons.mpr (.inl (by rw [hk, Option.some.inj h]))
    · rw [if_neg hk] at h
      exact List.mem_cons_of_mem _ (ih h)

/-- Where every key is different, an entry is found under its key. -/
theorem find?_of_mem (h : entries.keys.Nodup) (hmem : (.str key, v) ∈ entries) :
    find? entries key = some v := by
  induction entries with
  | nil => cases hmem
  | cons entry rest ih =>
    obtain ⟨k, w⟩ := entry
    obtain ⟨hk, hrest⟩ := List.nodup_cons.mp h
    rw [find?_cons]
    rcases List.mem_cons.mp hmem with heq | hlater
    · obtain ⟨rfl, rfl⟩ := Prod.mk.inj heq
      rw [if_pos rfl]
    · have hne : k ≠ .str key := by
        rintro rfl
        exact hk (List.mem_map.mpr ⟨_, hlater, rfl⟩)
      rw [if_neg hne, ih hrest hlater]

theorem find?_eq_none_iff : find? entries key = none ↔ .str key ∉ entries.keys := by
  induction entries with
  | nil => simp [keys]
  | cons entry rest ih =>
    obtain ⟨k, w⟩ := entry
    rw [find?_cons]
    by_cases hk : k = .str key
    · simp [hk, keys]
    · simpa [hk, keys, eq_comm] using ih

theorem contains_eq_false_iff : contains entries key = false ↔ find? entries key = none := by
  simp [contains]

theorem insert_cons (k : Atom) (w : Value) (rest : Entries) (key : String) (v : Value) :
    insert ((k, w) :: rest) (.str key) v =
      if k = .str key then (k, v) :: rest else (k, w) :: insert rest (.str key) v := by
  simp [insert, Atom.sameKey_str_right]

/-- A key that is not there goes to the end. -/
theorem insert_of_notMem (h : .str key ∉ entries.keys) :
    insert entries (.str key) v = entries ++ [(.str key, v)] := by
  induction entries with
  | nil => rfl
  | cons entry rest ih =>
    obtain ⟨k, w⟩ := entry
    have hk : k ≠ .str key := by rintro rfl; exact h (by simp [keys])
    have hrest : .str key ∉ keys rest := fun hm => h (by simp [keys] at hm ⊢; exact .inr hm)
    rw [insert_cons, if_neg hk, ih hrest, List.cons_append]

theorem find?_insert (entries : Entries) (key other : String) (v : Value) :
    find? (insert entries (.str key) v) other =
      if other = key then some v else find? entries other := by
  induction entries with
  | nil => simp [insert, find?_cons, eq_comm]
  | cons entry rest ih =>
    obtain ⟨k, w⟩ := entry
    rw [insert_cons]
    by_cases hk : k = .str key
    · rw [if_pos hk, find?_cons, find?_cons, hk]
      by_cases ho : other = key
      · simp [ho]
      · have hne : Atom.str key ≠ .str other := fun e => ho (Atom.str.inj e).symm
        rw [if_neg hne, if_neg ho, if_neg hne]
    · rw [if_neg hk, find?_cons, find?_cons, ih]
      by_cases ho : k = .str other
      · have hne : other ≠ key := by rintro rfl; exact hk ho
        rw [if_pos ho, if_neg hne, if_pos ho]
      · rw [if_neg ho, if_neg ho]

/-- An entry after a change is the new one or an old one. -/
theorem mem_insert {k : Atom} {w : Value} (h : (k, w) ∈ insert entries (.str key) v) :
    (k, w) = (.str key, v) ∨ (k, w) ∈ entries := by
  induction entries with
  | nil => exact .inl (by simpa [insert] using h)
  | cons entry rest ih =>
    obtain ⟨l, x⟩ := entry
    rw [insert_cons] at h
    by_cases hl : l = .str key
    · rw [if_pos hl, hl, List.mem_cons] at h
      exact h.imp_right (List.mem_cons_of_mem _)
    · rw [if_neg hl, List.mem_cons] at h
      rcases h with h | h
      · exact .inr (h ▸ List.mem_cons_self)
      · exact (ih h).imp_right (List.mem_cons_of_mem _)

theorem insert_insert (entries : Entries) (key : String) (v w : Value) :
    insert (insert entries (.str key) v) (.str key) w = insert entries (.str key) w := by
  induction entries with
  | nil => rw [insert, insert_cons, if_pos rfl]; rfl
  | cons entry rest ih =>
    obtain ⟨k, u⟩ := entry
    rw [insert_cons, insert_cons]
    by_cases hk : k = .str key
    · rw [if_pos hk, if_pos hk, insert_cons, if_pos hk]
    · rw [if_neg hk, if_neg hk, insert_cons, if_neg hk, ih]

theorem find?_erase {other : String} (h : other ≠ key) :
    find? (erase entries key) other = find? entries other := by
  induction entries with
  | nil => rfl
  | cons entry rest ih =>
    obtain ⟨k, w⟩ := entry
    rw [erase] at ih ⊢
    rw [find?_cons]
    by_cases hk : k = .str key
    · have hother : k ≠ .str other := fun hk' => h (Atom.str.inj (hk'.symm.trans hk))
      rw [List.filter_cons_of_neg (by simp [hk, Atom.sameKey_str_right]), if_neg hother, ih]
    · rw [List.filter_cons_of_pos (by simpa [Atom.sameKey_str_right] using hk), find?_cons, ih]

/-- Erasing another key leaves an entry between what is left before and after it. -/
theorem erase_append_cons {before after : Entries} {other : String} (h : other ≠ key) :
    erase (before ++ (.str other, v) :: after) key =
      erase before key ++ (.str other, v) :: erase after key := by
  have hother : Atom.str other ≠ .str key := fun heq => h (Atom.str.inj heq)
  rw [erase, List.filter_append,
    List.filter_cons_of_pos (by simpa [Atom.sameKey_str_right] using hother)]
  rfl

theorem insert_map (f : Value → Value) (entries : Entries) (key : Atom) (v : Value) :
    insert (entries.map fun (k, w) => (k, f w)) key (f v) =
      (insert entries key v).map fun (k, w) => (k, f w) := by
  induction entries with
  | nil => rfl
  | cons entry rest ih =>
    obtain ⟨k, w⟩ := entry
    rw [List.map_cons, insert, insert, ih]
    split <;> rfl

theorem ofPairs_map (f : Value → Value) (pairs : List (Atom × Value)) :
    ofPairs (pairs.map fun (k, v) => (k, f v)) =
      (ofPairs pairs).map fun (k, v) => (k, f v) := by
  have hfold (done : Entries) : (pairs.map fun (k, v) => (k, f v)).foldl
      (fun (entries : Entries) (k, v) => insert entries k v) (done.map fun (k, v) => (k, f v)) =
        (pairs.foldl (fun (entries : Entries) (k, v) => insert entries k v) done).map
          fun (k, v) => (k, f v) := by
    induction pairs generalizing done with
    | nil => rfl
    | cons pair rest ih =>
      obtain ⟨k, v⟩ := pair
      rw [List.map_cons, List.foldl_cons, List.foldl_cons, ← ih]
      dsimp only
      rw [insert_map]
  exact hfold []

/-- Whether all keys are texts and no key stands twice. -/
def areDistinct (entries : Entries) : Bool :=
  entries.all (fun (k, _) => match k with | .str _ => true | _ => false) &&
    decide entries.keys.Nodup

theorem areDistinct_iff : areDistinct entries = true ↔
    (∀ k ∈ entries.keys, ∃ s, k = .str s) ∧ entries.keys.Nodup := by
  have hkey (k : Atom) : (match k with | .str _ => true | _ => false) = true ↔ ∃ s, k = .str s := by
    cases k <;> simp
  simp only [areDistinct, Bool.and_eq_true, decide_eq_true_eq, List.all_eq_true, hkey]
  refine and_congr_left fun _ => ⟨fun h k hk => ?_, fun h entry he => ?_⟩
  · obtain ⟨entry, he, rfl⟩ := List.mem_map.mp hk
    exact h entry he
  · exact h entry.1 (List.mem_map_of_mem he)

/-- Entries with distinct text keys that are put in one after the other stay as they are. -/
theorem foldl_insert (pairs : List (Atom × Value)) (done : Entries)
    (h : areDistinct (done ++ pairs) = true) :
    pairs.foldl (fun entries (k, v) => insert entries k v) done = done ++ pairs := by
  induction pairs generalizing done with
  | nil => simp
  | cons pair rest ih =>
    obtain ⟨k, v⟩ := pair
    obtain ⟨htext, hnodup⟩ := areDistinct_iff.mp h
    obtain ⟨s, rfl⟩ := htext k (by simp [keys])
    have hnew : .str s ∉ keys done := by
      intro hm
      rw [keys, List.map_append, List.nodup_append] at hnodup
      exact hnodup.2.2 _ hm _ (by simp) rfl
    have hrest := ih (done ++ [(.str s, v)]) (by simpa using h)
    simpa [insert_of_notMem hnew] using hrest

theorem ofPairs_of_areDistinct {pairs : List (Atom × Value)} (h : areDistinct pairs = true) :
    ofPairs pairs = pairs := by
  simpa [ofPairs] using foldl_insert pairs [] (by simpa using h)

end Entries

namespace Value

theorem entries_eq {v : Value} {entries : Entries} (h : v.entries? = some entries) :
    v.entries = .ok entries := by
  rw [Value.entries?] at h
  rw [Value.entries]
  cases hbare : v.bare with
  | map inner =>
    rw [hbare] at h
    cases h
    rfl
  | _ =>
    rw [hbare] at h
    cases h

theorem field_eq {v : Value} {entries : Entries} (h : v.entries? = some entries) (key : String) :
    v.field key = .ok (entries.find? key) := by
  rw [Value.field, entries_eq h]
  rfl

theorem fieldOrNull_eq {v : Value} {entries : Entries} (h : v.entries? = some entries)
    (key : String) : v.fieldOrNull key = .ok ((entries.find? key).getD .null) := by
  rw [Value.fieldOrNull, field_eq h]
  rfl

/-- What is empty has no entries. -/
theorem entries?_of_isEmpty : (v : Value) → v.isEmpty = true → {entries : Entries} →
    v.entries? = some entries → entries = []
  | .map _, hempty, _, h => by
    cases h
    exact List.isEmpty_iff.mp hempty
  | .anchored _ v, hempty, _, h => entries?_of_isEmpty v hempty h
  | .atom _, _, _, h | .list _, _, _, h | .tuple _, _, _, h | .set _, _, _, h
  | .again _, _, _, h => by cases h

mutual

/-- Values of null, truth values, integers, texts, lists, and mappings from texts without repeated
keys. -/
def isPlain : Value → Bool
  | .atom a => match a with
    | .null | .bool _ | .int _ | .str _ => true
    | _ => false
  | .list items => plainItems items
  | .tuple _ | .set _ | .anchored .. | .again _ => false
  | .map entries => Entries.areDistinct entries && plainEntries entries

def plainItems : List Value → Bool
  | [] => true
  | v :: rest => isPlain v && plainItems rest

def plainEntries : List (Atom × Value) → Bool
  | [] => true
  | (_, v) :: rest => isPlain v && plainEntries rest

end

theorem plainItems_iff (items : List Value) :
    plainItems items = true ↔ ∀ v ∈ items, v.isPlain = true := by
  induction items with
  | nil => simp [plainItems]
  | cons v rest ih => simp [plainItems, ih]

theorem plainEntries_iff (entries : Entries) :
    plainEntries entries = true ↔ ∀ entry ∈ entries, entry.2.isPlain = true := by
  induction entries with
  | nil => simp [plainEntries]
  | cons entry rest ih => simp [plainEntries, ih]

theorem isPlain_list (items : List Value) :
    (Value.list items).isPlain = true ↔ ∀ v ∈ items, v.isPlain = true := by
  rw [isPlain, plainItems_iff]

theorem isPlain_map (entries : Entries) : (Value.map entries).isPlain = true ↔
    entries.areDistinct = true ∧ ∀ entry ∈ entries, entry.2.isPlain = true := by
  rw [isPlain, Bool.and_eq_true, plainEntries_iff]

/-- What holds of plain values without parts, and of a list or mapping if it holds of the parts,
holds of every plain value. -/
@[elab_as_elim]
theorem plain_induction {P : (v : Value) → v.isPlain = true → Prop} (null : P .null rfl)
    (bool : ∀ b, P (.bool b) rfl) (int : ∀ i, P (.int i) rfl) (str : ∀ s, P (.str s) rfl)
    (list : ∀ items (h : (Value.list items).isPlain = true),
      (∀ v (hv : v ∈ items), P v ((isPlain_list items).mp h v hv)) → P (.list items) h)
    (map : ∀ entries (h : (Value.map entries).isPlain = true),
      (∀ entry (he : entry ∈ entries), P entry.2 (((isPlain_map entries).mp h).2 entry he)) →
      P (.map entries) h) :
    (v : Value) → (h : v.isPlain = true) → P v h
  | .atom a, h => by
    cases a with
    | null => exact null
    | bool b => exact bool b
    | int i => exact int i
    | str s => exact str s
    | float x => simp [isPlain] at h
    | bytes data => simp [isPlain] at h
    | time t => simp [isPlain] at h
  | .list items, h => list items h fun v hv =>
    plain_induction null bool int str list map v ((isPlain_list items).mp h v hv)
  | .map entries, h => map entries h fun entry he =>
    plain_induction null bool int str list map entry.2 (((isPlain_map entries).mp h).2 entry he)
  | .tuple _, h | .set _, h | .anchored .., h | .again _, h => by simp [isPlain] at h
termination_by v => sizeOf v
decreasing_by
  · have := List.sizeOf_lt_of_mem hv
    simp only [Value.list.sizeOf_spec]
    omega
  · have := List.sizeOf_lt_of_mem he
    have : sizeOf entry = 1 + sizeOf entry.1 + sizeOf entry.2 := rfl
    simp only [Value.map.sizeOf_spec]
    omega

end Value

end FlowTemplate
