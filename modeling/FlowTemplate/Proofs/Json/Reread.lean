import FlowTemplate.Proofs.Document.Position
import FlowTemplate.Proofs.Json.Double
import FlowTemplate.Proofs.Json.RoundTrip
import FlowTemplate.Proofs.Json.Tree
/-!
# What is read of a printed value

JSON text knows one kind of list, and texts as keys only. So a value that has JSON text is read back
with its tuples as lists, its keys as texts and its containers without their numbers; of entries
whose keys are the same text the last value remains, at the first place.
-/

namespace FlowTemplate

/-- The text that stands for an atom as a key. -/
def Atom.keyText (a : Atom) : String := String.ofList (Json.bareAtom a)

theorem Atom.keyText_str (s : String) : (Atom.str s).keyText = s := String.ofList_toList

/-- What is read of a printed atom. -/
def Atom.reread : Atom → Atom
  | .float x => .float x.reread
  | a => a

namespace Value

mutual

/-- What is read of a printed value. -/
def reread : Value → Value
  | .atom a => .atom a.reread
  | .list items | .tuple items => .list (rereadItems items)
  | .set _ | .again _ => .null
  | .anchored _ v => reread v
  | .map entries => .map (Entries.ofPairs (rereadEntries entries))

def rereadItems : List Value → List Value
  | [] => []
  | v :: rest => reread v :: rereadItems rest

def rereadEntries : List (Atom × Value) → List (Atom × Value)
  | [] => []
  | (k, v) :: rest => (.str k.keyText, reread v) :: rereadEntries rest

end

theorem rereadItems_eq (items : List Value) : rereadItems items = items.map reread := by
  induction items with
  | nil => rfl
  | cons v rest ih => rw [rereadItems, ih, List.map_cons]

theorem rereadEntries_eq (entries : Entries) : rereadEntries entries =
    entries.map fun (k, v) => (.str k.keyText, v.reread) := by
  induction entries with
  | nil => rfl
  | cons entry rest ih => rw [rereadEntries, ih, List.map_cons]

end Value

namespace Entries

/-- Entries with the same keys, whose values are related one by one. -/
abbrev Related (R : Value → Value → Prop) : Entries → Entries → Prop :=
  List.Forall₂ fun entry other => entry.1 = other.1 ∧ R entry.2 other.2

variable {R : Value → Value → Prop} {entries others : Entries}

theorem Related.insert (h : Related R entries others) (k : Atom) {v w : Value} (hv : R v w) :
    Related R (Entries.insert entries k v) (Entries.insert others k w) := by
  induction h with
  | nil => exact .cons ⟨rfl, hv⟩ .nil
  | @cons entry other entries others hentry hrest ih =>
    obtain ⟨k', x⟩ := entry
    obtain ⟨k'', y⟩ := other
    obtain ⟨hkeys, hx⟩ := hentry
    subst hkeys
    rw [Entries.insert, Entries.insert]
    by_cases hsame : k'.sameKey k = true
    · rw [if_pos hsame, if_pos hsame]
      exact .cons ⟨rfl, hv⟩ hrest
    · rw [if_neg hsame, if_neg hsame]
      exact .cons ⟨rfl, hx⟩ ih

/-- Put together in the same order, related entries stay related. -/
theorem Related.ofPairs (h : Related R entries others) :
    Related R (Entries.ofPairs entries) (Entries.ofPairs others) := by
  have hfoldl {done other : Entries} (hdone : Related R done other) :
      Related R (entries.foldl (fun entries (k, v) => entries.insert k v) done)
        (others.foldl (fun entries (k, v) => entries.insert k v) other) := by
    induction h generalizing done other with
    | nil => exact hdone
    | @cons entry other' entries others hentry _ ih =>
      obtain ⟨k, v⟩ := entry
      obtain ⟨k', w⟩ := other'
      obtain ⟨rfl, hv⟩ := hentry
      exact ih (hdone.insert k hv)
  exact hfoldl .nil

/-- The entries of a mapping under the texts of their keys. -/
def underTexts (entries : Entries) : Entries :=
  ofPairs (entries.map fun (k, v) => (.str k.keyText, v))

theorem Related.underTexts (h : Related R entries others) :
    Related R entries.underTexts others.underTexts := by
  refine Related.ofPairs ?_
  refine List.forall₂_map_left_iff.mpr (List.forall₂_map_right_iff.mpr (h.imp ?_))
  rintro ⟨k, v⟩ ⟨k', w⟩ ⟨hkeys, hv⟩
  exact ⟨by rw [show k = k' from hkeys], hv⟩

theorem mem_of_underTexts {entry : Atom × Value} (h : entry ∈ underTexts entries) :
    ∃ k, (k, entry.2) ∈ entries := by
  have hmem := mem_ofPairs (fun pair hpair => by
    obtain ⟨entry, -, rfl⟩ := List.mem_map.mp hpair
    exact ⟨_, rfl⟩) h
  obtain ⟨⟨k, v⟩, hentry, rfl⟩ := List.mem_map.mp hmem
  exact ⟨k, hentry⟩

end Entries

/-- A mapping is read with its entries under the texts of their keys. -/
theorem Value.reread_map (entries : Entries) : (Value.map entries).reread =
    .map (entries.underTexts.map fun (k, v) => (k, v.reread)) := by
  have hrelated : Entries.Related (fun v w => w = v.reread)
      (entries.map fun (k, v) => (.str k.keyText, v)) (rereadEntries entries) := by
    rw [rereadEntries_eq]
    exact List.forall₂_map_left_iff.mpr (List.forall₂_map_right_iff.mpr
      (List.forall₂_same.mpr fun _ _ => ⟨rfl, rfl⟩))
  have hsame {pairs others : Entries} (h : Entries.Related (fun v w => w = v.reread) pairs others) :
      others = pairs.map fun (k, v) => (k, v.reread) := by
    induction h with
    | nil => rfl
    | @cons entry other _ _ hentry _ ih =>
      obtain ⟨k, v⟩ := entry
      obtain ⟨k', w⟩ := other
      obtain ⟨rfl, rfl⟩ := hentry
      rw [ih, List.map_cons]
  rw [reread]
  exact congrArg Value.map (hsame hrelated.ofPairs)

/-! ## Trees -/

/-- Every double in the value is a number. -/
def Value.IsNanFree (v : Value) : Prop :=
  ∀ position x, v.part? position = some (.atom (.float x)) → x.kind ≠ .nan

theorem Value.IsNanFree.of_mem_parts {v w : Value} (h : v.IsNanFree) (hw : w ∈ v.parts) :
    w.IsNanFree := by
  obtain ⟨i, hi⟩ := List.mem_iff_getElem?.mp hw
  intro position x hx
  exact h (i :: position) x (Value.part?_cons_eq_some_iff.mpr ⟨w, hi, hx⟩)

theorem Entries.underTexts_of_texts {entries : Entries}
    (htexts : ∀ entry ∈ entries, ∃ s, entry.1 = .str s) (hkeys : entries.keys.Nodup) :
    underTexts entries = entries := by
  have hsame : (entries.map fun (k, v) => (Atom.str k.keyText, v)) = entries := by
    refine (List.map_congr_left fun entry hentry => ?_).trans (List.map_id entries)
    obtain ⟨s, hs⟩ := htexts entry hentry
    obtain ⟨k, v⟩ := entry
    dsimp only at hs ⊢
    rw [hs, Atom.keyText_str, id]
  rw [underTexts, hsame]
  refine ofPairs_of_areDistinct (areDistinct_iff.mpr ⟨fun k hk => ?_, hkeys⟩)
  obtain ⟨entry, hentry, rfl⟩ := List.mem_map.mp hk
  exact htexts entry hentry

/-- A tree in which no mapping holds a key twice is read back as it is. -/
theorem Value.reread_of_isTree {v : Value} (h : v.isTree = true) (hkeys : v.HasOwnKeys)
    (hnumbers : v.IsNanFree) : v.reread = v := by
  induction v, h using Value.tree_induction with
  | atom a h =>
    cases a with
    | float x => rw [reread, Atom.reread, Binary64.reread_of_number (hnumbers [] x rfl)]
    | _ => rfl
  | list items h ih =>
    rw [reread, rereadItems_eq, Value.list.injEq]
    refine (List.map_congr_left fun v hv => ?_).trans (List.map_id items)
    exact ih v hv (hkeys.of_mem_parts hv) (hnumbers.of_mem_parts hv)
  | map entries h ih =>
    have htexts := fun entry hentry => ((isTree_map entries).mp h entry hentry).1
    rw [reread_map, Entries.underTexts_of_texts htexts hkeys.nodup, Value.map.injEq]
    refine (List.map_congr_left fun entry hentry => ?_).trans (List.map_id entries)
    have hpart : entry.2 ∈ (Value.map entries).parts := List.mem_map_of_mem hentry
    exact Prod.ext rfl (ih entry hentry (hkeys.of_mem_parts hpart) (hnumbers.of_mem_parts hpart))

namespace Json

variable {style : Style}

/-! ## Keys -/

theorem body_of_unescaped {s : List Char} (h : ∀ c ∈ s, Unescaped c) : Body (s ++ ['"']) s := by
  induction s with
  | nil => exact .close
  | cons c s ih =>
    obtain ⟨⟨hquote, hslash, hcontrol⟩, hs⟩ := List.forall_mem_cons.mp h
    exact .plain hquote hslash hcontrol (ih hs)

/-- An atom that has JSON text and is no text is printed as a scalar, as a value and as a key. -/
theorem scalar_bareAtom {a : Atom} (hjson : a.hasJson = true) (htext : ∀ s, a ≠ .str s) :
    Scalar (bareAtom a) a.reread := by
  cases a with
  | null => exact scalar_word "null" (by simp [words, Atom.reread])
  | bool b =>
    cases b with
    | false => exact scalar_word "false" (by simp [words, Atom.reread])
    | true => exact scalar_word "true" (by simp [words, Atom.reread])
  | int i => exact scalar_integer i
  | float x => exact scalar_double x
  | str s => exact absurd rfl (htext s)
  | bytes | time => cases hjson

/-- A key is printed as a text that writes the text of the key. -/
theorem exists_body_of_renderKey {k : Atom} (hjson : k.hasJson = true)
    (hprintable : ∀ s ∈ k.texts, IsPrintable style s) :
    ∃ raw, renderKey style k = '"' :: raw ∧ Body raw k.keyText.toList := by
  by_cases htext : ∃ s, k = .str s
  · obtain ⟨s, rfl⟩ := htext
    rw [Atom.keyText_str]
    exact exists_body_of_isPrintable (hprintable s List.mem_cons_self)
  · have hne : ∀ s, k ≠ .str s := fun s hs => htext ⟨s, hs⟩
    refine ⟨bareAtom k ++ ['"'], ?_, ?_⟩
    · cases k <;> first | rfl | exact absurd rfl (hne _)
    · rw [Atom.keyText, String.toList_ofList]
      exact body_of_unescaped (scalar_bareAtom hjson hne).unescaped

/-! ## Values -/

theorem isWritten_atom {a : Atom} (hjson : a.hasJson = true)
    (hprintable : ∀ s ∈ a.texts, IsPrintable style s) :
    IsWritten style (.atom a) (.atom a.reread) := by
  by_cases htext : ∃ s, a = .str s
  · obtain ⟨s, rfl⟩ := htext
    exact isWritten_text (hprintable s List.mem_cons_self)
  · have hne : ∀ s, a ≠ .str s := fun s hs => htext ⟨s, hs⟩
    refine isWritten_scalar (scalar_bareAtom hjson hne) fun depth => ?_
    cases a <;> first | rfl | exact absurd rfl (hne _)

mutual

/-- What has JSON text and can be printed is printed as what is read back of it. -/
theorem isWritten_reread : (v : Value) → (around : List Nat) → v.jsonFault around = none →
    (∀ s ∈ Intrinsic.allTexts v, IsPrintable style s) → IsWritten style v v.reread
  | .atom a, around, hjson, hprintable =>
    isWritten_atom (Value.jsonFault_atom_eq_none_iff.mp hjson) hprintable
  | .list items, around, hjson, hprintable => by
    rw [Value.reread]
    exact isWritten_list (isWritten_rereadItems items around hjson hprintable)
  | .tuple items, around, hjson, hprintable => by
    rw [Value.reread]
    exact isWritten_tuple (isWritten_list (isWritten_rereadItems items around hjson hprintable))
  | .set members, around, hjson, _ => by cases hjson
  | .again number, around, hjson, _ => by cases hjson
  | .anchored number v, around, hjson, hprintable =>
    isWritten_reread v (number :: around) (Value.jsonFault_of_anchored hjson) hprintable
  | .map entries, around, hjson, hprintable => by
    rw [Value.reread]
    exact isWritten_map (isWritten_rereadEntries entries around hjson hprintable)

theorem isWritten_rereadItems : (items : List Value) → (around : List Nat) →
    Value.itemsFault around items = none →
    (∀ s ∈ Intrinsic.allTextsOfItems items, IsPrintable style s) →
    List.Forall₂ (IsWritten style) items (Value.rereadItems items)
  | [], _, _, _ => .nil
  | v :: rest, around, hjson, hprintable => by
    obtain ⟨hv, hrest⟩ := Value.itemsFault_cons_eq_none_iff.mp hjson
    obtain ⟨hhere, hafter⟩ := List.forall_mem_append.mp hprintable
    exact .cons (isWritten_reread v around hv hhere)
      (isWritten_rereadItems rest around hrest hafter)

theorem isWritten_rereadEntries : (entries : List (Atom × Value)) → (around : List Nat) →
    Value.entriesFault around entries = none →
    (∀ s ∈ Intrinsic.allTextsOfEntries entries, IsPrintable style s) →
    List.Forall₂ (IsEntryWritten style) entries (Value.rereadEntries entries)
  | [], _, _, _ => .nil
  | (k, v) :: rest, around, hjson, hprintable => by
    obtain ⟨hk, hv, hrest⟩ := Value.entriesFault_cons_eq_none_iff.mp hjson
    obtain ⟨hhere, hafter⟩ := List.forall_mem_append.mp hprintable
    obtain ⟨hkey, hvalue⟩ := List.forall_mem_append.mp hhere
    obtain ⟨raw, hraw, hbody⟩ := exists_body_of_renderKey hk hkey
    exact .cons ⟨⟨_, raw, rfl, hraw, hbody⟩, isWritten_reread v around hv hvalue⟩
      (isWritten_rereadEntries rest around hrest hafter)

end

/-! ## Whole texts -/

/-- The text of a value that has one is read back as `Value.reread` says. -/
theorem parse_render_reread (hstyle : style.asciiOnly = false) {v : Value}
    (h : v.jsonFault [] = none) : parse (String.ofList (render style 0 v)) = .ok v.reread := by
  refine (parse_eq_ok_iff _ v.reread).mpr ⟨[], render style 0 v, [], ?_, blanks_nil, blanks_nil, ?_⟩
  · rw [String.toList_ofList, List.append_nil, List.nil_append]
  · exact isWritten_reread v [] h (fun s _ => isPrintable_of_wide hstyle s) 0

end Json

end FlowTemplate
