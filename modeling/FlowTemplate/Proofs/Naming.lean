import FlowTemplate.Naming
import FlowTemplate.Proofs.Document.Plain
import FlowTemplate.Text.Casing
/-!
# Names spelled out

A logical ID is legal if it has letters and digits only, and at least one. A name becomes an ID by
spelling out its dashes and underscores and starting in upper case, and it is plain from the name
whether the ID is legal. A state machine is named by the `id` of its block, failing that by the
`name`, failing that by the key that the block stands under.
-/

/-! ## Letters, digits and capitals

The letters and digits of ASCII have their capitals among themselves. The capital form of a
character has at least one character, which need not be so for a table of several-character forms.
-/

namespace FlowTemplate.Text

theorem isAlphanum_iff (c : Char) : c.isAlphanum = true ↔ (0x41 ≤ c.toNat ∧ c.toNat ≤ 0x5A) ∨
    (0x61 ≤ c.toNat ∧ c.toNat ≤ 0x7A) ∨ (0x30 ≤ c.toNat ∧ c.toNat ≤ 0x39) := by
  delta Char.isAlphanum Char.isAlpha Char.isUpper Char.isLower Char.isDigit
  simp [UInt32.le_iff_toNat_le, or_assoc]

theorem toNat_lt_of_isAlphanum {c : Char} (h : c.isAlphanum = true) : c.toNat < 0x80 := by
  rw [isAlphanum_iff] at h
  omega

theorem isAlphanum_toUpper {c : Char} (h : c.isAlphanum = true) : c.toUpper.isAlphanum = true := by
  have hall : ∀ n : Fin 0x80, (Char.ofNat n).isAlphanum = true →
      (Char.ofNat n).toUpper.isAlphanum = true := by decide +kernel
  have hc := hall ⟨c.toNat, toNat_lt_of_isAlphanum h⟩
  rw [Char.ofNat_toNat] at hc
  exact hc h

theorem isAlphanum_upperChar {c : Char} (h : c.isAlphanum = true) :
    ∀ d ∈ upperChar c, d.isAlphanum = true := by
  intro d hd
  rw [upperChar, if_pos (toNat_lt_of_isAlphanum h), List.mem_singleton] at hd
  exact hd ▸ isAlphanum_toUpper h

theorem caseExpansions_ne_nil : ∀ entry ∈ caseExpansions, entry.2 ≠ [] := by
  decide +kernel

theorem upperChar_ne_nil (c : Char) : upperChar c ≠ [] := by
  rw [upperChar]
  split
  · exact List.cons_ne_nil _ _
  · split
    · rename_i hfind
      have hne := caseExpansions_ne_nil _ (Array.mem_of_find?_eq_some hfind)
      exact mt List.map_eq_nil_iff.mp hne
    · exact List.cons_ne_nil _ _

theorem toList_capitalize {s : String} {c : Char} {rest : List Char} (h : s.toList = c :: rest) :
    (capitalize s).toList = upperChar c ++ rest := by
  rw [capitalize, h]
  exact String.toList_ofList

end FlowTemplate.Text

namespace FlowTemplate.Naming

/-- Letters and digits, at least one. -/
def IsLogicalId (s : String) : Prop := s ≠ "" ∧ ∀ c ∈ s.toList, c.isAlphanum = true

/-- A character that spelling out leaves legal. -/
def IsNameChar (c : Char) : Prop := c.isAlphanum = true ∨ c = '-' ∨ c = '_'

instance (c : Char) : Decidable (IsNameChar c) := inferInstanceAs (Decidable (_ ∨ _))

/-- The characters of a text are tried one by one: a quantifier over all of them would be decided by
trying every character there is. -/
theorem forall_isNameChar {cs : List Char} (h : (cs.all fun c => decide (IsNameChar c)) = true) :
    ∀ c ∈ cs, IsNameChar c :=
  fun c hc => of_decide_eq_true (List.all_eq_true.mp h c hc)

/-- A character that is legal after spelling out where it comes first, in upper case: a small letter
of another alphabet may have Latin letters as its capital. -/
def IsNameStart (c : Char) : Prop :=
  c = '-' ∨ c = '_' ∨ ∀ d ∈ Text.upperChar c, d.isAlphanum = true

/-- A name of which a legal ID can be made. -/
def IsSpellable : List Char → Prop
  | [] => False
  | c :: rest => IsNameStart c ∧ ∀ d ∈ rest, IsNameChar d

/-! ## Spelling out -/

theorem isAlphanum_spelledChar_iff (c : Char) :
    (∀ d ∈ spelledChar c, d.isAlphanum = true) ↔ IsNameChar c := by
  rw [spelledChar.eq_def, IsNameChar]
  split
  · exact iff_of_true (List.all_eq_true.mp (by decide)) (.inr (.inl rfl))
  · exact iff_of_true (List.all_eq_true.mp (by decide)) (.inr (.inr rfl))
  · rename_i hdash hunderscore
    have hother : ¬ (c = '-' ∨ c = '_') := not_or.mpr ⟨hdash, hunderscore⟩
    simp [hother]

theorem isAlphanum_flatMap_spelledChar_iff (cs : List Char) :
    (∀ d ∈ cs.flatMap spelledChar, d.isAlphanum = true) ↔ ∀ c ∈ cs, IsNameChar c := by
  simp only [List.mem_flatMap, forall_exists_index, and_imp, ← isAlphanum_spelledChar_iff]
  exact ⟨fun h c hc d hd => h d c hc hd, fun h d c hc hd => h c hc d hd⟩

/-- What the first character of a name becomes. -/
def spelledStart : Char → List Char
  | '-' => ['D', 'a', 's', 'h']
  | '_' => ['U', 'n', 'd', 'e', 'r', 's', 'c', 'o', 'r', 'e']
  | c => Text.upperChar c

theorem toList_normalize {name : String} {c : Char} {rest : List Char}
    (h : name.toList = c :: rest) :
    (normalize name).toList = spelledStart c ++ rest.flatMap spelledChar := by
  have hspelled : (spellOut name).toList = spelledChar c ++ rest.flatMap spelledChar := by
    rw [spellOut, String.toList_ofList, h, List.flatMap_cons]
  rw [normalize, spelledStart.eq_def]
  split
  · exact Text.toList_capitalize hspelled
  · exact Text.toList_capitalize hspelled
  · rename_i hdash hunderscore
    rw [spelledChar.eq_3 c hdash hunderscore] at hspelled
    exact Text.toList_capitalize hspelled

theorem isAlphanum_spelledStart_iff (c : Char) :
    (∀ d ∈ spelledStart c, d.isAlphanum = true) ↔ IsNameStart c := by
  rw [spelledStart.eq_def, IsNameStart]
  split
  · exact iff_of_true (List.all_eq_true.mp (by decide)) (.inl rfl)
  · exact iff_of_true (List.all_eq_true.mp (by decide)) (.inr (.inl rfl))
  · rename_i hdash hunderscore
    simp [show c ≠ '-' from hdash, show c ≠ '_' from hunderscore]

theorem spelledStart_ne_nil (c : Char) : spelledStart c ≠ [] := by
  rw [spelledStart.eq_def]
  split
  · exact List.cons_ne_nil _ _
  · exact List.cons_ne_nil _ _
  · exact Text.upperChar_ne_nil c

theorem IsNameChar.isNameStart {c : Char} (h : IsNameChar c) : IsNameStart c := by
  rcases h with halphanum | hdash | hunderscore
  · exact .inr (.inr (Text.isAlphanum_upperChar halphanum))
  · exact .inl hdash
  · exact .inr (.inl hunderscore)

/-! ## Names -/

theorem isSpellable_of_isNameChar {cs : List Char} (hne : cs ≠ [])
    (h : ∀ c ∈ cs, IsNameChar c) : IsSpellable cs := by
  cases cs with
  | nil => exact absurd rfl hne
  | cons c rest =>
    obtain ⟨hc, hrest⟩ := List.forall_mem_cons.mp h
    exact ⟨hc.isNameStart, hrest⟩

theorem normalize_ne_empty {name : String} (h : name ≠ "") : normalize name ≠ "" := by
  cases hname : name.toList with
  | nil => exact absurd (String.toList_eq_nil_iff.mp hname) h
  | cons c rest =>
    rw [ne_eq, ← String.toList_eq_nil_iff, toList_normalize hname, List.append_eq_nil_iff]
    exact fun hnil => spelledStart_ne_nil c hnil.1

/-- A name is made a legal ID exactly if it can be spelled out. -/
theorem isLogicalId_normalize_iff (name : String) :
    IsLogicalId (normalize name) ↔ IsSpellable name.toList := by
  cases hname : name.toList with
  | nil =>
    cases String.toList_eq_nil_iff.mp hname
    exact iff_of_false (fun h => h.1 rfl) id
  | cons c rest =>
    have hne : name ≠ "" := by
      rintro rfl
      cases hname
    rw [IsLogicalId, and_iff_right (normalize_ne_empty hne), toList_normalize hname,
      List.forall_mem_append, isAlphanum_spelledStart_iff, isAlphanum_flatMap_spelledChar_iff,
      IsSpellable]

/-- What follows an ID and has letters and digits only does not matter. -/
theorem isLogicalId_append_iff {s t : String} (hs : s ≠ "")
    (ht : ∀ c ∈ t.toList, c.isAlphanum = true) : IsLogicalId (s ++ t) ↔ IsLogicalId s := by
  have hne : s ++ t ≠ "" := by
    rw [ne_eq, ← String.toList_eq_nil_iff, String.toList_append, List.append_eq_nil_iff,
      String.toList_eq_nil_iff]
    exact fun h => hs h.1
  rw [IsLogicalId, IsLogicalId, and_iff_right hne, and_iff_right hs, String.toList_append,
    List.forall_mem_append, and_iff_left ht]

/-! ## Where the ID of a block comes from -/

section

variable {machine : Value} {entries : Entries} (key : String)

theorem customId_eq (hentries : machine.entries? = some entries) : customId machine =
    .ok (if ((entries.find? "id").getD .null).isEmpty then (entries.find? "name").getD .null
      else (entries.find? "id").getD .null) := by
  rw [customId]
  split
  · rename_i hempty
    cases Value.entries?_of_isEmpty machine hempty hentries
    rfl
  · rw [Value.fieldOrNull_eq hentries, Value.fieldOrNull_eq hentries]
    by_cases hempty : ((entries.find? "id").getD .null).isEmpty = true
    · rw [if_pos hempty]
      change (if _ then _ else _) = _
      rw [if_pos hempty]
    · rw [if_neg hempty]
      change (if _ then _ else _) = _
      rw [if_neg hempty]
      rfl

/-- Without a text to be named by, a block is named by its key. -/
theorem stateMachineId_of_isEmpty {custom : Value} (hempty : custom.isEmpty = true)
    (h : customId machine = .ok custom) :
    stateMachineId key machine = .ok (normalize key ++ "StepFunctionsStateMachine") := by
  rw [stateMachineId, h]
  change (if custom.isEmpty = true then _ else _) = _
  rw [if_pos hempty]
  rfl

theorem isEmpty_str_iff (s : String) : (Value.str s).isEmpty = true ↔ s = "" := by
  simp [Value.isEmpty, Atom.isEmpty]

theorem stateMachineId_of_text {s : String} (hs : s ≠ "") (h : customId machine = .ok (.str s)) :
    stateMachineId key machine = .ok (normalize s) := by
  rw [stateMachineId, h]
  change (if (Value.str s).isEmpty = true then _ else _) = _
  rw [if_neg (mt (isEmpty_str_iff s).mp hs)]
  rfl

theorem stateMachineId_of_id (hentries : machine.entries? = some entries) {s : String}
    (hs : s ≠ "") (hid : entries.find? "id" = some (.str s)) :
    stateMachineId key machine = .ok (normalize s) := by
  refine stateMachineId_of_text key hs ?_
  rw [customId_eq hentries, hid, Option.getD_some, if_neg (mt (isEmpty_str_iff s).mp hs)]

theorem stateMachineId_of_name (hentries : machine.entries? = some entries) {s : String}
    (hs : s ≠ "") (hid : entries.find? "id" = none)
    (hname : entries.find? "name" = some (.str s)) :
    stateMachineId key machine = .ok (normalize s) := by
  refine stateMachineId_of_text key hs ?_
  rw [customId_eq hentries, hid, hname]
  rfl

theorem stateMachineId_of_key (hentries : machine.entries? = some entries)
    (hid : entries.find? "id" = none) (hname : entries.find? "name" = none) :
    stateMachineId key machine = .ok (normalize key ++ "StepFunctionsStateMachine") := by
  refine stateMachineId_of_isEmpty key (show Value.null.isEmpty = true from rfl) ?_
  rw [customId_eq hentries, hid, hname]
  rfl

end

end FlowTemplate.Naming
