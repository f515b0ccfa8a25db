import FlowTemplate.Proofs.Machine.Grammar
import FlowTemplate.Proofs.Machine.Shape
import FlowTemplate.Proofs.Naming
import FlowTemplate.Proofs.Text.Surrogate
/-!
# Legal logical IDs

The ID that is made from a key of letters, digits, dashes and underscores is legal. What a block may
be named by in place of the key is left to its shape. The shape asks for letters and digits in an
`id`, but lets a line feed stand at the end; of a `name` it asks only that it is not empty. So blocks
of the right shape may have IDs that are not legal, and the theorem at the end says which do.
-/

namespace FlowTemplate.Machine

open Schema Naming

/-! ## What the shape asks of names -/

/-- What the shape ensures of the texts that a block is named by, and of the other fields. -/
def namedRules : List (String × (Value → Prop)) :=
  ("id", fun v => IsText v ∧ ∀ s, v.bare = .str s → idPattern.search (Text.codes s.toList) = true)
    :: ("name", fun v => IsText v ∧ ∀ s, v.bare = .str s → 1 ≤ Text.size s) :: fieldRules.drop 2

theorem ensures_namedRules : List.Forall₂ FieldEnsures fields namedRules := by
  cases ensures_fields with
  | cons _ hrest => cases hrest with
    | cons _ hrest => exact .cons (ensures_id.field "id") (.cons (ensures_name.field "name") hrest)

/-- A text stands in a value as documents hold texts: by itself, and as a row of code points. -/
def HoldsText (v : Value) : Prop := ∀ s, v.bare = .str s → v = .str s ∧ Text.IsRow s

/-- The texts by which a block may be named are as documents hold them. -/
def HoldsNames (machine : Value) : Prop :=
  ∀ entries, machine.entries? = some entries → ∀ field ∈ ["id", "name"], ∀ v,
    entries.find? field = some v → HoldsText v

theorem exists_letters {word : List Nat}
    (h : ∀ n ∈ word, ∃ c : Char, c.isAlphanum = true ∧ n = c.toNat) :
    ∃ letters : List Char, (∀ c ∈ letters, c.isAlphanum = true) ∧
      letters.map Char.toNat = word := by
  induction word with
  | nil => exact ⟨[], fun c hc => absurd hc List.not_mem_nil, rfl⟩
  | cons n word ih =>
    obtain ⟨⟨c, hc, rfl⟩, hword⟩ := List.forall_mem_cons.mp h
    obtain ⟨letters, hletters, rfl⟩ := ih hword
    exact ⟨c :: letters, List.forall_mem_cons.mpr ⟨hc, hletters⟩, rfl⟩

/-- Letters and digits, behind which a line feed may stand. -/
theorem eq_letters_of_isIdentifier {s : String} (hrow : Text.IsRow s)
    (h : IsIdentifier (Text.codes s.toList)) :
    ∃ letters : List Char, letters ≠ [] ∧ (∀ c ∈ letters, c.isAlphanum = true) ∧
      (s.toList = letters ∨ s.toList = letters ++ ['\n']) := by
  obtain ⟨word, tail, hcodes, htail, hne, hword⟩ := h
  obtain ⟨letters, hletters, rfl⟩ := exists_letters hword
  have hmark : Text.mark ∉ letters := fun h => absurd (hletters _ h) (by decide)
  refine ⟨letters, mt (congrArg (List.map Char.toNat)) hne, hletters, ?_⟩
  -- The pattern speaks of code points; being a row, the text is what these are written as.
  rw [← hrow, hcodes, Text.ofCodes, List.flatMap_append, ← Text.ofCodes,
    Text.ofCodes_of_mark_notMem hmark]
  rcases htail with rfl | rfl
  · exact .inl (List.append_nil _)
  · exact .inr rfl

/-- An `id` of the right shape is spelled out unless a line feed ends it. -/
theorem isSpellable_iff_of_isIdentifier {s : String} (hrow : Text.IsRow s)
    (h : IsIdentifier (Text.codes s.toList)) :
    IsSpellable s.toList ↔ s.toList.getLast? ≠ some '\n' := by
  obtain ⟨letters, hne, hletters, hs | hs⟩ := eq_letters_of_isIdentifier hrow h
  · rw [hs]
    refine iff_of_true (isSpellable_of_isNameChar hne fun c hc => .inl (hletters c hc)) ?_
    intro hlast
    exact absurd (hletters _ (List.mem_of_getLast? hlast)) (by decide)
  · rw [hs]
    refine iff_of_false ?_ (by simp)
    cases letters with
    | nil => exact absurd rfl hne
    | cons c rest =>
      -- Something stands in front of the line feed, so it is not the first character.
      intro hspellable
      exact absurd (hspellable.2 '\n' (by simp)) (by decide)

/-- What a block of the right shape may be named by: an `id` is of letters and digits as patterns
see them, and a `name` is not empty. -/
structure IsNamed (entries : Entries) : Prop where
  id : ∀ v, entries.find? "id" = some v → ∃ s, v = .str s ∧ Text.IsRow s ∧
    IsIdentifier (Text.codes s.toList)
  name : ∀ v, entries.find? "name" = some v → ∃ s, v = .str s ∧ s ≠ ""

/-- The texts by which a block is named make a legal ID: an `id` does not end with a line feed, and
a `name` in its place can be spelled out. -/
structure IsLegallyNamed (entries : Entries) : Prop where
  id : ∀ s, entries.find? "id" = some (.str s) → s.toList.getLast? ≠ some '\n'
  name : entries.find? "id" = none → ∀ s, entries.find? "name" = some (.str s) →
    IsSpellable s.toList

section

variable {entries : Entries} {s : String}

theorem isLegallyNamed_iff_of_id (hid : entries.find? "id" = some (.str s)) :
    IsLegallyNamed entries ↔ s.toList.getLast? ≠ some '\n' := by
  refine ⟨fun h => h.id s hid, fun h => ⟨fun t ht => ?_, fun hnone => ?_⟩⟩
  · cases hid.symm.trans ht
    exact h
  · cases hid.symm.trans hnone

theorem isLegallyNamed_iff_of_name (hid : entries.find? "id" = none)
    (hname : entries.find? "name" = some (.str s)) :
    IsLegallyNamed entries ↔ IsSpellable s.toList := by
  refine ⟨fun h => h.name hid s hname, fun h => ⟨fun t ht => ?_, fun _ t ht => ?_⟩⟩
  · cases hid.symm.trans ht
  · cases hname.symm.trans ht
    exact h

theorem isLegallyNamed_of_key (hid : entries.find? "id" = none)
    (hname : entries.find? "name" = none) : IsLegallyNamed entries := by
  refine ⟨fun t ht => ?_, fun _ t ht => ?_⟩
  · cases hid.symm.trans ht
  · cases hname.symm.trans ht

end

/-! ## The IDs of blocks that are let through -/

section

variable {key name : String} {machine : Value}

theorem shapeReport_of_checkShape (h : checkShape name machine = .ok ()) :
    shapeReport machine = [] := by
  rw [checkShape] at h
  cases hreport : shapeReport machine with
  | nil => rfl
  | cons fault rest => rw [hreport] at h; cases h

theorem isNamed_of_shapeReport (h : shapeReport machine = []) (hnames : HoldsNames machine) :
    ∃ entries, machine.entries? = some entries ∧ IsNamed entries := by
  obtain ⟨entries, hentries, -, hrules⟩ := fields_of_shapeReport ensures_namedRules h
  obtain ⟨hid, hrules⟩ := List.forall_mem_cons.mp hrules
  obtain ⟨hname, -⟩ := List.forall_mem_cons.mp hrules
  refine ⟨entries, hentries, fun v hv => ?_, fun v hv => ?_⟩
  · obtain ⟨htext, hpattern⟩ := hid v hv
    obtain ⟨s, hs⟩ := Kind.holds_string.mp htext
    obtain ⟨hv, hrow⟩ := hnames entries hentries "id" (by simp) v hv s hs
    exact ⟨s, hv, hrow, (search_idPattern_iff _).mp (hpattern s hs)⟩
  · obtain ⟨htext, hlength⟩ := hname v hv
    obtain ⟨s, hs⟩ := Kind.holds_string.mp htext
    obtain ⟨hv, -⟩ := hnames entries hentries "name" (by simp) v hv s hs
    refine ⟨s, hv, ?_⟩
    rintro rfl
    exact absurd (hlength "" hs) (by decide)

/-- The ID of a block that is let through is not empty, and legal exactly if the block is legally
named. -/
theorem exists_stateMachineId_of_isNamed {entries : Entries} (hkey : key ≠ "")
    (hchars : ∀ c ∈ key.toList, IsNameChar c) (hentries : machine.entries? = some entries)
    (hnamed : IsNamed entries) :
    ∃ id, stateMachineId key machine = .ok id ∧ id ≠ "" ∧
      (IsLogicalId id ↔ IsLegallyNamed entries) := by
  cases hfoundId : entries.find? "id" with
  | some v =>
    obtain ⟨s, rfl, hrow, hidentifier⟩ := hnamed.id v hfoundId
    have hs : s ≠ "" := by
      rintro rfl
      obtain ⟨letters, hne, -, hletters | hletters⟩ := eq_letters_of_isIdentifier hrow hidentifier
      · exact hne hletters.symm
      · cases letters <;> cases hletters
    refine ⟨_, stateMachineId_of_id key hentries hs hfoundId, normalize_ne_empty hs, ?_⟩
    rw [isLogicalId_normalize_iff, isSpellable_iff_of_isIdentifier hrow hidentifier,
      isLegallyNamed_iff_of_id hfoundId]
  | none => cases hfoundName : entries.find? "name" with
    | some v =>
      obtain ⟨s, rfl, hs⟩ := hnamed.name v hfoundName
      refine ⟨_, stateMachineId_of_name key hentries hs hfoundId hfoundName,
        normalize_ne_empty hs, ?_⟩
      rw [isLogicalId_normalize_iff, isLegallyNamed_iff_of_name hfoundId hfoundName]
    | none =>
      have hne := normalize_ne_empty hkey
      have hlegal : IsLogicalId (normalize key) :=
        (isLogicalId_normalize_iff key).mpr
          (isSpellable_of_isNameChar (mt String.toList_eq_nil_iff.mp hkey) hchars)
      have hsuffix := (isLogicalId_append_iff (t := "StepFunctionsStateMachine") hne
        (List.all_eq_true.mp (by decide +kernel))).mpr hlegal
      refine ⟨_, stateMachineId_of_key key hentries hfoundId hfoundName, hsuffix.1, ?_⟩
      exact iff_of_true hsuffix (isLegallyNamed_of_key hfoundId hfoundName)

/-- Every block that is let through under a key of letters, digits, dashes and underscores has an ID
and an output ID that are not empty. Both are legal exactly if the block is legally named. -/
theorem isLogicalId_iff_isLegallyNamed (hkey : key ≠ "")
    (hchars : ∀ c ∈ key.toList, IsNameChar c) (haccepted : checkShape name machine = .ok ())
    (hnames : HoldsNames machine) :
    ∃ entries id, machine.entries? = some entries ∧ stateMachineId key machine = .ok id ∧
      outputId key machine = .ok (id ++ "Arn") ∧ id ≠ "" ∧ id ++ "Arn" ≠ "" ∧
      (IsLogicalId id ↔ IsLegallyNamed entries) ∧
      (IsLogicalId (id ++ "Arn") ↔ IsLegallyNamed entries) := by
  obtain ⟨entries, hentries, hnamed⟩ :=
    isNamed_of_shapeReport (shapeReport_of_checkShape haccepted) hnames
  obtain ⟨id, hlogicalId, hne, hlegal⟩ :=
    exists_stateMachineId_of_isNamed hkey hchars hentries hnamed
  have houtput : outputId key machine = .ok (id ++ "Arn") := by
    rw [outputId, hlogicalId]
    rfl
  refine ⟨entries, id, hentries, hlogicalId, houtput, hne, by simp, hlegal, ?_⟩
  rw [isLogicalId_append_iff hne (List.all_eq_true.mp (by decide +kernel)), hlegal]

/-- The `id` counts where there is a `name` too, however that is written. -/
theorem isLogicalId_iff_isLegallyNamed_both :
    let machine := Value.object
      [("id", .str "Orders"), ("name", .str "my flow"), ("definition", .map [])]
    "order-flow_2" ≠ "" ∧ (∀ c ∈ "order-flow_2".toList, IsNameChar c) ∧
      checkShape "flow" machine = .ok () ∧ HoldsNames machine ∧
      ∃ entries id, machine.entries? = some entries ∧
        stateMachineId "order-flow_2" machine = .ok id ∧
        outputId "order-flow_2" machine = .ok (id ++ "Arn") ∧ id ≠ "" ∧ id ++ "Arn" ≠ "" ∧
        (IsLogicalId id ↔ IsLegallyNamed entries) ∧
        (IsLogicalId (id ++ "Arn") ↔ IsLegallyNamed entries) := by
  intro machine
  have hkey : "order-flow_2" ≠ "" := by decide
  have hchars : ∀ c ∈ "order-flow_2".toList, IsNameChar c :=
    forall_isNameChar (by decide +kernel)
  have haccepted : checkShape "flow" machine = .ok () :=
    Computation.eq_ok_of_isOk (by decide +kernel)
  have hrow : Text.IsRow "Orders" ∧ Text.IsRow "my flow" := by
    unfold Text.IsRow
    decide +kernel
  have hnames : HoldsNames machine := by
    intro entries hentries field hfield v hv s hs
    cases hentries
    rcases List.mem_pair.mp hfield with rfl | rfl
    · cases hv
      cases hs
      exact ⟨rfl, hrow.1⟩
    · cases hv
      cases hs
      exact ⟨rfl, hrow.2⟩
  exact ⟨hkey, hchars, haccepted, hnames,
    isLogicalId_iff_isLegallyNamed hkey hchars haccepted hnames⟩

/-- An `id` that a line feed ends and a `name` with a space in it are let through, and the IDs made
of them are not legal. -/
theorem not_isLogicalId_of_checkShape :
    let ended := Value.object [("id", .str "Orders\n"), ("definition", .str "A")]
    let spaced := Value.object [("name", .str "my flow"), ("definition", .str "A")]
    (∀ c ∈ "flow".toList, IsNameChar c) ∧
      (checkShape "flow" ended = .ok () ∧ stateMachineId "flow" ended = .ok "Orders\n" ∧
        ¬ IsLogicalId "Orders\n") ∧
      checkShape "flow" spaced = .ok () ∧ stateMachineId "flow" spaced = .ok "My flow" ∧
        ¬ IsLogicalId "My flow" := by
  intro ended spaced
  have hchars : ∀ c ∈ "flow".toList, IsNameChar c := forall_isNameChar (by decide +kernel)
  have hended : checkShape "flow" ended = .ok () := Computation.eq_ok_of_isOk (by decide +kernel)
  have hspaced : checkShape "flow" spaced = .ok () :=
    Computation.eq_ok_of_isOk (by decide +kernel)
  refine ⟨hchars, ⟨hended, by rfl, fun h => ?_⟩, hspaced, by rfl, fun h => ?_⟩
  · exact absurd (h.2 '\n' (by decide)) (by decide)
  · exact absurd (h.2 ' ' (by decide)) (by decide)

end

end FlowTemplate.Machine
