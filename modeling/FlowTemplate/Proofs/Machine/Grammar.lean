import FlowTemplate.Compile.Machine
import FlowTemplate.Proofs.Computation
import FlowTemplate.Proofs.Lint.Shape
import FlowTemplate.Proofs.Pattern.Search
import FlowTemplate.Proofs.Naming
/-!
# The grammar of a machine block

What a block has to be, said without schemas and patterns: the names it may hold and what may stand
under each. The shape that blocks are held against accepts exactly the blocks of the grammar. Texts
are rows of code points here, as patterns see them, and a line feed at the end of one does not count
where a pattern holds on to the end.
-/

namespace FlowTemplate.Machine

open Schema

/-! ## Texts -/

/-- A text whose code points have a property. -/
def IsTextOf (language : List Nat → Prop) (v : Value) : Prop :=
  ∃ s, v = .str s ∧ language (Text.codes s.toList)

/-- Letters and digits, at least one. -/
def IsIdentifier (codes : List Nat) : Prop :=
  ∃ word tail, codes = word ++ tail ∧ Pattern.EndsText tail ∧
    word ≠ [] ∧ ∀ n ∈ word, ∃ c : Char, c.isAlphanum = true ∧ n = c.toNat

/-- The beginning of an address. -/
def StartsLikeAddress (codes : List Nat) : Prop := "arn:".toList.map Char.toNat <+: codes

/-- A first dot with something before it, and something on the same line behind it, with which the
text ends. -/
def IsDotted (codes : List Nat) : Prop :=
  ∃ before after tail, codes = before ++ '.'.toNat :: after ++ tail ∧ Pattern.EndsText tail ∧
    before ≠ [] ∧ '.'.toNat ∉ before ∧ after ≠ [] ∧ '\n'.toNat ∉ after

/-! ## Values -/

/-- A mapping whose only key is the given one. -/
def IsLone (key : String) (p : Value → Prop) (v : Value) : Prop :=
  ∃ (entries : Entries) (w : Value), v = .map entries ∧ (∀ k ∈ entries.keys, k = .str key) ∧
    entries.find? key = some w ∧ p w

def IsPairOf (p : Value → Prop) (v : Value) : Prop := ∃ a b, v = .list [a, b] ∧ p a ∧ p b

def IsList (v : Value) : Prop := ∃ items, v = .list items

/-- A mapping with values of some kind. -/
def IsMappingTo (p : Value → Prop) (v : Value) : Prop :=
  ∃ entries, v = .map entries ∧ ∀ entry ∈ entries, p entry.2

/-- The value of a tag: a truth value is no number. -/
def IsTagValue (v : Value) : Prop :=
  Lint.IsText v ∨ (∃ x, Lint.IsNumber v x) ∨ Lint.IsTruth v

/-- A target and an attribute, as two texts or as one with a dot. -/
def IsAttribute (v : Value) : Prop := IsPairOf Lint.IsText v ∨ IsTextOf IsDotted v

/-- The address of a role, or an intrinsic that yields one. -/
inductive IsRole (v : Value) : Prop
  | ofText : IsTextOf StartsLikeAddress v → IsRole v
  | ofReference : IsLone "Ref" Lint.IsText v → IsRole v
  | ofAttribute : IsLone "Fn::GetAtt" IsAttribute v → IsRole v
  | ofJoin : IsLone "Fn::Join" (IsPairOf fun _ => True) v → IsRole v
  | ofSubstitution : IsLone "Fn::Sub" (fun w => Lint.IsText w ∨ IsList w) v → IsRole v
  | ofImport : IsLone "Fn::ImportValue" (fun _ => True) v → IsRole v

/-- One text or a list of texts. -/
def IsDependency (v : Value) : Prop := Lint.IsText v ∨ Lint.IsListOf Lint.IsText v

/-- The names a block may hold and what may stand under them. -/
def grammar : Lint.Rules := [
  ("id", IsTextOf IsIdentifier),
  ("name", Lint.IsName),
  ("definition", Lint.IsTextOrMapping),
  ("role", IsRole),
  ("useExactVersion", Lint.IsTruth),
  ("dependsOn", IsDependency),
  ("tags", IsMappingTo IsTagValue),
  ("events", IsList),
  ("alarms", Lint.IsMapping),
  ("notifications", Lint.IsMapping)]

/-- A block of the grammar. -/
structure IsBlock (entries : Entries) : Prop where
  known : ∀ k ∈ entries.keys, ∃ rule ∈ grammar, k = .str rule.1
  fields : Lint.HasFields ["definition"] grammar entries

/-! ## The patterns -/

theorem contains_letterOrDigit_iff (n : Nat) :
    letterOrDigit.contains n = true ↔ ∃ c : Char, c.isAlphanum = true ∧ n = c.toNat := by
  have hranges : letterOrDigit.contains n = true ↔
      (0x41 ≤ n ∧ n ≤ 0x5A) ∨ (0x61 ≤ n ∧ n ≤ 0x7A) ∨ (0x30 ≤ n ∧ n ≤ 0x39) := by
    simp [letterOrDigit, Pattern.CharSet.ofRanges, Pattern.CharSet.contains, Pattern.Member.holds,
      Pattern.Folding.variants]
  rw [hranges]
  constructor
  · intro h
    have hn : (Char.ofNat n).toNat = n := by
      rw [Char.ofNat, dif_pos (.inl (by omega))]
      rfl
    exact ⟨Char.ofNat n, (Text.isAlphanum_iff _).mpr (by rwa [hn]), hn.symm⟩
  · rintro ⟨c, hc, rfl⟩
    exact (Text.isAlphanum_iff c).mp hc

theorem contains_allBut_iff (c : Char) (n : Nat) :
    (Pattern.CharSet.allBut c).contains n = true ↔ n ≠ c.toNat := by
  simp [Pattern.CharSet.allBut, Pattern.CharSet.contains, Pattern.Member.holds,
    Pattern.Folding.variants, Nat.le_antisymm_iff]

theorem takes_allBut (c : Char) : (Pattern.plus (.one (.allBut c))).Takes fun word =>
    word ≠ [] ∧ c.toNat ∉ word :=
  (Pattern.takes_plus (.allBut c)).congr fun word => by
    simp only [contains_allBut_iff, ne_eq, List.forall_mem_ne']

theorem search_idPattern_iff (codes : List Nat) :
    idPattern.search codes = true ↔ IsIdentifier codes := by
  rw [idPattern, ((Pattern.takes_plus letterOrDigit).seqAll Pattern.takesAll_stop).search_iff]
  refine exists₂_congr fun word tail => and_congr_right fun _ => ?_
  simp [contains_letterOrDigit_iff, and_comm]

theorem search_arnPattern_iff (codes : List Nat) :
    arnPattern.search codes = true ↔ StartsLikeAddress codes := by
  rw [arnPattern, (Pattern.takes_text "arn:").search_iff, StartsLikeAddress, List.IsPrefix]
  constructor
  · rintro ⟨word, tail, rfl, rfl⟩
    exact ⟨tail, rfl⟩
  · rintro ⟨tail, rfl⟩
    exact ⟨_, tail, rfl, rfl⟩

theorem search_dottedPattern_iff (codes : List Nat) :
    dottedPattern.search codes = true ↔ IsDotted codes := by
  rw [dottedPattern, ((takes_allBut '.').seqAll ((Pattern.takes_literal '.').seqAll
    ((takes_allBut '\n').seqAll Pattern.takesAll_stop))).search_iff]
  constructor
  · rintro ⟨_, tail, rfl, ⟨before, _, rfl, ⟨hbefore, hdot⟩, _, _, rfl, rfl, after, _, rfl,
      ⟨hafter, hline⟩, rfl⟩, hend⟩
    exact ⟨before, after, tail, by simp, hend, hbefore, hdot, hafter, hline⟩
  · rintro ⟨before, after, tail, rfl, hend, hbefore, hdot, hafter, hline⟩
    exact ⟨before ++ '.'.toNat :: after, tail, rfl, ⟨before, '.'.toNat :: after, rfl,
      ⟨hbefore, hdot⟩, ['.'.toNat], after, rfl, rfl, after, [], by simp, ⟨hafter, hline⟩, rfl⟩,
      hend⟩

/-! ## The schemas -/

theorem decides_textOf {pattern : Pattern} {language : List Nat → Prop}
    (h : ∀ codes, pattern.search codes = true ↔ language codes) (source : String) :
    Decides (.all [.type [.string], .pattern source pattern]) (IsTextOf language) :=
  (decides_all (.cons (decides_type [.string]) (.cons (decides_pattern source pattern) .nil))).congr
    fun v hv => by
      cases v, hv using Value.tree_cases with
      | atom a hv => cases a <;> simp [IsTextOf, h, Kind.holds, Value.bare]
      | list items hv => simp [IsTextOf, Kind.holds, Value.bare]
      | map entries hv => simp [IsTextOf, Kind.holds, Value.bare]

theorem decides_list : Decides (.ofKind .array) IsList :=
  Lint.decides_ofKind (fun a => by cases a <;> simp [IsList, Kind.holds, Value.bare])
    (by simp [IsList, Kind.holds, Value.bare]) (by simp [IsList, Kind.holds, Value.bare])

theorem decides_pairOf {p : Value → Prop} {keywords : List Keyword} (h : Decides (.all keywords) p) :
    Decides (.all [.type [.array], .items 0 (.all keywords), .minItems 2, .maxItems 2])
      (IsPairOf p) :=
  (decides_array (.cons (decides_items h)
    (.cons (decides_minItems 2) (.cons (decides_maxItems 2) .nil)))).congr fun v _ => by
      simp only [List.mem_cons, List.not_mem_nil, or_false, forall_eq_or_imp, forall_eq]
      constructor
      · rintro ⟨items, rfl, hitems, hleast, hmost⟩
        obtain ⟨a, b, rfl⟩ := List.length_eq_two.mp (Nat.le_antisymm hmost hleast)
        exact ⟨a, b, rfl, hitems a (by simp), hitems b (by simp)⟩
      · rintro ⟨a, b, rfl, ha, hb⟩
        exact ⟨[a, b], rfl, by simp [ha, hb], Nat.le_refl 2, Nat.le_refl 2⟩

theorem decides_pair : Decides (.all [.type [.array], .minItems 2, .maxItems 2])
    (IsPairOf fun _ => True) :=
  (decides_array (.cons (decides_minItems 2) (.cons (decides_maxItems 2) .nil))).congr
    fun v _ => by
      simp only [List.mem_cons, List.not_mem_nil, or_false, forall_eq_or_imp, forall_eq]
      constructor
      · rintro ⟨items, rfl, hleast, hmost⟩
        obtain ⟨a, b, rfl⟩ := List.length_eq_two.mp (Nat.le_antisymm hmost hleast)
        exact ⟨a, b, rfl, trivial, trivial⟩
      · rintro ⟨a, b, rfl, -, -⟩
        exact ⟨[a, b], rfl, Nat.le_refl 2, Nat.le_refl 2⟩

theorem decides_loneKey (key : String) {schema : Schema} {p : Value → Prop} (h : Decides schema p) :
    Decides (loneKey key schema) (IsLone key p) :=
  (decides_object (.cons (decides_properties (.cons (h.field key) .nil))
    (.cons (decides_required [key]) (.cons (decides_additional_never [key]) .nil)))).congr
      fun v _ => by
        simp only [List.mem_cons, List.not_mem_nil, or_false, forall_eq_or_imp, forall_eq,
          exists_eq_left]
        constructor
        · rintro ⟨entries, rfl, hvalue, hthere, honly⟩
          obtain ⟨w, hw⟩ := Option.isSome_iff_exists.mp hthere
          exact ⟨entries, w, rfl, honly, hw, hvalue w hw⟩
        · rintro ⟨entries, w, rfl, honly, hw, hp⟩
          refine ⟨entries, rfl, fun w' hw' => ?_, Option.isSome_iff_exists.mpr ⟨w, hw⟩, honly⟩
          cases hw.symm.trans hw'
          exact hp

theorem decides_attribute : Decides attributeArgument IsAttribute :=
  (Lint.decides_either (.cons (decides_pairOf Lint.decides_text)
    (.cons (decides_textOf search_dottedPattern_iff _) .nil))).congr fun v _ => by
      simp [IsAttribute]

theorem decides_role : Decides address IsRole := by
  have hsub : Decides (.either [.ofKind .string, .ofKind .array])
      fun w => Lint.IsText w ∨ IsList w :=
    (Lint.decides_either (.cons Lint.decides_text (.cons decides_list .nil))).congr fun v _ => by
      simp
  have hany : Decides (.all []) fun _ => True := (decides_all .nil).congr fun v _ => by simp
  refine (Lint.decides_either (.cons (decides_textOf search_arnPattern_iff _)
    (.cons (decides_loneKey "Ref" Lint.decides_text)
      (.cons (decides_loneKey "Fn::GetAtt" decides_attribute)
        (.cons (decides_loneKey "Fn::Join" decides_pair)
          (.cons (decides_loneKey "Fn::Sub" hsub)
            (.cons (decides_loneKey "Fn::ImportValue" hany) .nil))))))).congr fun v _ => ?_
  simp only [List.mem_cons, List.not_mem_nil, or_false, exists_eq_or_imp, exists_eq_left]
  constructor
  · rintro (h | h | h | h | h | h)
    · exact .ofText h
    · exact .ofReference h
    · exact .ofAttribute h
    · exact .ofJoin h
    · exact .ofSubstitution h
    · exact .ofImport h
  · intro h
    cases h with
    | ofText h => exact .inl h
    | ofReference h => exact .inr (.inl h)
    | ofAttribute h => exact .inr (.inr (.inl h))
    | ofJoin h => exact .inr (.inr (.inr (.inl h)))
    | ofSubstitution h => exact .inr (.inr (.inr (.inr (.inl h))))
    | ofImport h => exact .inr (.inr (.inr (.inr (.inr h))))

theorem decides_dependency :
    Decides (.either [.ofKind .string, .all [.type [.array], .items 0 (.ofKind .string)]])
      IsDependency :=
  (Lint.decides_either (.cons Lint.decides_text
    (.cons (Lint.decides_listOf Lint.decides_text) .nil))).congr fun v _ => by
      simp [IsDependency]

/-- A value of one of some kinds, given what each kind is. -/
theorem decides_kinds {kinds : List Kind} {ps : List (Value → Prop)}
    (h : List.Forall₂ (fun kind p => Decides (.ofKind kind) p) kinds ps) :
    Decides (.all [.type kinds]) fun v => ∃ p ∈ ps, p v :=
  (decides_all (.cons (decides_type kinds) .nil)).congr fun v hv => by
    have hholds {kind : Kind} {p : Value → Prop} (hkind : Decides (.ofKind kind) p) :
        kind.holds v = true ↔ p v := by
      have htype := decides_all (.cons (decides_type [kind]) .nil) .none {} v hv
      refine Iff.trans ?_ (htype.clean.symm.trans (hkind .none {} v hv).clean)
      simp
    rw [List.forall_mem_singleton]
    induction h with
    | nil => simp
    | cons hkind _ ih => simp [hholds hkind, ih]

theorem decides_number : Decides (.ofKind .number) fun v => ∃ x, Lint.IsNumber v x :=
  (decides_all (.cons (decides_type [.number]) .nil)).congr fun v hv => by
    rw [← Lint.number_holds_iff hv]
    simp

theorem decides_tagValue : Decides (.all [.type [.string, .number, .boolean]]) IsTagValue :=
  (decides_kinds (.cons Lint.decides_text (.cons decides_number
    (.cons Lint.decides_truth .nil)))).congr fun v _ => by simp [IsTagValue]

theorem decides_tags : Decides (.all [.type [.object], .additional []
    (.all [.type [.string, .number, .boolean]])]) (IsMappingTo IsTagValue) :=
  (decides_object (.cons (decides_additional decides_tagValue) .nil)).congr fun v _ => by
    simp only [List.forall_mem_singleton, IsMappingTo]

theorem decides_textOrMapping : Decides (.all [.type [.object, .string]]) Lint.IsTextOrMapping :=
  (decides_kinds (.cons Lint.decides_mapping (.cons Lint.decides_text .nil))).congr fun v _ => by
    simp [Lint.IsTextOrMapping, or_comm]

theorem decides_grammar : List.Forall₂ FieldDecides fields grammar :=
  .cons ((decides_textOf search_idPattern_iff _).field _)
    (.cons (Lint.decides_name.field _)
      (.cons (decides_textOrMapping.field _)
        (.cons (decides_role.field _)
          (.cons (Lint.decides_truth.field _)
            (.cons (decides_dependency.field _)
              (.cons (decides_tags.field _)
                (.cons (decides_list.field _)
                  (.cons (Lint.decides_mapping.field _)
                    (.cons (Lint.decides_mapping.field _) .nil)))))))))

theorem decides_shape : Decides shape fun v => ∃ entries, v = .map entries ∧ IsBlock entries :=
  (decides_object (.cons (decides_properties decides_grammar)
    (.cons (decides_required ["definition"])
      (.cons (decides_additional_never fieldNames) .nil)))).congr fun v _ => by
        have hnames : fieldNames = grammar.map Prod.fst := rfl
        refine exists_congr fun entries => and_congr_right fun _ => ?_
        simp only [List.mem_cons, List.not_mem_nil, or_false, forall_eq_or_imp, forall_eq, hnames,
          List.mem_map, exists_exists_and_eq_and]
        constructor
        · rintro ⟨hrules, hthere, hknown⟩
          exact ⟨hknown, ⟨by simpa using hthere, hrules⟩⟩
        · intro h
          exact ⟨h.fields.rules, h.fields.needed _ (by simp), h.known⟩

/-- A block is let through exactly if it is one of the grammar. -/
theorem checkShape_iff (name : String) {machine : Value} (h : machine.isTree = true) :
    checkShape name machine = .ok () ↔ ∃ entries, machine = .map entries ∧ IsBlock entries := by
  rw [← accepts_iff decides_shape h, ← report_eq_nil_iff shape "$"]
  change _ ↔ shapeReport machine = []
  rw [checkShape]
  cases shapeReport machine <;> simp

/-- An ID may end with a line feed, and a tag may be a truth value, but not null. -/
theorem checkShape_iff_tagged :
    let block (tag : Value) : Value := .object [
      ("id", .str "Flow1\n"),
      ("definition", .map []),
      ("role", .single "Fn::GetAtt" (.str "Role.Arn")),
      ("tags", .single "shared" tag)]
    (∀ tag : Value, tag.isTree = true → (block tag).isTree = true) ∧
      (∃ entries, block (.bool true) = .map entries ∧ IsBlock entries) ∧
      ¬ ∃ entries, block .null = .map entries ∧ IsBlock entries := by
  intro block
  have htree (tag : Value) (h : tag.isTree = true) : (block tag).isTree = true := by
    simpa [block, Value.object, Value.isTree, Value.treeEntries] using h
  have hnull : (checkShape "flow" (block .null)).isOk = false := by decide +kernel
  refine ⟨htree, (checkShape_iff "flow" (htree _ rfl)).mp ?_, fun h => ?_⟩
  · exact Computation.eq_ok_of_isOk (by decide +kernel)
  · rw [(checkShape_iff "flow" (htree _ rfl)).mpr h] at hnull
    cases hnull

end FlowTemplate.Machine
