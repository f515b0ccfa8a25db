import FlowTemplate.Proofs.Definition.Graph
import FlowTemplate.Proofs.Json.Keys
import FlowTemplate.Yaml.Meaning
/-!
# Intrinsics that stay in the text of a definition

Printing goes into every container that has JSON text, extraction into lists and mappings only. So
the text of a definition has an object with a key `Ref` or `Fn::…` exactly if an intrinsic stands in
a tuple, as YAML has them in ordered mappings and lists of pairs, and not in an intrinsic that has
been taken out.
-/

namespace FlowTemplate.Intrinsic

mutual

/-- Whether a value holds an intrinsic at any depth, in containers that are printed. -/
def holdsIntrinsic : Value → Bool
  | .atom _ | .set _ | .again _ => false
  | .list items | .tuple items => itemsHoldIntrinsic items
  | .anchored _ v => holdsIntrinsic v
  | .map entries => entries.any (fun (k, _) => isMarker k) || entriesHoldIntrinsic entries

def itemsHoldIntrinsic : List Value → Bool
  | [] => false
  | v :: rest => holdsIntrinsic v || itemsHoldIntrinsic rest

def entriesHoldIntrinsic : List (Atom × Value) → Bool
  | [] => false
  | (_, v) :: rest => holdsIntrinsic v || entriesHoldIntrinsic rest

end

mutual

/-- Whether a value holds an intrinsic that extraction leaves in it. -/
def leaks : Value → Bool
  | .list items => itemsLeak items
  | .map entries => !isIntrinsic (.map entries) && entriesLeak entries
  | v => holdsIntrinsic v

def itemsLeak : List Value → Bool
  | [] => false
  | v :: rest => leaks v || itemsLeak rest

def entriesLeak : List (Atom × Value) → Bool
  | [] => false
  | (_, v) :: rest => leaks v || entriesLeak rest

end

/-! ## Keys that mark intrinsics -/

theorem exists_head_of_isMarker {s : String} (h : isMarker (.str s) = true) :
    ∃ c rest, s.toList = c :: rest ∧ (c = 'R' ∨ c = 'F') := by
  rw [isMarker, Bool.or_eq_true, beq_iff_eq, String.startsWith_string_iff] at h
  rcases h with rfl | ⟨rest, hrest⟩
  · exact ⟨'R', _, rfl, .inl rfl⟩
  · exact ⟨'F', _, hrest.symm, .inr rfl⟩

theorem not_isMarker_of_scalar {s : List Char} {a : Atom} (h : Json.Scalar s a) :
    isMarker (.str (String.ofList s)) = false := by
  rw [← Bool.not_eq_true]
  intro hmarker
  obtain ⟨c, rest, hs, hc⟩ := exists_head_of_isMarker hmarker
  rw [String.toList_ofList] at hs
  cases h with
  | @word word a listed =>
    have hwords : ∀ entry ∈ Json.words, ∀ c ∈ entry.1.toList.head?, c ≠ 'R' ∧ c ≠ 'F' := by
      simp [Json.words]
    have hhead := hwords _ listed c (by rw [hs]; rfl)
    exact hc.elim hhead.1 hhead.2
  | number isNumber =>
    obtain ⟨d, tail, rfl, hd⟩ := isNumber.exists_cons
    obtain rfl : d = c := (List.cons.inj hs).1
    rcases hc with rfl | rfl <;> cases hd
  | negative isNumber =>
    obtain rfl : '-' = c := (List.cons.inj hs).1
    rcases hc with hc | hc <;> cases hc

/-- A key that is no text is not printed as one that marks an intrinsic. -/
theorem isMarker_keyText (k : Atom) : isMarker (.str k.keyText) = isMarker k := by
  by_cases htext : ∃ s, k = .str s
  · obtain ⟨s, rfl⟩ := htext
    rw [Atom.keyText_str]
  · have hne : ∀ s, k ≠ .str s := fun s hs => htext ⟨s, hs⟩
    have hmarker : isMarker k = false := by
      cases k <;> first | rfl | exact absurd rfl (hne _)
    rw [hmarker]
    cases hjson : k.hasJson with
    | true => exact not_isMarker_of_scalar (Json.scalar_bareAtom hjson hne)
    | false =>
      have hempty : Json.bareAtom k = [] := by cases k <;> first | rfl | cases hjson
      rw [Atom.keyText, hempty]
      decide

mutual

/-- An intrinsic shows in the keys that are printed. -/
theorem any_printedKeys : (v : Value) →
    (v.printedKeys.any fun key => isMarker (.str key)) = holdsIntrinsic v
  | .atom _ | .set _ | .again _ => rfl
  | .list items | .tuple items => any_itemsKeys items
  | .anchored _ v => any_printedKeys v
  | .map entries => any_entriesKeys entries

theorem any_itemsKeys : (items : List Value) →
    ((Value.itemsKeys items).any fun key => isMarker (.str key)) = itemsHoldIntrinsic items
  | [] => rfl
  | v :: rest => by
    rw [Value.itemsKeys, List.any_append, any_printedKeys v, any_itemsKeys rest,
      itemsHoldIntrinsic]

theorem any_entriesKeys : (entries : List (Atom × Value)) →
    ((Value.entriesKeys entries).any fun key => isMarker (.str key)) =
      (entries.any (fun (k, _) => isMarker k) || entriesHoldIntrinsic entries)
  | [] => rfl
  | (k, v) :: rest => by
    rw [Value.entriesKeys, List.any_cons, List.any_append, isMarker_keyText, any_printedKeys v,
      any_entriesKeys rest, List.any_cons, entriesHoldIntrinsic]
    ac_rfl

end

/-! ## What extraction leaves -/

theorem length_take_drop {values : List Value} {m n : Nat} (h : values.length = m + n) :
    (values.take m).length = m ∧ (values.drop m).length = n := by
  rw [List.length_take, List.length_drop]
  omega

mutual

/-- With texts in the places of the outermost intrinsics only those remain that leak. -/
theorem holdsIntrinsic_fill : (v : Value) → {values : List Value} →
    values.length = (outermost v).length → (∀ w ∈ values, holdsIntrinsic w = false) →
    holdsIntrinsic (fill v values) = leaks v
  | .atom _, _, _, _ | .set _, _, _, _ | .again _, _, _, _ => rfl
  | .tuple _, _, _, _ | .anchored .., _, _, _ => rfl
  | .list items, _, hlength, htexts => itemsHoldIntrinsic_fill items hlength htexts
  | .map entries, values, hlength, htexts => by
    rw [fill, leaks]
    by_cases h : isIntrinsic (.map entries) = true
    · rw [outermost, if_pos h] at hlength
      obtain ⟨w, rfl⟩ := List.length_eq_one_iff.mp hlength
      rw [if_pos h, h]
      exact htexts w List.mem_cons_self
    · rw [outermost, if_neg h] at hlength
      have hv : isIntrinsic (.map entries) = false := Bool.eq_false_iff.mpr h
      have hfilled : isIntrinsic (.map (fillEntries entries values)) = false := by
        have hsame := isIntrinsic_fill hv values
        rwa [fill, if_neg h] at hsame
      rw [if_neg h, hv, holdsIntrinsic, ← isIntrinsic, hfilled,
        entriesHoldIntrinsic_fill entries hlength htexts]
      rfl

theorem itemsHoldIntrinsic_fill : (items : List Value) → {values : List Value} →
    values.length = (outermostItems items).length → (∀ w ∈ values, holdsIntrinsic w = false) →
    itemsHoldIntrinsic (fillItems items values) = itemsLeak items
  | [], _, _, _ => rfl
  | v :: rest, values, hlength, htexts => by
    rw [outermostItems, List.length_append] at hlength
    obtain ⟨hhere, hafter⟩ := length_take_drop hlength
    rw [fillItems, itemsHoldIntrinsic, itemsLeak,
      holdsIntrinsic_fill v hhere fun w hw => htexts w (List.mem_of_mem_take hw),
      itemsHoldIntrinsic_fill rest hafter fun w hw => htexts w (List.mem_of_mem_drop hw)]

theorem entriesHoldIntrinsic_fill : (entries : List (Atom × Value)) → {values : List Value} →
    values.length = (outermostEntries entries).length → (∀ w ∈ values, holdsIntrinsic w = false) →
    entriesHoldIntrinsic (fillEntries entries values) = entriesLeak entries
  | [], _, _, _ => rfl
  | (k, v) :: rest, values, hlength, htexts => by
    rw [outermostEntries, List.length_append] at hlength
    obtain ⟨hhere, hafter⟩ := length_take_drop hlength
    rw [fillEntries, entriesHoldIntrinsic, entriesLeak,
      holdsIntrinsic_fill v hhere fun w hw => htexts w (List.mem_of_mem_take hw),
      entriesHoldIntrinsic_fill rest hafter fun w hw => htexts w (List.mem_of_mem_drop hw)]

end

/-! ## What is read of the text -/

theorem mem_entriesKeys {entries : List (Atom × Value)} {key : String} :
    key ∈ Value.entriesKeys entries ↔
      ∃ entry ∈ entries, key = entry.1.keyText ∨ key ∈ entry.2.printedKeys := by
  induction entries with
  | nil => simp [Value.entriesKeys]
  | cons entry rest ih =>
    obtain ⟨k, v⟩ := entry
    rw [Value.entriesKeys, List.mem_cons, List.mem_append, ih, List.exists_mem_cons_iff, or_assoc]

theorem append_subset_append {keys keys' more more' : List String} (h : keys ⊆ keys')
    (hmore : more ⊆ more') : keys ++ more ⊆ keys' ++ more' :=
  List.append_subset.mpr ⟨List.Subset.trans h (List.subset_append_left _ _),
    List.Subset.trans hmore (List.subset_append_right _ _)⟩

mutual

/-- A reader finds no keys but those that are printed. -/
theorem printedKeys_reread : (v : Value) → v.reread.printedKeys ⊆ v.printedKeys
  | .atom _ | .set _ | .again _ => List.Subset.refl _
  | .list items | .tuple items => itemsKeys_reread items
  | .anchored _ v => printedKeys_reread v
  | .map entries => by
    intro key hkey
    rw [Value.reread, Value.printedKeys, mem_entriesKeys] at hkey
    obtain ⟨entry, hentry, h⟩ := hkey
    have htexts : ∀ pair ∈ Value.rereadEntries entries, ∃ s, pair.1 = .str s := by
      rw [Value.rereadEntries_eq]
      intro pair hpair
      obtain ⟨entry, -, rfl⟩ := List.mem_map.mp hpair
      exact ⟨_, rfl⟩
    exact entriesKeys_reread entries
      (mem_entriesKeys.mpr ⟨entry, Entries.mem_ofPairs htexts hentry, h⟩)

theorem itemsKeys_reread : (items : List Value) →
    Value.itemsKeys (Value.rereadItems items) ⊆ Value.itemsKeys items
  | [] => List.Subset.refl _
  | v :: rest => by
    rw [Value.rereadItems, Value.itemsKeys, Value.itemsKeys]
    exact append_subset_append (printedKeys_reread v) (itemsKeys_reread rest)

theorem entriesKeys_reread : (entries : List (Atom × Value)) →
    Value.entriesKeys (Value.rereadEntries entries) ⊆ Value.entriesKeys entries
  | [] => List.Subset.refl _
  | (k, v) :: rest => by
    rw [Value.rereadEntries, Value.entriesKeys, Value.entriesKeys, Atom.keyText_str]
    exact List.cons_subset_cons _
      (append_subset_append (printedKeys_reread v) (entriesKeys_reread rest))

end

theorem holdsIntrinsic_reread {v : Value} (h : holdsIntrinsic v = false) :
    holdsIntrinsic v.reread = false := by
  rw [← any_printedKeys, List.any_eq_false] at h ⊢
  exact fun key hkey => h key (printedKeys_reread v hkey)

end FlowTemplate.Intrinsic

namespace FlowTemplate.DefinitionString

open FlowTemplate.Computation Intrinsic

variable {σ ε : Type}

/-- An object in the text of a mapping has a key that marks an intrinsic exactly if an intrinsic
leaks from the mapping. If none does, there is none in the document that is read of the text. -/
theorem keysIn_build {indent : Option Int} {next : Generator σ ε} {resolve : Value → Value}
    {entries : Entries} {s s' : σ} {built : DefinitionString}
    (h : (build (.indented indent) next resolve (.map entries)).run s = (.ok built, s')) :
    ((∃ key ∈ Json.keysIn built.text.toList, isMarker (.str key) = true) ↔
      leaks (.map entries) = true) ∧
    ∃ document, Json.parse built.text = .ok document ∧
      (leaks (.map entries) = false → holdsIntrinsic document = false) := by
  rw [run_build_map] at h
  rcases hdraws : (draws next (outermost (.map entries)).length).run s with ⟨e | names, s₁⟩
  · rw [hdraws] at h
    cases h
  have hfilled : holdsIntrinsic (fill (.map entries) (placeholders names)) =
      leaks (.map entries) := by
    refine holdsIntrinsic_fill _ ?_ fun w hw => ?_
    · rw [placeholders, List.length_map, length_of_draws hdraws]
    · obtain ⟨name, -, rfl⟩ := List.mem_map.mp hw
      rfl
  have hassembled := hasJson_of_assemble (.indented indent) resolve
    (fill (.map entries) (placeholders names)) (names.zip (outermost (.map entries)))
  rw [hdraws] at h
  dsimp only at h
  cases hbuilt : assemble (.indented indent) resolve (fill (.map entries) (placeholders names))
      (names.zip (outermost (.map entries))) with
  | error m =>
    rw [hbuilt] at h
    cases h
  | ok built' =>
    rw [hbuilt] at h hassembled
    obtain rfl : built' = built := Except.ok.inj (Prod.mk.inj h).1
    rw [(eq_of_assemble hbuilt).1, ← hfilled]
    refine ⟨?_, _, Json.parse_render_reread rfl hassembled, holdsIntrinsic_reread⟩
    rw [String.toList_ofList, Json.keysIn_text rfl hassembled, ← any_printedKeys,
      List.any_eq_true]

/-- A document with a list of pairs, in which a reference stands under a text. -/
def pairsDocument : Yaml.Node :=
  .mapping .map [(.scalar .str "A", .sequence .pairs [
    .mapping .map [(.scalar .str "a", .scalar (.shortForm "Ref") "X")]])]

/-- The value of the document. -/
def pairsEntries : Entries :=
  [(.str "A", .list [.tuple [.str "a", .single "Ref" (.str "X")]])]

/-- The value of the document is a mapping whose text has the reference in it. -/
theorem keysIn_build_pairsDocument :
    pairsDocument.value.toOption = some (.map pairsEntries) ∧
    ∃ built s', (build (.indented none) Counter.next id (.map pairsEntries)).run
        (.create 10 Counter.defaultHead) = (.ok built, s') ∧
      built.text = "\x7b\"A\": [[\"a\", \x7b\"Ref\": \"X\"\x7d]]\x7d" ∧
      ∃ key ∈ Json.keysIn built.text.toList, isMarker (.str key) = true := by
  have hbuilt : (build (.indented none) Counter.next id (.map pairsEntries)).run
      (.create 10 Counter.defaultHead) =
      (.ok (.plain "\x7b\"A\": [[\"a\", \x7b\"Ref\": \"X\"\x7d]]\x7d"),
        .create 10 Counter.defaultHead) := rfl
  exact ⟨by cbv, _, _, hbuilt, rfl, (keysIn_build hbuilt).1.mpr (by decide)⟩

end FlowTemplate.DefinitionString
