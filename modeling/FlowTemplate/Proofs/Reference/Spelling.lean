import FlowTemplate.Proofs.Reference.Version
/-!
# The two spellings of an address

The argument of `Fn::GetAtt` is a pair or a text that is split at its first dot. Writing all
addresses of a value as pairs, those in the arguments of other addresses left out, changes neither
the kind of any other part nor a key. References resolve in one spelling as in the other, and the
same ones can be pinned.
-/

namespace FlowTemplate

open Reference

/-- The argument of an address, as a pair if it is a text. -/
def Value.asPair : Value → Value
  | .atom (.str s) => .list [.str (splitDot s).1, .str (splitDot s).2]
  | v => v

namespace Value

mutual

/-- A value with its addresses written as pairs. -/
def paired : Value → Value
  | .list items => .list (pairedItems items)
  | .map [(.str "Fn::GetAtt", argument)] => .single "Fn::GetAtt" argument.asPair
  | .map entries => .map (pairedEntries entries)
  | v => v

def pairedItems : List Value → List Value
  | [] => []
  | v :: rest => paired v :: pairedItems rest

def pairedEntries : List (Atom × Value) → List (Atom × Value)
  | [] => []
  | (k, v) :: rest => (k, paired v) :: pairedEntries rest

end

end Value

/-- The fields of a mapping with the addresses written as pairs; the mapping may be an address. -/
def Entries.paired (entries : Entries) : Entries :=
  match entries with
  | [(.str "Fn::GetAtt", argument)] => [(.str "Fn::GetAtt", argument.asPair)]
  | entries => entries.map fun (k, v) => (k, v.paired)

namespace Value

variable {v w : Value} {entries : Entries}

theorem pairedItems_eq (items : List Value) : pairedItems items = items.map paired := by
  induction items with
  | nil => rfl
  | cons v rest ih => rw [pairedItems, ih, List.map_cons]

theorem pairedEntries_eq (entries : Entries) :
    pairedEntries entries = entries.map fun (k, v) => (k, v.paired) := by
  induction entries with
  | nil => rfl
  | cons entry rest ih => rw [pairedEntries, ih, List.map_cons]

@[simp] theorem paired_atom (a : Atom) : (Value.atom a).paired = .atom a := by
  rw [paired.eq_def]

@[simp] theorem paired_list (items : List Value) :
    (Value.list items).paired = .list (items.map paired) := by
  rw [paired, pairedItems_eq]

@[simp] theorem paired_map (entries : Entries) :
    (Value.map entries).paired = .map entries.paired := by
  rw [paired.eq_def, Entries.paired.eq_def]
  split
  · rename_i h
    cases h
  · rename_i argument h
    obtain rfl := Value.map.inj h
    rfl
  · rename_i found hnot h
    obtain rfl := Value.map.inj h
    split
    · exact absurd rfl (hnot _)
    · rw [pairedEntries_eq]
  · rename_i hmap
    exact (hmap entries rfl).elim

theorem paired_address (argument : Value) :
    (Value.single "Fn::GetAtt" argument).paired = .single "Fn::GetAtt" argument.asPair :=
  paired_map _

/-- Only a list and a mapping can be other than they were. -/
theorem paired_cases {P : Value → Value → Prop} (same : ∀ v, P v v)
    (list : ∀ items, P (.list items) (.list (items.map paired)))
    (map : ∀ entries : Entries, P (.map entries) (.map entries.paired)) (v : Value) :
    P v v.paired := by
  cases v with
  | list items => rw [paired_list]; exact list items
  | map entries => rw [paired_map]; exact map entries
  | _ => rw [paired.eq_def]; exact same _

theorem paired_of_not_address {entries : Entries} (h : ¬ IsAddress (.map entries)) :
    entries.paired = entries.map fun entry => (entry.1, entry.2.paired) := by
  rw [Entries.paired.eq_def]
  split
  · exact absurd ⟨_, rfl⟩ h
  · rfl

theorem keys_paired (entries : Entries) : entries.paired.keys = entries.keys := by
  rw [Entries.paired.eq_def]
  split
  · rfl
  · rw [Entries.keys, Entries.keys, List.map_map]
    rfl

/-- Every field but that of an address is itself written with pairs. -/
theorem find?_paired {key : String} (h : key ≠ "Fn::GetAtt") :
    entries.paired.find? key = (entries.find? key).map paired := by
  rw [Entries.paired.eq_def]
  split
  · have hne : Atom.str "Fn::GetAtt" ≠ .str key := fun heq => h (Atom.str.inj heq).symm
    rw [Entries.find?_cons, Entries.find?_cons, if_neg hne, if_neg hne]
    rfl
  · clear * -
    induction entries with
    | nil => rfl
    | cons entry rest ih =>
      obtain ⟨k, w⟩ := entry
      rw [List.map_cons, Entries.find?_cons, Entries.find?_cons, ih]
      split <;> rfl

theorem contains_paired (entries : Entries) (name : String) :
    entries.paired.contains name = entries.contains name := by
  rw [Bool.eq_iff_iff, Entries.contains, Entries.contains, Option.isSome_iff_ne_none,
    Option.isSome_iff_ne_none, ne_eq, ne_eq, Entries.find?_eq_none_iff, Entries.find?_eq_none_iff,
    keys_paired]

theorem hull_map (entries : Entries) :
    (Value.map entries).hull = .map (entries.keys.map fun k => (k, .null)) := by
  rw [hull, Entries.keys, List.map_map]
  rfl

theorem eq_atom_of_paired {a : Atom} (h : v.paired = .atom a) : v = .atom a := by
  revert h
  refine paired_cases (P := fun v w => w = .atom a → v = .atom a) (fun v h => h) ?_ ?_ v
  · exact fun items h => by cases h
  · exact fun entries h => by cases h

end Value

namespace Reference

variable {functions : List String} {v w : Value}

theorem parts?_asPair (argument : Value) : parts? argument.asPair = parts? argument := by
  cases argument with
  | atom a => cases a <;> rfl
  | _ => rfl

/-- A value that is no address keeps its kind and its keys, and its parts are written with pairs. -/
theorem paired_of_other (h : ¬ IsAddress v) :
    v.paired.hull = v.hull ∧ v.paired.parts = v.parts.map Value.paired := by
  cases v with
  | list items =>
    rw [Value.paired_list]
    exact ⟨by rw [Value.hull, Value.hull, List.map_map]; rfl, rfl⟩
  | map entries =>
    rw [Value.paired_map, Value.hull_map, Value.hull_map, Value.keys_paired]
    refine ⟨rfl, ?_⟩
    rw [Value.paired_of_not_address h]
    simp [Value.parts]
  | _ => rw [Value.paired.eq_def]; exact ⟨rfl, rfl⟩

theorem exists_single_of_paired {key : String} {argument : Value} (h : ¬ IsAddress v)
    (hpaired : v.paired = .single key argument) :
    ∃ old, v = .single key old ∧ old.paired = argument := by
  obtain ⟨hhull, hparts⟩ := paired_of_other h
  rw [hpaired] at hhull hparts
  exact Value.exists_single_of_hull hhull hparts

theorem not_isAddress_paired (h : ¬ IsAddress v) : ¬ IsAddress v.paired := by
  rintro ⟨argument, hpaired⟩
  obtain ⟨old, rfl, -⟩ := exists_single_of_paired h hpaired
  exact h ⟨old, rfl⟩

/-! ## Resolving -/

/-- Whether an address is one in a declared function does not depend on its spelling. -/
theorem localizes_asPair {argument : Value} :
    Localizes functions (.single "Fn::GetAtt" argument.asPair) w ↔
      Localizes functions (.single "Fn::GetAtt" argument) w := by
  rw [localizes_address_iff, localizes_address_iff, parts?_asPair]

theorem not_isLocal_paired (haddress : ¬ IsAddress v) (hforeign : ¬ IsLocal functions v) :
    ¬ IsLocal functions v.paired := by
  rintro ⟨y, hlocal⟩
  generalize hw : v.paired = w at hlocal
  cases hlocal with
  | @name f hf =>
    obtain ⟨old, rfl, hold⟩ := exists_single_of_paired haddress hw
    exact hforeign ⟨_, localizes_ref_iff.mpr ⟨f, hf, Value.eq_atom_of_paired hold, rfl⟩⟩
  | pair => exact not_isAddress_paired haddress ⟨_, hw⟩
  | dotted => exact not_isAddress_paired haddress ⟨_, hw⟩

theorem resolve_paired_address (argument : Value) :
    resolve functions (Value.single "Fn::GetAtt" argument).paired =
      (resolve functions (Value.single "Fn::GetAtt" argument)).paired := by
  rw [Value.paired_address]
  by_cases hlocal : IsLocal functions (.single "Fn::GetAtt" argument)
  · obtain ⟨y, hlocal⟩ := hlocal
    rw [resolve_of_localizes hlocal, resolve_of_localizes (localizes_asPair.mpr hlocal)]
    obtain ⟨f, property, -, -, rfl⟩ := localizes_address_iff.mp hlocal
    rw [getAtt, Value.paired_address]
    rfl
  · have hpaired : ¬ IsLocal functions (.single "Fn::GetAtt" argument.asPair) := by
      rintro ⟨y, hagain⟩
      exact hlocal ⟨y, localizes_asPair.mp hagain⟩
    rw [resolve_of_isAddress ⟨_, rfl⟩ hlocal, resolve_of_isAddress ⟨_, rfl⟩ hpaired,
      Value.paired_address]

theorem resolve_paired (functions : List String) (v : Value) :
    resolve functions v.paired = (resolve functions v).paired := by
  induction v using Value.parts_induction with
  | h v ih =>
    by_cases haddress : IsAddress v
    · obtain ⟨argument, rfl⟩ := haddress
      exact resolve_paired_address argument
    · by_cases hforeign : IsLocal functions v
      · obtain ⟨y, hlocal⟩ := hforeign
        have hresolve := resolve_of_localizes hlocal
        cases hlocal with
        | name hf => rw [hresolve]; exact hresolve
        | pair => exact absurd ⟨_, rfl⟩ haddress
        | dotted => exact absurd ⟨_, rfl⟩ haddress
      · obtain ⟨hhull, hparts⟩ := resolve_of_other haddress hforeign
        obtain ⟨hhull', hparts'⟩ := paired_of_other haddress
        have hresolved := resolve_of_other (not_isAddress_paired haddress)
          (not_isLocal_paired haddress hforeign)
        have hpaired := paired_of_other (not_isLocal_resolve haddress hforeign).1
        apply Value.eq_of_hull_of_parts
        · rw [hresolved.1, hpaired.1, hhull, hhull']
        · rw [hresolved.2, hpaired.2, hparts, hparts', List.map_map, List.map_map]
          exact List.map_congr_left ih

/-! ## Pinning -/

/-- A reference to something other than a text is none to a function. -/
theorem functionTarget?_eq (template v : Value) :
    functionTarget? template v = match (directTarget? v).bind Value.str? with
      | some target => do
        let found ← (← resources template).field target
        return if found.any (hasType functionType) then some target else none
      | none => .ok none := by
  rw [functionTarget?]
  rcases directTarget? v with _ | target
  · rfl
  · cases target with
    | atom a => cases a <;> rfl
    | _ => rfl

theorem directTarget?_eq_none (haddress : ¬ IsAddress v) (h : ∀ w, v ≠ .single "Ref" w) :
    directTarget? v = none := by
  rw [directTarget?.eq_def]
  split
  · exact absurd ⟨_, rfl⟩ haddress
  · exact absurd rfl (h _)
  · rfl

theorem str?_paired (v : Value) : v.paired.str? = v.str? :=
  Value.paired_cases (P := fun v w => w.str? = v.str?) (fun _ => rfl) (fun _ => rfl)
    (fun _ => rfl) v

theorem str?_directTarget?_paired (v : Value) :
    (directTarget? v.paired).bind Value.str? = (directTarget? v).bind Value.str? := by
  by_cases haddress : IsAddress v
  · obtain ⟨argument, rfl⟩ := haddress
    rw [Value.paired_address, directTarget?, directTarget?, parts?_asPair]
  · by_cases href : ∃ w, v = .single "Ref" w
    · obtain ⟨w, rfl⟩ := href
      exact str?_paired w
    · have hnot : ∀ w, v ≠ .single "Ref" w := not_exists.mp href
      have hnot' : ∀ w, v.paired ≠ .single "Ref" w := by
        intro w hw
        obtain ⟨old, hold, -⟩ := exists_single_of_paired haddress hw
        exact hnot old hold
      rw [directTarget?_eq_none haddress hnot,
        directTarget?_eq_none (not_isAddress_paired haddress) hnot']

/-- A reference is pinned in one spelling as in the other: to the same version, with the same
failure, or not at all. -/
theorem pin_paired (template v : Value) :
    pin template v.paired = (pin template v).map Value.paired := by
  have htarget : functionTarget? template v.paired = functionTarget? template v := by
    rw [functionTarget?_eq, functionTarget?_eq, str?_directTarget?_paired]
  rw [pin, pin, htarget]
  rcases functionTarget? template v with m | _ | target
  · rfl
  · rfl
  · change ((((resources template).bind Value.entries).mapError PinFailure.misfit) >>= _) =
      Except.map Value.paired ((((resources template).bind Value.entries).mapError _) >>= _)
    rcases (resources template).bind Value.entries with m | entries
    · rfl
    · change (((findVersion target entries).mapError PinFailure.misfit) >>= _) =
        Except.map Value.paired (((findVersion target entries).mapError _) >>= _)
      rcases findVersion target entries with m | _ | version
      · rfl
      · rfl
      · change _ = Except.ok (Value.single "Ref" (.atom version)).paired
        rfl

end Reference

end FlowTemplate
