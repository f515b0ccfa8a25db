import FlowTemplate.Proofs.Merge.Repeated
/-!
# What a merge does along a path

A path of keys leads through mappings to a value. A source that is merged in says something of a
path if it has a value at its end, or a value on the way that is no mapping. Along every other path
the target keeps what it has. A mapping at the end of a path stays one, with its keys in front and in
their order, unless the source has another kind of value there or on the way.

Containers that have a number are merged as a whole, so paths do not lead into them.
-/

namespace FlowTemplate.Value

/-- What stands at the end of a path. -/
def at? : Value → List Atom → Option Value
  | v, [] => some v
  | .map entries, k :: path => (Entries.get? entries k).bind fun v => v.at? path
  | _, _ :: _ => none

/-- Whether a source says something of what stands at the end of a path. -/
def touches : Value → List Atom → Bool
  | _, [] => true
  | .map entries, k :: path => (valuesUnder k entries).any fun v => v.touches path
  | _, _ :: _ => true

/-- Whether a source has a value that is no mapping at the end of a path or on the way. -/
def replaces : Value → List Atom → Bool
  | .map _, [] => false
  | .map entries, k :: path => (valuesUnder k entries).any fun v => v.replaces path
  | _, _ => true

theorem at?_nil (v : Value) : v.at? [] = some v := by
  cases v <;> rfl

theorem at?_cons (v : Value) (k : Atom) (path : List Atom) :
    v.at? (k :: path) = (v.at? [k]).bind fun w => w.at? path := by
  cases v with
  | map entries => cases h : Entries.get? entries k <;> simp [at?, h]
  | _ => rfl

/-! ## Values under a key -/

theorem get?_eq_head? (entries : Entries) (k : Atom) :
    entries.get? k = (valuesUnder k entries).head? := by
  induction entries with
  | nil => rfl
  | cons entry rest ih =>
    obtain ⟨l, v⟩ := entry
    rw [Entries.get?_cons, Atom.sameKey_comm, ih]
    by_cases h : k.sameKey l = true <;> simp [valuesUnder, h]

theorem mergeInto_of_found_not_map {found : Option Value} (h : ∀ target, found ≠ some (.map target))
    (v : Value) : mergeInto found v = v := by
  rw [mergeInto.eq_def]
  split
  · exact absurd rfl (h _)
  · rfl

/-- One value under a key meets what stands under it. -/
theorem at?_mergeInto_cons {entries : Entries} {k : Atom} {v : Value}
    (h : valuesUnder k entries = [v]) (found : Option Value) (path : List Atom) :
    (mergeInto found (.map entries)).at? (k :: path) =
      (mergeInto (found.bind fun w => w.at? [k]) v).at? path := by
  by_cases hmap : ∃ target, found = some (.map target)
  · obtain ⟨target, rfl⟩ := hmap
    have hfound : (some (Value.map target)).bind (fun w => w.at? [k]) = Entries.get? target k := by
      cases hget : Entries.get? target k <;> simp [at?, hget]
    rw [hfound, mergeInto, at?, get?_mergeEntries, h]
    rfl
  · have hnot : ∀ target, found ≠ some (.map target) := fun target heq => hmap ⟨target, heq⟩
    have hnone : (found.bind fun w => w.at? [k]) = none := by
      cases found with
      | none => rfl
      | some w => cases w with
        | map target => exact absurd rfl (hnot target)
        | _ => rfl
    have hv : mergeInto none v = v := mergeInto_of_found_not_map (fun target heq => by cases heq) v
    rw [hnone, hv, mergeInto_of_found_not_map hnot, at?, get?_eq_head?, h]
    rfl

/-! ## Paths of which a source says nothing -/

theorem at?_of_untouched {path : List Atom} {source : Value} (h : source.touches path = false) :
    source.at? path = none := by
  induction path generalizing source with
  | nil => simp [touches] at h
  | cons k path ih =>
    cases source with
    | map entries =>
      have hvalues : ∀ v ∈ valuesUnder k entries, v.touches path = false := by
        simpa [touches] using h
      rw [at?, get?_eq_head?]
      cases hhead : (valuesUnder k entries).head? with
      | none => rfl
      | some v => exact ih (hvalues v (List.mem_of_head? hhead))
    | _ => rfl

/-- What stands along a path stays if the source says nothing of it. -/
theorem at?_mergeInto_of_untouched {path : List Atom} {source : Value}
    (h : source.touches path = false) (found : Option Value) :
    (mergeInto found source).at? path = found.bind fun v => v.at? path := by
  induction path generalizing source found with
  | nil => simp [touches] at h
  | cons k path ih =>
    cases source with
    | map entries =>
      have hvalues : ∀ v ∈ valuesUnder k entries, v.touches path = false := by
        simpa [touches] using h
      have hfold (vs : List Value) (hvs : ∀ v ∈ vs, v.touches path = false)
          (found : Option Value) :
          (vs.foldl (fun found v => some (mergeInto found v)) found).bind (fun v => v.at? path) =
            found.bind fun v => v.at? path := by
        induction vs generalizing found with
        | nil => rfl
        | cons v vs ihvs =>
          obtain ⟨hv, hvs⟩ := List.forall_mem_cons.mp hvs
          rw [List.foldl_cons, ihvs hvs, Option.bind_some, ih hv]
      by_cases hmap : ∃ target, found = some (.map target)
      · obtain ⟨target, rfl⟩ := hmap
        rw [mergeInto, at?, get?_mergeEntries, hfold _ hvalues]
        rfl
      · have hnot : ∀ target, found ≠ some (.map target) := fun target heq => hmap ⟨target, heq⟩
        rw [mergeInto_of_found_not_map hnot, at?_of_untouched h]
        cases found with
        | none => rfl
        | some w => cases w with
          | map target => exact absurd rfl (hnot target)
          | _ => rfl
    | _ => simp [touches] at h

/-! ## Mappings along a path -/

/-- Where a mapping stood stands one still, and the keys of the old one come first in it, in the same
order. -/
def KeepsKeys (old new : Option Value) : Prop :=
  ∀ entries : Entries, old = some (.map entries) →
    ∃ more : Entries, new = some (.map more) ∧ entries.keys <+: more.keys

theorem KeepsKeys.refl (old : Option Value) : KeepsKeys old old :=
  fun entries h => ⟨entries, h, List.prefix_rfl⟩

theorem KeepsKeys.trans {a b c : Option Value} (h : KeepsKeys a b) (h' : KeepsKeys b c) :
    KeepsKeys a c := by
  intro entries ha
  obtain ⟨more, hb, hkeys⟩ := h entries ha
  obtain ⟨most, hc, hkeys'⟩ := h' more hb
  exact ⟨most, hc, hkeys.trans hkeys'⟩

theorem keys_mergeEntries_prefix (target source : Entries) :
    target.keys <+: (mergeEntries target source).keys := by
  induction source generalizing target with
  | nil => exact List.prefix_rfl
  | cons entry rest ih =>
    obtain ⟨k, v⟩ := entry
    rw [mergeEntries]
    exact (Entries.keys_insert_prefix target k _).trans (ih _)

/-- A merge keeps the keys of a mapping that the source does not replace. -/
theorem keepsKeys_mergeInto {path : List Atom} {source : Value}
    (h : source.replaces path = false) (found : Option Value) :
    KeepsKeys (found.bind fun v => v.at? path) ((mergeInto found source).at? path) := by
  induction path generalizing source found with
  | nil =>
    intro entries hfound
    cases source with
    | map more =>
      obtain ⟨v, rfl, hv⟩ := Option.bind_eq_some_iff.mp hfound
      obtain rfl : v = .map entries := Option.some.inj ((at?_nil v).symm.trans hv)
      refine ⟨mergeEntries entries more, ?_, keys_mergeEntries_prefix entries more⟩
      rw [mergeInto, at?_nil]
    | _ => simp [replaces] at h
  | cons k path ih =>
    cases source with
    | map entries =>
      have hvalues : ∀ v ∈ valuesUnder k entries, v.replaces path = false := by
        simpa [replaces] using h
      have hfold (vs : List Value) (hvs : ∀ v ∈ vs, v.replaces path = false)
          (found : Option Value) : KeepsKeys (found.bind fun v => v.at? path)
            ((vs.foldl (fun found v => some (mergeInto found v)) found).bind
              fun v => v.at? path) := by
        induction vs generalizing found with
        | nil => exact .refl _
        | cons v vs ihvs =>
          obtain ⟨hv, hvs⟩ := List.forall_mem_cons.mp hvs
          exact (ih hv found).trans (ihvs hvs (some (mergeInto found v)))
      by_cases hmap : ∃ target, found = some (.map target)
      · obtain ⟨target, rfl⟩ := hmap
        have hkeeps := hfold _ hvalues (Entries.get? target k)
        rwa [← get?_mergeEntries] at hkeeps
      · intro target hfound
        obtain ⟨v, rfl, hv⟩ := Option.bind_eq_some_iff.mp hfound
        cases v with
        | map target => exact absurd ⟨target, rfl⟩ hmap
        | _ => cases hv
    | _ => simp [replaces] at h

/-! ## A value over another -/

/-- A value has come over the one that stood there before. It stands as it is, unless both are
mappings: then what it has under a key comes over what stood under this key, and the other keys of
the old mapping are left. -/
inductive Overlaid : Option Value → Value → Value → Prop
  | exact {old : Option Value} {new : Value}
      (h : ∀ target source, old = some (.map target) → new ≠ .map source) : Overlaid old new new
  | merged {target source merged : Entries}
      (there : ∀ k, valuesUnder k source ≠ [] → (merged.get? k).isSome = true)
      (under : ∀ k v result, valuesUnder k source = [v] → merged.get? k = some result →
        Overlaid (target.get? k) v result)
      (besides : ∀ k, valuesUnder k source = [] → merged.get? k = target.get? k) :
      Overlaid (some (.map target)) (.map source) (.map merged)

theorem overlaid_mergeInto (old : Option Value) (new : Value) :
    Overlaid old new (mergeInto old new) := by
  by_cases hmaps : ∃ target source, old = some (.map target) ∧ new = .map source
  · obtain ⟨target, source, rfl, rfl⟩ := hmaps
    rw [mergeInto]
    refine .merged (fun k hk => ?_) (fun k v result hk hresult => ?_) fun k hk => ?_
    · rw [get?_mergeEntries, ← List.dropLast_concat_getLast hk, List.foldl_append]
      rfl
    · rw [get?_mergeEntries, hk] at hresult
      obtain rfl := Option.some.inj hresult
      obtain ⟨l, hmem⟩ := mem_of_mem_valuesUnder (hk ▸ List.mem_singleton_self v)
      have hsize : sizeOf v < sizeOf (Value.map source) := sizeOf_lt_of_mem hmem
      exact overlaid_mergeInto (Entries.get? target k) v
    · rw [get?_mergeEntries, hk]
      rfl
  · have hexact : ∀ target source, old = some (.map target) → new ≠ .map source :=
      fun target source hold hnew => hmaps ⟨target, source, hold, hnew⟩
    have hmerge : mergeInto old new = new := by
      cases new with
      | map source => exact mergeInto_of_found_not_map (fun target h => hexact target source h rfl) _
      | _ => exact mergeInto_of_not_map (fun entries h => by cases h) old
    rw [hmerge]
    exact .exact hexact
termination_by sizeOf new

end FlowTemplate.Value
