import FlowTemplate.Proofs.Merge.Path
/-!
# Laws of merging

A source is merged into a target once and for all: coming again it changes nothing. Along every path
the result can be told from what the two sides hold there. Where both have a mapping, all keys of the
target stay, in front and in their order; what a source has beside mappings is what stands there
afterwards; and along paths of which the source says nothing the target is as before. Two sources that
have nothing but mappings in common can be merged one after the other in either order: what comes out
differs in the order of keys only.

Paths lead through mappings, and a list or an atom is taken as a whole.
-/

namespace FlowTemplate

namespace Entries

theorem mem_keys_insert {entries : Entries} {k l : Atom} {v : Value}
    (h : l ∈ (entries.insert k v).keys) : l ∈ entries.keys ∨ l = k := by
  induction entries with
  | nil => exact .inr (List.mem_singleton.mp h)
  | cons entry rest ih =>
    obtain ⟨m, w⟩ := entry
    rw [insert] at h
    split at h
    · exact .inl h
    · rcases List.mem_cons.mp h with rfl | h
      · exact .inl List.mem_cons_self
      · exact (ih h).imp_left (List.mem_cons_of_mem m)

theorem value_of_mem_insert {entries : Entries} {k : Atom} {v : Value} {entry : Atom × Value}
    (h : entry ∈ entries.insert k v) : entry ∈ entries ∨ entry.2 = v := by
  induction entries with
  | nil => exact .inr (by rw [List.mem_singleton.mp h])
  | cons other rest ih =>
    obtain ⟨m, w⟩ := other
    rw [insert] at h
    split at h
    · rcases List.mem_cons.mp h with rfl | h
      · exact .inr rfl
      · exact .inl (List.mem_cons_of_mem _ h)
    · rcases List.mem_cons.mp h with rfl | h
      · exact .inl List.mem_cons_self
      · exact (ih h).imp_left (List.mem_cons_of_mem _)

theorem haveOwnKeys_cons {k : Atom} {v : Value} {rest : Entries} :
    haveOwnKeys ((k, v) :: rest) = true ↔
      k.sameKey k = true ∧ (∀ l ∈ rest.keys, k.sameKey l = false) ∧ rest.haveOwnKeys = true := by
  have hkeys : keys ((k, v) :: rest) = k :: rest.keys := rfl
  rw [haveOwnKeys_iff, haveOwnKeys_iff, hkeys, List.forall_mem_cons, List.pairwise_cons]
  exact ⟨fun ⟨⟨hk, hself⟩, hother, hrest⟩ => ⟨hk, hother, hself, hrest⟩,
    fun ⟨hk, hother, hself, hrest⟩ => ⟨⟨hk, hself⟩, hother, hrest⟩⟩

theorem haveOwnKeys_insert {entries : Entries} {k : Atom} (hk : k.sameKey k = true)
    (h : entries.haveOwnKeys = true) (v : Value) : (entries.insert k v).haveOwnKeys = true := by
  induction entries with
  | nil => exact haveOwnKeys_cons.mpr ⟨hk, fun l hl => absurd hl List.not_mem_nil, h⟩
  | cons entry rest ih =>
    obtain ⟨m, w⟩ := entry
    obtain ⟨hm, hother, hrest⟩ := haveOwnKeys_cons.mp h
    rw [insert]
    split
    · exact haveOwnKeys_cons.mpr ⟨hm, hother, hrest⟩
    · rename_i hne
      refine haveOwnKeys_cons.mpr ⟨hm, fun l hl => ?_, ih hrest⟩
      rcases mem_keys_insert hl with hl | rfl
      · exact hother l hl
      · exact Bool.eq_false_iff.mpr hne

end Entries

namespace Value

/-! ## Sources that hold no key twice -/

/-- Under a key there is one value or none. -/
theorem valuesUnder_of_haveOwnKeys {source : Entries} (h : source.haveOwnKeys = true) (k : Atom) :
    valuesUnder k source = (source.get? k).toList := by
  induction source with
  | nil => rfl
  | cons entry rest ih =>
    obtain ⟨l, v⟩ := entry
    obtain ⟨-, hother, hrest⟩ := Entries.haveOwnKeys_cons.mp h
    rw [Entries.get?_cons, Atom.sameKey_comm l k]
    by_cases hk : k.sameKey l = true
    · have hnone : valuesUnder k rest = [] := by
        rw [valuesUnder, List.map_eq_nil_iff, List.filter_eq_nil_iff]
        intro entry hentry
        rw [Atom.sameKey_congr hk, hother entry.1 (List.mem_map_of_mem hentry)]
        decide
      have hunder : valuesUnder k ((l, v) :: rest) = v :: valuesUnder k rest := by
        simp [valuesUnder, hk]
      rw [hunder, hnone, if_pos hk]
      rfl
    · have hunder : valuesUnder k ((l, v) :: rest) = valuesUnder k rest := by
        simp [valuesUnder, hk]
      rw [hunder, ih hrest, if_neg hk]

/-- What stands under a key after a merge. -/
theorem get?_mergeEntries_own {source : Entries} (h : source.haveOwnKeys = true) (target : Entries)
    (k : Atom) : (mergeEntries target source).get? k = match source.get? k with
      | some v => some (mergeInto (target.get? k) v)
      | none => target.get? k := by
  rw [get?_mergeEntries, valuesUnder_of_haveOwnKeys h]
  cases source.get? k <;> rfl

theorem isKeyed_of_get? {entries : Entries} (h : (Value.map entries).isKeyed = true) {k : Atom}
    {v : Value} (hv : entries.get? k = some v) : v.isKeyed = true := by
  rw [get?_eq_head?] at hv
  obtain ⟨l, hl⟩ := mem_of_mem_valuesUnder (List.mem_of_head? hv)
  exact ((isKeyed_map entries).mp h).2 (l, v) hl

theorem sizeOf_lt_of_get? {entries : Entries} {k : Atom} {v : Value}
    (hv : entries.get? k = some v) : sizeOf v < sizeOf (Value.map entries) := by
  rw [get?_eq_head?] at hv
  obtain ⟨l, hl⟩ := mem_of_mem_valuesUnder (List.mem_of_head? hv)
  have hsize : sizeOf (l, v).2 < sizeOf (Value.map entries) := sizeOf_lt_of_mem hl
  exact hsize

mutual

/-- No merge makes a mapping hold a key twice. -/
theorem isKeyed_mergeInto {found : Option Value} (hfound : ∀ w, found = some w → w.isKeyed = true) :
    (v : Value) → v.isKeyed = true → (mergeInto found v).isKeyed = true
  | .map source, h => by
    rw [mergeInto.eq_def]
    split
    · rename_i target source' heq
      obtain rfl := Value.map.inj heq
      exact isKeyed_mergeEntries (hfound _ rfl) source ((isKeyed_map source).mp h)
    · exact h
  | .atom _, h | .list _, h | .tuple _, h | .set _, h | .anchored .., h | .again _, h => by
    rw [mergeInto_of_not_map (fun entries heq => by cases heq)]
    exact h

theorem isKeyed_mergeEntries {target : Entries} (htarget : (Value.map target).isKeyed = true) :
    (source : Entries) → source.haveOwnKeys = true ∧ (∀ entry ∈ source, entry.2.isKeyed = true) →
      (Value.map (mergeEntries target source)).isKeyed = true
  | [], _ => htarget
  | (k, v) :: rest, h => by
    obtain ⟨hk, -, hrest⟩ := Entries.haveOwnKeys_cons.mp h.1
    obtain ⟨hv, hvalues⟩ := List.forall_mem_cons.mp h.2
    have hmerged : (mergeInto (target.get? k) v).isKeyed = true :=
      isKeyed_mergeInto (fun w hw => isKeyed_of_get? htarget hw) v hv
    rw [mergeEntries]
    refine isKeyed_mergeEntries ((isKeyed_map _).mpr ⟨?_, fun entry hentry => ?_⟩) rest
      ⟨hrest, hvalues⟩
    · exact Entries.haveOwnKeys_insert hk ((isKeyed_map target).mp htarget).1 _
    · rcases Entries.value_of_mem_insert hentry with hold | hnew
      · exact ((isKeyed_map target).mp htarget).2 entry hold
      · exact hnew ▸ hmerged

end

/-! ## Paths -/

/-- A source with a mapping at the end of a path has nothing else on the way. -/
theorem replaces_eq_false_of_at? {path : List Atom} {source : Value} {entries : Entries}
    (h : source.isKeyed = true) (hat : source.at? path = some (.map entries)) :
    source.replaces path = false := by
  induction path generalizing source with
  | nil =>
    rw [at?_nil] at hat
    rw [Option.some.inj hat]
    rfl
  | cons k path ih =>
    cases source with
    | map source =>
      obtain ⟨v, hv, hat⟩ := Option.bind_eq_some_iff.mp hat
      rw [replaces, valuesUnder_of_haveOwnKeys ((isKeyed_map source).mp h).1, hv]
      simpa using ih (isKeyed_of_get? h hv) hat
    | _ => cases hat

/-- What a source has beside mappings stands there after a merge. -/
theorem at?_mergeInto_of_not_map {path : List Atom} {source v : Value}
    (h : source.isKeyed = true) (hat : source.at? path = some v)
    (hv : ∀ entries, v ≠ .map entries) (found : Option Value) :
    (mergeInto found source).at? path = some v := by
  induction path generalizing source found with
  | nil =>
    rw [at?_nil] at hat ⊢
    obtain rfl := Option.some.inj hat
    rw [mergeInto_of_not_map hv]
  | cons k path ih =>
    cases source with
    | map source =>
      obtain ⟨w, hw, hat⟩ := Option.bind_eq_some_iff.mp hat
      have hunder : valuesUnder k source = [w] := by
        rw [valuesUnder_of_haveOwnKeys ((isKeyed_map source).mp h).1, hw]
        rfl
      rw [at?_mergeInto_cons hunder]
      exact ih (isKeyed_of_get? h hw) hat _
    | _ => cases hat

/-- A source says nothing of a path: it has nothing at its end, and on the way nothing but mappings. -/
structure IsSilentOn (source : Value) (path : List Atom) : Prop where
  unmentioned : source.at? path = none
  uncut : ∀ way, way <+: path → ∀ v, source.at? way = some v → ∃ entries, v = .map entries

theorem touches_eq_false_of_isSilentOn {path : List Atom} {source : Value}
    (h : source.isKeyed = true) (hsilent : source.IsSilentOn path) :
    source.touches path = false := by
  induction path generalizing source with
  | nil =>
    have hnone := hsilent.unmentioned
    rw [at?_nil] at hnone
    cases hnone
  | cons k path ih =>
    obtain ⟨source, rfl⟩ := hsilent.uncut [] List.nil_prefix source (at?_nil source)
    rw [touches, valuesUnder_of_haveOwnKeys ((isKeyed_map source).mp h).1]
    cases hv : Entries.get? source k with
    | none => rfl
    | some v =>
      have hstep (way : List Atom) : (Value.map source).at? (k :: way) = v.at? way := by
        rw [at?, hv, Option.bind_some]
      have hrest : v.IsSilentOn path := by
        refine ⟨by rw [← hstep, hsilent.unmentioned], fun way hway w hw => ?_⟩
        exact hsilent.uncut (k :: way) ((List.prefix_cons_inj k).mpr hway) w (by rw [hstep, hw])
      simpa using ih (isKeyed_of_get? h hv) hrest

/-! ## Either order -/

/-- At every path where both sources have a value, both have a mapping. -/
def Compatible (source other : Value) : Prop :=
  ∀ path v w, source.at? path = some v → other.at? path = some w →
    (∃ entries, v = .map entries) ∧ ∃ entries, w = .map entries

/-- Mappings are compatible if what they have under one key is. -/
theorem compatible_map {source other : Entries} : Compatible (.map source) (.map other) ↔
    ∀ k v w, source.get? k = some v → other.get? k = some w → Compatible v w := by
  constructor
  · intro h k v w hv hw path x y hx hy
    refine h (k :: path) x y ?_ ?_
    · rw [at?, hv, Option.bind_some, hx]
    · rw [at?, hw, Option.bind_some, hy]
  · intro h path x y hx hy
    cases path with
    | nil =>
      rw [at?_nil] at hx hy
      exact ⟨⟨source, (Option.some.inj hx).symm⟩, other, (Option.some.inj hy).symm⟩
    | cons k path =>
      obtain ⟨v, hv, hx⟩ := Option.bind_eq_some_iff.mp hx
      obtain ⟨w, hw, hy⟩ := Option.bind_eq_some_iff.mp hy
      exact h k v w hv hw path x y hx hy

/-- Two values that differ in the order of keys only, at whatever depth: no mapping holds a key twice,
both hold the same keys, and under each of them again the two values differ so only. -/
inductive Reordered : Value → Value → Prop
  | same (v : Value) : Reordered v v
  | map {entries others : Entries} (own : entries.haveOwnKeys = true)
      (own' : others.haveOwnKeys = true)
      (there : ∀ k, (entries.get? k).isSome = (others.get? k).isSome)
      (under : ∀ k v w, entries.get? k = some v → others.get? k = some w → Reordered v w) :
      Reordered (.map entries) (.map others)

/-- A mapping that is merged meets the entries of the mapping there, if there is one. -/
theorem mergeInto_own {source : Entries} (h : source.haveOwnKeys = true) (found : Option Value) :
    mergeInto found (.map source) = .map (mergeEntries (found.elim [] ownEntries) source) := by
  cases found with
  | none =>
    rw [mergeInto_of_found_not_map fun target heq => by cases heq]
    exact congrArg Value.map (mergeEntries_nil h).symm
  | some v => exact mergeInto_map h v

theorem isKeyed_elim {found : Option Value} (h : ∀ w, found = some w → w.isKeyed = true) :
    (Value.map (found.elim [] ownEntries)).isKeyed = true := by
  cases found with
  | none => rfl
  | some v =>
    cases v with
    | map target => exact h _ rfl
    | _ => rfl

/-- Where only one of two sources has a value, the order in which they come does not matter; where
both have one, the two values come in this or that order. -/
theorem get?_mergeEntries_twice {source other : Entries} (hsource : source.haveOwnKeys = true)
    (hother : other.haveOwnKeys = true) (target : Entries) (k : Atom) :
    (mergeEntries (mergeEntries target source) other).get? k =
        (mergeEntries (mergeEntries target other) source).get? k ∨
      ∃ v w, source.get? k = some v ∧ other.get? k = some w ∧
        (mergeEntries (mergeEntries target source) other).get? k =
          some (mergeInto (some (mergeInto (target.get? k) v)) w) ∧
        (mergeEntries (mergeEntries target other) source).get? k =
          some (mergeInto (some (mergeInto (target.get? k) w)) v) := by
  simp only [get?_mergeEntries_own hsource, get?_mergeEntries_own hother]
  cases source.get? k with
  | none => exact .inl rfl
  | some v =>
    cases other.get? k with
    | none => exact .inl rfl
    | some w => exact .inr ⟨v, w, rfl, rfl, rfl, rfl⟩

/-- By induction on the size of a source: where both have a value, both are smaller mappings. -/
theorem reordered_mergeInto {source other : Value} (h : Compatible source other)
    (hsource : source.isKeyed = true) (hother : other.isKeyed = true) {found : Option Value}
    (hfound : ∀ w, found = some w → w.isKeyed = true) :
    Reordered (mergeInto (some (mergeInto found source)) other)
      (mergeInto (some (mergeInto found other)) source) := by
  obtain ⟨⟨entries, rfl⟩, others, rfl⟩ := h [] source other (at?_nil source) (at?_nil other)
  have hentries := ((isKeyed_map entries).mp hsource).1
  have hothers := ((isKeyed_map others).mp hother).1
  have htarget := isKeyed_elim hfound
  rw [mergeInto_own hentries found, mergeInto_own hothers found, mergeInto, mergeInto]
  have hkeyed {first second : Entries} (h₁ : (Value.map first).isKeyed = true)
      (h₂ : (Value.map second).isKeyed = true) {target : Entries}
      (ht : (Value.map target).isKeyed = true) :
      (mergeEntries (mergeEntries target first) second).haveOwnKeys = true := by
    have hfirst := isKeyed_mergeEntries ht first ((isKeyed_map first).mp h₁)
    have hsecond := isKeyed_mergeEntries hfirst second ((isKeyed_map second).mp h₂)
    exact ((isKeyed_map _).mp hsecond).1
  generalize found.elim [] ownEntries = target at htarget ⊢
  refine .map (hkeyed hsource hother htarget) (hkeyed hother hsource htarget) (fun k => ?_)
    fun k v w hv hw => ?_
  · rcases get?_mergeEntries_twice hentries hothers target k with heq | ⟨v, w, -, -, hv, hw⟩
    · rw [heq]
    · rw [hv, hw]
      rfl
  · rcases get?_mergeEntries_twice hentries hothers target k with heq | ⟨x, y, hx, hy, hxy, hyx⟩
    · rw [hv, hw] at heq
      exact Option.some.inj heq ▸ .same v
    · rw [hv] at hxy
      rw [hw] at hyx
      obtain rfl := Option.some.inj hxy
      obtain rfl := Option.some.inj hyx
      have hsize : sizeOf x < sizeOf (Value.map entries) := sizeOf_lt_of_get? hx
      exact reordered_mergeInto (compatible_map.mp h k x y hx hy) (isKeyed_of_get? hsource hx)
        (isKeyed_of_get? hother hy) fun u hu => isKeyed_of_get? htarget hu
termination_by sizeOf source

/-! ## The laws -/

theorem merge_map (target source : Entries) :
    merge (.map target) (.map source) = .ok (.map (mergeEntries target source)) := by
  cases source with
  | nil => rfl
  | cons entry rest => rfl

/-- What a merge of two trees is: merging the source again changes nothing; where both sides have a
mapping, no key of the target is lost; what the source has beside mappings is read afterwards; of what
the source says nothing is read what was there; and with a compatible source the order of the two
matters for the order of keys only. -/
theorem merge_laws {target source : Entries} (htarget : (Value.map target).isKeyed = true)
    (hsource : (Value.map source).isKeyed = true) :
    ∃ merged, merge (.map target) (.map source) = .ok merged ∧
      merge merged (.map source) = .ok merged ∧
      (∀ path entries others, (Value.map target).at? path = some (.map entries) →
        (Value.map source).at? path = some (.map others) →
          ∃ more, merged.at? path = some (.map more) ∧
            Entries.keys entries <+: Entries.keys more) ∧
      (∀ path v, (Value.map source).at? path = some v → (∀ entries, v ≠ .map entries) →
        merged.at? path = some v) ∧
      (∀ path, (Value.map source).IsSilentOn path →
        merged.at? path = (Value.map target).at? path) ∧
      ∀ other : Entries, (Value.map other).isKeyed = true →
        Compatible (.map source) (.map other) →
          ∃ merged' both both', merge (.map target) (.map other) = .ok merged' ∧
            merge merged (.map other) = .ok both ∧ merge merged' (.map source) = .ok both' ∧
              Reordered both both' := by
  have hmerge (target source : Entries) :
      mergeInto (some (.map target)) (.map source) = .map (mergeEntries target source) := by
    rw [mergeInto]
  obtain ⟨hown, hvalues⟩ := (isKeyed_map source).mp hsource
  have hself := (Entries.haveOwnKeys_iff.mp hown).1
  refine ⟨.map (mergeEntries target source), merge_map target source, ?_, ?_, ?_, ?_, ?_⟩
  · rw [merge_map, mergeEntries_mergeEntries fun entry hentry =>
      ⟨hself entry.1 (List.mem_map_of_mem hentry), hvalues entry hentry⟩]
  · intro path entries others hentries hothers
    have hkeeps := keepsKeys_mergeInto (replaces_eq_false_of_at? hsource hothers)
      (some (.map target))
    rw [hmerge] at hkeeps
    exact hkeeps entries hentries
  · intro path v hv hnot
    rw [← hmerge]
    exact at?_mergeInto_of_not_map hsource hv hnot _
  · intro path hsilent
    rw [← hmerge, at?_mergeInto_of_untouched (touches_eq_false_of_isSilentOn hsource hsilent)]
    rfl
  · intro other hother hcompatible
    refine ⟨_, _, _, merge_map target other, merge_map _ other, merge_map _ source, ?_⟩
    have hfound (w : Value) (hw : some (Value.map target) = some w) : w.isKeyed = true :=
      Option.some.inj hw ▸ htarget
    have hreordered := reordered_mergeInto hcompatible hsource hother hfound
    rwa [hmerge, hmerge, hmerge, hmerge] at hreordered

/-- An empty mapping and one with an entry are compatible; the first of them replaces the atom that
stands in their place. -/
theorem merge_laws_empty_mapping :
    let target : Entries := [(.str "a", .list [.int 1]), (.str "b", .int 5)]
    let source : Entries := [(.str "b", .map [])]
    let other : Entries := [(.str "b", .single "z" (.int 1))]
    (Value.map target).isKeyed = true ∧ (Value.map source).isKeyed = true ∧
      (Value.map other).isKeyed = true ∧ Compatible (.map source) (.map other) ∧
      ∃ both both', Reordered both both' ∧
        both = .map [(.str "a", .list [.int 1]), (.str "b", .single "z" (.int 1))] := by
  intro target source other
  have htarget : (Value.map target).isKeyed = true := by decide +kernel
  have hsource : (Value.map source).isKeyed = true := by decide +kernel
  have hother : (Value.map other).isKeyed = true := by decide +kernel
  have hcompatible : Compatible (.map source) (.map other) := by
    refine compatible_map.mpr fun k v w hv hw => ?_
    rw [Entries.get?_cons] at hv hw
    split at hv
    · rename_i hk
      rw [if_pos hk] at hw
      obtain rfl := Option.some.inj hv
      obtain rfl := Option.some.inj hw
      exact compatible_map.mpr fun k v w hv _ => by cases hv
    · cases hv
  obtain ⟨merged, hmerged, -, -, -, -, hcommute⟩ := merge_laws htarget hsource
  obtain ⟨merged', both, both', -, hboth, -, hreordered⟩ := hcommute other hother hcompatible
  refine ⟨htarget, hsource, hother, hcompatible, both, both', hreordered, ?_⟩
  rw [merge_map] at hmerged
  obtain rfl := Except.ok.inj hmerged
  rw [merge_map] at hboth
  obtain rfl := Except.ok.inj hboth
  decide +kernel

end Value

end FlowTemplate
