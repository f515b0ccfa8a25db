import FlowTemplate.Merge
import FlowTemplate.Proofs.Document.Key
import FlowTemplate.Proofs.Document.Plain
import FlowTemplate.Proofs.Document.Tree
/-!
# Merging under a key, once and repeatedly

A source whose keys are distinct texts is merged key by key: what it does not mention stays, and
what stands under one of its keys depends on the two values under that key alone.

What stands under a key of a target after a merge depends on the values that the source holds under
this key, and on nothing else. Values that come one after the other meet what their predecessors
left. When the whole source comes a second time, a value that is no mapping wipes out what it meets,
and mappings meet the entries that they left, so nothing changes, in whatever order mappings and
other values stand under one key. For this the mappings of the source may not hold a key twice.
-/

namespace FlowTemplate

/-! ## What a merge leaves under a key -/

namespace Value

theorem mergeEntries_cons (target : Entries) (key : String) (v : Value) (rest : Entries) :
    mergeEntries target ((.str key, v) :: rest) =
      mergeEntries (target.insert (.str key) (mergeInto (target.find? key) v)) rest := by
  rw [mergeEntries, Entries.find?]

theorem find?_mergeEntries {source : Entries} (hdistinct : source.areDistinct = true)
    (target : Entries) (key : String) :
    (mergeEntries target source).find? key = match source.find? key with
      | some v => some (mergeInto (target.find? key) v)
      | none => target.find? key := by
  induction source generalizing target with
  | nil => rfl
  | cons entry rest ih =>
    obtain ⟨k, v⟩ := entry
    obtain ⟨htexts, hnodup⟩ := Entries.areDistinct_iff.mp hdistinct
    obtain ⟨other, rfl⟩ := htexts k List.mem_cons_self
    obtain ⟨hnew, hnodup⟩ := List.nodup_cons.mp hnodup
    have hrest : Entries.areDistinct rest = true :=
      Entries.areDistinct_iff.mpr ⟨fun k hk => htexts k (List.mem_cons_of_mem _ hk), hnodup⟩
    rw [mergeEntries_cons, ih hrest, Entries.find?_insert, Entries.find?_cons]
    by_cases hkey : other = key
    · subst hkey
      rw [Entries.find?_eq_none_iff.mpr hnew]
      simp
    · rw [if_neg (fun h => hkey (Atom.str.inj h)), if_neg (fun h => hkey h.symm)]

theorem mergeInto_atom (found : Option Value) (a : Atom) : mergeInto found (.atom a) = .atom a := by
  rw [mergeInto.eq_def]
  split
  · rename_i h
    cases h
  · rfl

/-- Entries whose keys are new are merged in at the end. -/
theorem mergeEntries_append {target source : Entries}
    (hdistinct : Entries.areDistinct (target ++ source) = true) :
    mergeEntries target source = target ++ source := by
  induction source generalizing target with
  | nil => rw [mergeEntries, List.append_nil]
  | cons entry rest ih =>
    obtain ⟨k, v⟩ := entry
    obtain ⟨htexts, hnodup⟩ := Entries.areDistinct_iff.mp hdistinct
    obtain ⟨key, rfl⟩ := htexts k (by simp [Entries.keys])
    have hnew : .str key ∉ target.keys := by
      intro hm
      rw [Entries.keys, List.map_append, List.nodup_append] at hnodup
      exact hnodup.2.2 _ hm _ (by simp) rfl
    rw [mergeEntries_cons, Entries.find?_eq_none_iff.mpr hnew, Entries.insert_of_notMem hnew]
    have hrest : mergeEntries (target ++ [(.str key, v)]) rest =
        target ++ [(.str key, v)] ++ rest := ih (by simpa using hdistinct)
    simpa [mergeInto] using hrest

/-- A mapping is merged into the mapping that stands under its key, or into an empty one. -/
theorem exists_mergeInto_map {source : Entries} (hdistinct : source.areDistinct = true)
    (found : Option Value) :
    ∃ target, mergeInto found (.map source) = .map (mergeEntries target source) := by
  rw [mergeInto.eq_def]
  split
  · rename_i target source' heq
    obtain rfl := Value.map.inj heq
    exact ⟨target, rfl⟩
  · exact ⟨[], by rw [mergeEntries_append (by simpa using hdistinct), List.nil_append]⟩

end Value

/-! ## Repeated merges -/

/-- Every key is the same key as itself, and no two are the same. A key that is no number is not the
same key as itself. -/
def Entries.haveOwnKeys (entries : Entries) : Bool :=
  entries.keys.all (fun k => k.sameKey k) &&
    decide (entries.keys.Pairwise fun k l => k.sameKey l = false)

theorem Entries.haveOwnKeys_iff {entries : Entries} : entries.haveOwnKeys = true ↔
    (∀ k ∈ entries.keys, k.sameKey k = true) ∧
      entries.keys.Pairwise fun k l => k.sameKey l = false := by
  rw [haveOwnKeys, Bool.and_eq_true, List.all_eq_true, decide_eq_true_iff]

namespace Value

mutual

/-- Whether no mapping holds a key twice. Lists are not looked into, they are merged as a whole. -/
def isKeyed : Value → Bool
  | .map entries => Entries.haveOwnKeys entries && keyedEntries entries
  | .anchored _ v => isKeyed v
  | _ => true

def keyedEntries : List (Atom × Value) → Bool
  | [] => true
  | (_, v) :: rest => isKeyed v && keyedEntries rest

end

theorem isKeyed_map (entries : Entries) : (Value.map entries).isKeyed = true ↔
    entries.haveOwnKeys = true ∧ ∀ entry ∈ entries, entry.2.isKeyed = true := by
  have hentries (entries : Entries) :
      keyedEntries entries = true ↔ ∀ entry ∈ entries, entry.2.isKeyed = true := by
    induction entries with
    | nil => simp [keyedEntries]
    | cons entry rest ih => simp [keyedEntries, ih]
  rw [isKeyed, Bool.and_eq_true, hentries]

theorem isKeyed_bare : (v : Value) → v.bare.isKeyed = v.isKeyed
  | .anchored _ v => isKeyed_bare v
  | .atom _ | .list _ | .tuple _ | .set _ | .map _ | .again _ => rfl

/-! ## One key at a time -/

/-- A value after others have met it one after the other. -/
def absorb (found : Value) (vs : List Value) : Value :=
  vs.foldl (fun found v => mergeInto (some found) v) found

/-- The values that a source holds under a key of a target. -/
def valuesUnder (k : Atom) (source : Entries) : List Value :=
  (source.filter fun entry => k.sameKey entry.1).map Prod.snd

/-- The entries of a source that leave a key of a target alone. -/
def besides (k : Atom) (source : Entries) : Entries :=
  source.filter fun entry => !k.sameKey entry.1

theorem mem_of_mem_valuesUnder {k : Atom} {source : Entries} {v : Value}
    (h : v ∈ valuesUnder k source) : ∃ l, (l, v) ∈ source := by
  obtain ⟨⟨l, w⟩, hmem, rfl⟩ := List.mem_map.mp h
  exact ⟨l, (List.mem_filter.mp hmem).1⟩

/-- The first entry of a target takes up what the source holds under its key, and the other entries
take up the rest. -/
theorem mergeEntries_entry (k : Atom) (w : Value) (rest source : Entries) :
    mergeEntries ((k, w) :: rest) source =
      (k, absorb w (valuesUnder k source)) :: mergeEntries rest (besides k source) := by
  induction source generalizing w rest with
  | nil => rfl
  | cons entry source ih =>
    obtain ⟨l, v⟩ := entry
    rw [mergeEntries, Entries.get?, Entries.insert]
    by_cases h : k.sameKey l = true
    · have hunder : valuesUnder k ((l, v) :: source) = v :: valuesUnder k source := by
        simp [valuesUnder, h]
      have hbesides : besides k ((l, v) :: source) = besides k source := by
        simp [besides, h]
      rw [if_pos h, if_pos h, ih, hunder, hbesides]
      rfl
    · have hunder : valuesUnder k ((l, v) :: source) = valuesUnder k source := by
        simp [valuesUnder, h]
      have hbesides : besides k ((l, v) :: source) = (l, v) :: besides k source := by
        simp [besides, h]
      rw [if_neg h, if_neg h, ih, hunder, hbesides, mergeEntries]

/-- An entry that is merged into nothing comes first. -/
theorem mergeEntries_nil_cons (k : Atom) (v : Value) (source : Entries) :
    mergeEntries [] ((k, v) :: source) =
      (k, absorb v (valuesUnder k source)) :: mergeEntries [] (besides k source) := by
  rw [mergeEntries, Entries.get?, Entries.insert, mergeInto.eq_2 _ _ (by simp)]
  exact mergeEntries_entry k v [] source

theorem mergeEntries_append_source (target first second : Entries) :
    mergeEntries target (first ++ second) =
      mergeEntries (mergeEntries target first) second := by
  induction first generalizing target with
  | nil => rfl
  | cons entry first ih =>
    obtain ⟨k, v⟩ := entry
    rw [List.cons_append, mergeEntries, mergeEntries, ih]

/-- A source with keys of its own is what it is merged to. -/
theorem mergeEntries_nil {source : Entries} (h : source.haveOwnKeys = true) :
    mergeEntries [] source = source := by
  have hpairwise := (Entries.haveOwnKeys_iff.mp h).2
  clear h
  induction source with
  | nil => rfl
  | cons entry source ih =>
    obtain ⟨k, v⟩ := entry
    obtain ⟨hk, hrest⟩ := List.pairwise_cons.mp hpairwise
    have hdiffers : ∀ entry ∈ source, k.sameKey entry.1 = false :=
      fun entry hentry => hk entry.1 (List.mem_map_of_mem hentry)
    have hunder : valuesUnder k source = [] := by
      rw [valuesUnder, List.filter_eq_nil_iff.mpr fun entry hentry => by simp [hdiffers entry hentry]]
      rfl
    have hbesides : besides k source = source :=
      List.filter_eq_self.mpr fun entry hentry => by simp [hdiffers entry hentry]
    rw [mergeEntries_nil_cons, hunder, hbesides, ih hrest]
    rfl

/-! ## What a merge leaves under a key -/

/-- What stands under a key after a merge: what stood there, after the values of the source under
this key have met it. -/
theorem get?_mergeEntries (target source : Entries) (key : Atom) :
    (mergeEntries target source).get? key =
      (valuesUnder key source).foldl (fun found v => some (mergeInto found v))
        (target.get? key) := by
  induction source generalizing target with
  | nil => rfl
  | cons entry source ih =>
    obtain ⟨k, v⟩ := entry
    rw [mergeEntries, ih, Entries.get?_insert]
    by_cases hk : key.sameKey k = true
    · have hunder : valuesUnder key ((k, v) :: source) = v :: valuesUnder key source := by
        simp [valuesUnder, hk]
      have hsame : k.sameKey key = true := by rw [Atom.sameKey_comm, hk]
      rw [hunder, if_pos hsame, Entries.get?_congr hsame, List.foldl_cons]
    · have hunder : valuesUnder key ((k, v) :: source) = valuesUnder key source := by
        simp [valuesUnder, hk]
      rw [hunder, if_neg (by rwa [Atom.sameKey_comm])]

/-! ## Texts as keys -/

theorem valuesUnder_of_notMem {source : Entries} {key : String} (h : .str key ∉ source.keys) :
    valuesUnder (.str key) source = [] := by
  rw [valuesUnder, List.map_eq_nil_iff, List.filter_eq_nil_iff]
  intro entry hentry hsame
  rw [Atom.sameKey_str, beq_iff_eq] at hsame
  exact h (hsame ▸ List.mem_map_of_mem hentry)

/-- A value whose key comes once in the source and is new to the target stands as it is. -/
theorem find?_mergeEntries_once {before after : Entries} {key : String} {v : Value}
    {target : Entries} (hbefore : .str key ∉ before.keys) (hafter : .str key ∉ after.keys)
    (htarget : target.find? key = none) :
    (mergeEntries target (before ++ (.str key, v) :: after)).find? key = some v := by
  have hunder : valuesUnder (.str key) (before ++ (.str key, v) :: after) = [v] := by
    have happend : valuesUnder (.str key) (before ++ (.str key, v) :: after) =
        valuesUnder (.str key) before ++ v :: valuesUnder (.str key) after := by
      simp [valuesUnder, Atom.sameKey_str]
    rw [happend, valuesUnder_of_notMem hbefore, valuesUnder_of_notMem hafter]
    rfl
  rw [Entries.find?] at htarget ⊢
  rw [get?_mergeEntries, hunder, htarget]
  simp [mergeInto]

theorem keys_insert_of_mem {entries : Entries} {s : String} (h : .str s ∈ entries.keys)
    (v : Value) : (entries.insert (.str s) v).keys = entries.keys := by
  induction entries with
  | nil => cases h
  | cons entry rest ih =>
    obtain ⟨k, w⟩ := entry
    rw [Entries.insert_cons]
    by_cases hk : k = .str s
    · rw [if_pos hk]
      rfl
    · rw [if_neg hk]
      exact congrArg (k :: ·) (ih (List.mem_of_ne_of_mem (Ne.symm hk) h))

/-- The keys of a merge: those of the target, then those that the source adds, in the order in which
they first come. -/
theorem keys_mergeEntries {source : Entries} (h : ∀ k ∈ source.keys, ∃ s, k = .str s)
    (target : Entries) :
    (mergeEntries target source).keys =
      target.keys ++ (source.keys.filter fun k => decide (k ∉ target.keys)).eraseDups := by
  induction source generalizing target with
  | nil => simp [mergeEntries, Entries.keys]
  | cons entry source ih =>
    obtain ⟨k, v⟩ := entry
    obtain ⟨s, rfl⟩ := h k List.mem_cons_self
    have hrest := ih (fun k hk => h k (List.mem_cons_of_mem _ hk))
      (target.insert (.str s) (mergeInto (target.find? s) v))
    have hkeys : Entries.keys ((.str s, v) :: source) = .str s :: Entries.keys source := rfl
    rw [mergeEntries_cons, hrest, hkeys]
    by_cases hs : .str s ∈ target.keys
    · rw [keys_insert_of_mem hs, List.filter_cons_of_neg (by simpa using hs)]
    · have hinsert : (target.insert (.str s) (mergeInto (target.find? s) v)).keys =
          target.keys ++ [.str s] := by
        rw [Entries.insert_of_notMem hs, Entries.keys, List.map_append]
        rfl
      rw [hinsert, List.filter_cons_of_pos (by simpa using hs), List.eraseDups_cons,
        List.filter_filter, List.append_assoc, List.singleton_append]
      congr 3
      refine List.filter_congr fun k _ => ?_
      simp [and_comm, Bool.beq_eq_decide_eq]

/-! ## Values that meet one after the other -/

theorem mergeInto_of_not_map {v : Value} (h : ∀ entries, v ≠ .map entries) (found : Option Value) :
    mergeInto found v = v := by
  rw [mergeInto.eq_def]
  split
  · exact absurd rfl (h _)
  · rfl

/-- Behind a value that is no mapping, what was there before does not matter. -/
theorem absorb_of_not_map {vs : List Value} {v : Value} (hv : v ∈ vs)
    (h : ∀ entries, v ≠ .map entries) (found found' : Value) :
    absorb found vs = absorb found' vs := by
  induction vs generalizing found found' with
  | nil => cases hv
  | cons u vs ih =>
    rcases List.mem_cons.mp hv with rfl | hv
    · simp only [absorb, List.foldl_cons, mergeInto_of_not_map h]
    · exact ih hv (mergeInto (some found) u) (mergeInto (some found') u)

/-- The entries of a mapping that has no number. -/
def ownEntries : Value → Entries
  | .map entries => entries
  | _ => []

theorem absorb_maps {vs : List Value} (h : ∀ v ∈ vs, ∃ entries, v = .map entries)
    (target : Entries) :
    absorb (.map target) vs = .map (mergeEntries target (vs.flatMap ownEntries)) := by
  induction vs generalizing target with
  | nil => rfl
  | cons v vs ih =>
    obtain ⟨⟨entries, rfl⟩, hrest⟩ := List.forall_mem_cons.mp h
    rw [List.flatMap_cons, mergeEntries_append_source, ← ih hrest]
    simp only [absorb, List.foldl_cons, mergeInto, ownEntries]

theorem mergeInto_map {source : Entries} (h : source.haveOwnKeys = true) (found : Value) :
    mergeInto (some found) (.map source) = .map (mergeEntries found.ownEntries source) := by
  rw [mergeInto.eq_def]
  split
  · rename_i hfound hsource
    obtain rfl := Option.some.inj hfound
    obtain rfl := Value.map.inj hsource
    rfl
  · rename_i hmaps
    have hown : found.ownEntries = [] := by
      cases found with
      | map target => exact absurd rfl (hmaps target source rfl)
      | _ => rfl
    rw [hown, mergeEntries_nil h]

/-- Mappings that meet any value leave a mapping of all their entries. -/
theorem absorb_maps_of_ne_nil {vs : List Value} (hne : vs ≠ [])
    (h : ∀ v ∈ vs, ∃ entries : Entries, v = .map entries ∧ entries.haveOwnKeys = true)
    (found : Value) :
    absorb found vs = .map (mergeEntries found.ownEntries (vs.flatMap ownEntries)) := by
  cases vs with
  | nil => exact absurd rfl hne
  | cons v vs =>
    obtain ⟨⟨entries, rfl, hown⟩, hrest⟩ := List.forall_mem_cons.mp h
    have hmaps : ∀ v ∈ vs, ∃ entries, v = .map entries := fun v hv => by
      obtain ⟨entries, hentries, -⟩ := hrest v hv
      exact ⟨entries, hentries⟩
    calc absorb found (.map entries :: vs) = absorb (mergeInto (some found) (.map entries)) vs := rfl
      _ = absorb (.map (mergeEntries found.ownEntries entries)) vs := by rw [mergeInto_map hown]
      _ = .map (mergeEntries (mergeEntries found.ownEntries entries) (vs.flatMap ownEntries)) :=
        absorb_maps hmaps _
      _ = _ := by rw [← mergeEntries_append_source]; rfl

/-! ## The same source again -/

/-- Values from a source that come again under one key change nothing. -/
def AbsorbsAgain (source : Entries) : Prop :=
  ∀ vs : List Value, (∀ v ∈ vs, ∃ k, (k, v) ∈ source) →
    ∀ found, absorb (absorb found vs) vs = absorb found vs

theorem mem_of_mem_besides {k : Atom} {source : Entries} {entry : Atom × Value}
    (h : entry ∈ besides k source) : entry ∈ source :=
  (List.mem_filter.mp h).1

theorem AbsorbsAgain.besides {source : Entries} (h : AbsorbsAgain source) (k : Atom) :
    AbsorbsAgain (besides k source) := by
  intro vs hvs
  refine h vs fun v hv => ?_
  obtain ⟨l, hl⟩ := hvs v hv
  exact ⟨l, mem_of_mem_besides hl⟩

/-- A source that was merged into nothing: its first entry opens a key, the others follow. -/
theorem mergeEntries_nil_again : (source : Entries) →
    (∀ entry ∈ source, entry.1.sameKey entry.1 = true) → AbsorbsAgain source →
    mergeEntries (mergeEntries [] source) source = mergeEntries [] source
  | [], _, _ => rfl
  | (k, v) :: source, hself, hvalues => by
    have hk : k.sameKey k = true := hself (k, v) List.mem_cons_self
    have hunder : valuesUnder k ((k, v) :: source) = v :: valuesUnder k source := by
      simp [valuesUnder, hk]
    have hbesides : besides k ((k, v) :: source) = besides k source := by
      simp [besides, hk]
    have hsmaller := hvalues.besides k
    rw [hbesides] at hsmaller
    have hrest := mergeEntries_nil_again (besides k source)
      (fun entry hentry => hself entry (List.mem_cons_of_mem _ (mem_of_mem_besides hentry)))
      hsmaller
    have hopened : absorb .null (v :: valuesUnder k source) = absorb v (valuesUnder k source) := by
      simp only [absorb, List.foldl_cons]
      rw [mergeInto.eq_2 _ _ (by simp)]
    have hagain := hvalues (v :: valuesUnder k source)
      (fun u hu => by
        rw [← hunder] at hu
        exact mem_of_mem_valuesUnder hu) .null
    rw [hopened] at hagain
    rw [mergeEntries_nil_cons, mergeEntries_entry, hunder, hbesides, hagain, hrest]
termination_by source => source.length
decreasing_by
  have hlength := List.length_filter_le (fun entry => !k.sameKey entry.1) source
  simp only [besides, List.length_cons]
  omega

/-- If values under one key change nothing when they come again, entries do not either. -/
theorem mergeEntries_again {source : Entries}
    (hself : ∀ entry ∈ source, entry.1.sameKey entry.1 = true) (hvalues : AbsorbsAgain source)
    (target : Entries) :
    mergeEntries (mergeEntries target source) source = mergeEntries target source := by
  induction target generalizing source with
  | nil => exact mergeEntries_nil_again source hself hvalues
  | cons entry rest ih =>
    obtain ⟨k, w⟩ := entry
    have hrest : mergeEntries (mergeEntries rest (besides k source)) (besides k source) =
        mergeEntries rest (besides k source) :=
      ih (fun entry hentry => hself entry (mem_of_mem_besides hentry)) (hvalues.besides k)
    have hhead := hvalues (valuesUnder k source) (fun v hv => mem_of_mem_valuesUnder hv) w
    rw [mergeEntries_entry, mergeEntries_entry, hrest, hhead]

/-- Values that come again change nothing. -/
theorem absorb_again (n : Nat) {vs : List Value}
    (h : ∀ v ∈ vs, v.isKeyed = true ∧ sizeOf v < n) (found : Value) :
    absorb (absorb found vs) vs = absorb found vs := by
  induction n generalizing vs found with
  | zero =>
    cases vs with
    | nil => rfl
    | cons v vs => exact absurd (h v List.mem_cons_self).2 (Nat.not_lt_zero _)
  | succ n ih =>
    by_cases hmaps : ∀ v ∈ vs, ∃ entries, v = .map entries
    · by_cases hne : vs = []
      · rw [hne]
        rfl
      · have hown : ∀ v ∈ vs, ∃ entries : Entries, v = .map entries ∧
            entries.haveOwnKeys = true := by
          intro v hv
          obtain ⟨entries, rfl⟩ := hmaps v hv
          exact ⟨entries, rfl, ((isKeyed_map entries).mp (h _ hv).1).1⟩
        have hsource : ∀ entry ∈ vs.flatMap ownEntries, entry.1.sameKey entry.1 = true ∧
            entry.2.isKeyed = true ∧ sizeOf entry.2 < n := by
          intro entry hentry
          obtain ⟨v, hv, hentry⟩ := List.mem_flatMap.mp hentry
          obtain ⟨entries, rfl, hkeys⟩ := hown v hv
          have hself := (Entries.haveOwnKeys_iff.mp hkeys).1
          have hsize : sizeOf entry.2 < sizeOf (Value.map entries) := sizeOf_lt_of_mem hentry
          have hbound := (h _ hv).2
          refine ⟨hself entry.1 (List.mem_map_of_mem hentry), ?_, by omega⟩
          exact ((isKeyed_map entries).mp (h _ hv).1).2 entry hentry
        have hagain := mergeEntries_again (fun entry hentry => (hsource entry hentry).1)
          (fun us hus found => ih (fun u hu => by
            obtain ⟨k, hk⟩ := hus u hu
            exact (hsource (k, u) hk).2) found) found.ownEntries
        have hleft := absorb_maps_of_ne_nil hne hown found
        rw [hleft, absorb_maps hmaps, hagain]
    · obtain ⟨v, hv⟩ := Classical.not_forall.mp hmaps
      obtain ⟨hv, hnot⟩ := Classical.not_imp.mp hv
      exact absorb_of_not_map hv (fun entries hentries => hnot ⟨entries, hentries⟩) _ _

/-- Merging the same source again changes nothing, whatever the target holds. -/
theorem mergeEntries_mergeEntries {source : Entries}
    (h : ∀ entry ∈ source, entry.1.sameKey entry.1 = true ∧ entry.2.isKeyed = true)
    (target : Entries) :
    mergeEntries (mergeEntries target source) source = mergeEntries target source := by
  refine mergeEntries_again (fun entry hentry => (h entry hentry).1) (fun vs hvs found => ?_) target
  refine absorb_again (sizeOf (Value.map source)) (fun v hv => ?_) found
  obtain ⟨k, hk⟩ := hvs v hv
  exact ⟨(h (k, v) hk).2, sizeOf_lt_of_mem hk⟩

end Value

end FlowTemplate
