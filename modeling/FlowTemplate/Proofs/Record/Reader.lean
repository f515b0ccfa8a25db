import FlowTemplate.Record.Reader
import Mathlib.Data.List.Nodup
/-!
# What is read field by field

Readings side by side succeed when each of them does. A mapping is read with every text once, and a
list or a mapping that is written item by item in a form that is read is read back as it was.
-/

namespace FlowTemplate.Record

variable {α β : Type}

theorem Checked.and_eq_ok {c : Checked α} {d : Checked β} {a : α} {b : β} :
    c.and d = .ok (a, b) ↔ c = .ok a ∧ d = .ok b := by
  cases c <;> cases d <;> simp [Checked.and]

theorem Checked.under_eq_ok {step : String} {c : Checked α} {a : α} :
    c.under step = .ok a ↔ c = .ok a := by
  cases c <;> simp [Checked.under]

theorem Checked.all_eq_ok {cs : List (Checked α)} {as : List α} :
    Checked.all cs = .ok as ↔ cs = as.map .ok := by
  induction cs generalizing as with
  | nil => cases as <;> simp [Checked.all]
  | cons c cs ih =>
    rw [Checked.all]
    cases as with
    | nil => split <;> simp
    | cons a as =>
      rw [List.map_cons, List.cons.injEq, ← ih, ← Checked.and_eq_ok]
      split
      · rename_i h
        rw [h]
        simp
      · rename_i h
        rw [h]
        simp

/-- Where every key can be written and holds a field, the fields are all that is read. -/
theorem Checked.alone_eq {fields : List Field} {entries : Entries} {keys : List Atom}
    (hplain : ∀ k ∈ keys, (Text.plain? (Literal.displayAtom k)).isSome = true)
    (hkeys : entries.keys = keys) (hothers : noOthers fields entries = .ok ()) (c : Checked α) :
    c.alone fields entries = c := by
  have hnone :
      (entries.any fun e => (Text.plain? (Literal.displayAtom e.1)).isNone) = false := by
    rw [List.any_eq_false]
    intro entry hentry
    have h := hplain entry.1 (hkeys ▸ List.mem_map_of_mem hentry)
    simpa using Option.isSome_iff_ne_none.mp h
  rw [Checked.alone, hothers]
  refine (if_neg (Bool.eq_false_iff.mp hnone)).trans ?_
  cases c <;> rfl

/-- Only what was read can come of it, whatever else a mapping holds. -/
theorem Checked.of_alone {fields : List Field} {entries : Entries} {c : Checked α} {a : α}
    (h : c.alone fields entries = .ok a) : c = .ok a := by
  unfold Checked.alone at h
  split at h
  · cases h
  · cases c with
    | error e => cases hothers : noOthers fields entries <;> rw [hothers] at h <;> cases h
    | ok b => cases hothers : noOthers fields entries <;> rw [hothers] at h <;> cases h; rfl

/-- A field without a default is read from some value. -/
theorem Field.exists_of_read {f : Field} {entries : Entries} {value : Value → Checked α} {a : α}
    (h : f.read entries none value = .ok a) : ∃ v, value v = .ok a := by
  unfold Field.read at h
  split at h
  · exact ⟨_, Checked.under_eq_ok.mp h⟩
  · cases h

theorem Checked.map_eq_ok {c : Checked α} {f : α → β} {b : β} (h : c.map f = .ok b) :
    ∃ a, c = .ok a ∧ b = f a := by
  cases c with
  | error e => cases h
  | ok a => exact ⟨a, rfl, (Except.ok.inj h).symm⟩

theorem Checked.map_under_eq_ok {step : String} {c : Checked α} {f : α → β} {b : β}
    (h : (c.under step).map f = .ok b) : ∃ a, c = .ok a ∧ b = f a := by
  obtain ⟨a, ha, hb⟩ := map_eq_ok h
  exact ⟨a, under_eq_ok.mp ha, hb⟩

/-- A list is read back if it is written item by item in a form that is read. -/
theorem listOf_map {item : Value → Checked α} {write : α → Value}
    (h : ∀ a, item (write a) = .ok a) (as : List α) :
    listOf item (.list (as.map write)) = .ok as := by
  change Checked.all ((as.map write).mapIdx fun i v => (item v).under (toString i)) = .ok as
  rw [Checked.all_eq_ok]
  refine List.ext_getElem (by simp) fun i hi hi' => ?_
  rw [List.getElem_mapIdx, List.getElem_map, List.getElem_map, h]
  rfl

/-- A text is no mapping. -/
theorem entries?_of_text {v : Value} {s : String} (h : text v = .ok s) : v.entries? = none := by
  cases v with
  | atom a => rfl
  | _ => cases h

/-- A mapping with text keys is read, whatever its values are. -/
theorem exists_mapping {v : Value} {entries : Entries} (hentries : v.entries? = some entries)
    (hkeys : ∀ k ∈ entries.keys, ∃ s, k = .str s) : ∃ pairs, mapping v = .ok pairs := by
  have hread : ∃ pairs, Checked.all (entries.map fun e => entry .ok e.1 e.2) = .ok pairs := by
    clear hentries
    induction entries with
    | nil => exact ⟨[], rfl⟩
    | cons e rest ih =>
      obtain ⟨k, w⟩ := e
      obtain ⟨s, rfl⟩ := hkeys k List.mem_cons_self
      obtain ⟨pairs, hpairs⟩ := ih fun k hk => hkeys k (List.mem_cons_of_mem _ hk)
      refine ⟨(s, w) :: pairs, ?_⟩
      rw [Checked.all_eq_ok] at hpairs ⊢
      rw [List.map_cons, List.map_cons, hpairs]
      rfl
  obtain ⟨pairs, hpairs⟩ := hread
  refine ⟨withoutRepeats pairs, ?_⟩
  rw [mapping, mappingOf, hentries]
  change Except.map withoutRepeats (Checked.all (entries.map fun e => entry .ok e.1 e.2)) = _
  rw [hpairs]
  rfl

theorem mem_put {s : String} {a : α} {pairs : List (String × α)} {pair : String × α}
    (h : pair ∈ put s a pairs) : pair = (s, a) ∨ pair ∈ pairs := by
  induction pairs with
  | nil => exact .inl (List.mem_singleton.mp h)
  | cons other rest ih =>
    obtain ⟨t, b⟩ := other
    rw [put] at h
    split at h
    · rename_i hst
      obtain rfl := eq_of_beq hst
      exact (List.mem_cons.mp h).imp_right (List.mem_cons_of_mem _)
    · rcases List.mem_cons.mp h with rfl | h
      · exact .inr List.mem_cons_self
      · exact (ih h).imp_right (List.mem_cons_of_mem _)

theorem nodup_put {s : String} {a : α} {pairs : List (String × α)}
    (h : (pairs.map Prod.fst).Nodup) : ((put s a pairs).map Prod.fst).Nodup := by
  induction pairs with
  | nil => exact List.nodup_singleton s
  | cons other rest ih =>
    obtain ⟨t, b⟩ := other
    rw [put]
    split
    · exact h
    · rename_i hst
      obtain ⟨ht, hrest⟩ := List.nodup_cons.mp h
      refine List.nodup_cons.mpr ⟨fun hmem => ?_, ih hrest⟩
      obtain ⟨pair, hpair, htpair⟩ := List.mem_map.mp hmem
      rcases mem_put hpair with rfl | hpair
      · exact hst (beq_iff_eq.mpr htpair)
      · exact ht (List.mem_map.mpr ⟨pair, hpair, htpair⟩)

/-- Repeated texts are put into one place each, and nothing is made up. -/
theorem withoutRepeats_spec (pairs : List (String × α)) :
    ((withoutRepeats pairs).map Prod.fst).Nodup ∧
      ∀ pair ∈ withoutRepeats pairs, pair ∈ pairs := by
  suffices h : ∀ done : List (String × α), (done.map Prod.fst).Nodup →
      ((pairs.foldl (fun done pair => put pair.1 pair.2 done) done).map Prod.fst).Nodup ∧
        ∀ pair ∈ pairs.foldl (fun done pair => put pair.1 pair.2 done) done,
          pair ∈ done ∨ pair ∈ pairs by
    obtain ⟨hnodup, hmem⟩ := h [] List.nodup_nil
    exact ⟨hnodup, fun pair hpair => (hmem pair hpair).resolve_left List.not_mem_nil⟩
  induction pairs with
  | nil => exact fun done hdone => ⟨hdone, fun pair hpair => .inl hpair⟩
  | cons first rest ih =>
    intro done hdone
    obtain ⟨s, a⟩ := first
    obtain ⟨hnodup, hmem⟩ := ih (put s a done) (nodup_put hdone)
    refine ⟨hnodup, fun pair hpair => ?_⟩
    rcases hmem pair hpair with hpair | hpair
    · rcases mem_put hpair with rfl | hpair
      · exact .inr List.mem_cons_self
      · exact .inl hpair
    · exact .inr (List.mem_cons_of_mem _ hpair)

theorem put_of_notMem {s : String} {a : α} {pairs : List (String × α)}
    (h : s ∉ pairs.map Prod.fst) : put s a pairs = pairs ++ [(s, a)] := by
  induction pairs with
  | nil => rfl
  | cons other rest ih =>
    obtain ⟨t, b⟩ := other
    obtain ⟨ht, hrest⟩ := not_or.mp (mt List.mem_cons.mpr h)
    rw [put, if_neg (fun hst => ht (eq_of_beq hst)), ih hrest, List.cons_append]

/-- Where no text is repeated, nothing is put into another place. -/
theorem withoutRepeats_of_nodup {pairs : List (String × α)} (h : (pairs.map Prod.fst).Nodup) :
    withoutRepeats pairs = pairs := by
  suffices happend : ∀ done : List (String × α), ((done ++ pairs).map Prod.fst).Nodup →
      pairs.foldl (fun done pair => put pair.1 pair.2 done) done = done ++ pairs from happend [] h
  clear h
  induction pairs with
  | nil => exact fun done _ => (List.append_nil done).symm
  | cons first rest ih =>
    intro done hdone
    obtain ⟨s, a⟩ := first
    have hs : s ∉ done.map Prod.fst := by
      intro hs
      rw [List.map_append, List.nodup_append] at hdone
      exact hdone.2.2 s hs s List.mem_cons_self rfl
    have hput : put s a done = done ++ [(s, a)] := put_of_notMem hs
    change rest.foldl _ (put s a done) = _
    rw [hput, ih (done ++ [(s, a)]), List.append_cons done (s, a) rest]
    rwa [List.append_cons] at hdone

/-- Whatever a mapping holds, what is read from it has every text once. -/
theorem nodup_mappingOf {value : Value → Checked α} {v : Value} {pairs : List (String × α)}
    (h : mappingOf value v = .ok pairs) : (pairs.map Prod.fst).Nodup := by
  unfold mappingOf at h
  split at h
  · rename_i entries _
    change (Checked.all (entries.map fun e => entry value e.1 e.2)).map withoutRepeats = _ at h
    cases hall : Checked.all (entries.map fun e => entry value e.1 e.2) with
    | error e => rw [hall] at h; cases h
    | ok read =>
      rw [hall] at h
      obtain rfl : withoutRepeats read = pairs := Except.ok.inj h
      exact (withoutRepeats_spec read).1
  · cases h

/-- A mapping with every text once is read back if it is written value by value in a form that is
read. -/
theorem mappingOf_object {value : Value → Checked α} {write : α → Value}
    (hvalue : ∀ a, value (write a) = .ok a) {pairs : List (String × α)}
    (h : (pairs.map Prod.fst).Nodup) :
    mappingOf value (.object (pairs.map fun pair => (pair.1, write pair.2))) = .ok pairs := by
  have hentry (pair : String × α) : entry value (.str pair.1) (write pair.2) = .ok pair := by
    rw [entry, hvalue]
    rfl
  have hall : Checked.all ((pairs.map fun pair => (Atom.str pair.1, write pair.2)).map fun e =>
      entry value e.1 e.2) = .ok pairs := by
    rw [Checked.all_eq_ok, List.map_map]
    exact List.map_congr_left fun pair _ => hentry pair
  have hobject : Value.object (pairs.map fun pair => (pair.1, write pair.2)) =
      .map (pairs.map fun pair => (Atom.str pair.1, write pair.2)) := by
    rw [Value.object, List.map_map]
    rfl
  rw [hobject]
  change (Checked.all ((pairs.map fun pair => (Atom.str pair.1, write pair.2)).map fun e =>
    entry value e.1 e.2)).map withoutRepeats = _
  rw [hall]
  exact congrArg Except.ok (withoutRepeats_of_nodup h)

end FlowTemplate.Record
