import FlowTemplate.Proofs.Json.Reread
import FlowTemplate.Schema.Cache
/-!
# Sorted data

Sorting the entries of every mapping changes neither what is under which key nor which values are
equal. So JSON data have the same kinds, parts and distinct items as the same data sorted, only in
another order.
-/

/-! ## JSON data

What a program holds after it has read JSON text: scalars, lists, and mappings from texts in which
no key stands twice. What is printed of such data in a style in which its texts can be printed writes
the data itself, so different data have different texts.
-/

namespace FlowTemplate

/-- A scalar that JSON text can express without a loss; a text has to be one of some sort. -/
structure Atom.IsJson (P : String → Prop) (a : Atom) : Prop where
  hasJson : a.hasJson = true
  reread : a.reread = a
  texts : ∀ s ∈ a.texts, P s

/-- Data that JSON text can express without a loss, with texts and keys of some sort. -/
inductive Value.IsJson (P : String → Prop) : Value → Prop
  | atom {a : Atom} (h : a.IsJson P) : IsJson P (.atom a)
  | list {items : List Value} (h : ∀ v ∈ items, IsJson P v) : IsJson P (.list items)
  | map {entries : Entries} (hkeys : entries.keys.Nodup)
      (htexts : ∀ entry ∈ entries, ∃ s, entry.1 = .str s ∧ P s)
      (h : ∀ entry ∈ entries, IsJson P entry.2) : IsJson P (.map entries)

namespace Value

variable {P : String → Prop} {v : Value} {items : List Value} {entries : Entries}

theorem IsJson.str {s : String} (h : P s) : (Value.str s).IsJson P :=
  .atom ⟨rfl, rfl, fun _ ht => List.mem_singleton.mp ht ▸ h⟩

theorem IsJson.int (i : Int) : (Value.int i).IsJson P :=
  .atom ⟨rfl, rfl, fun _ ht => absurd ht List.not_mem_nil⟩

theorem IsJson.isTree (h : v.IsJson P) : v.isTree = true := by
  induction h with
  | @atom a h =>
    have hjson := h.hasJson
    cases a <;> first | rfl | cases hjson
  | list _ ih => exact (isTree_list _).mpr ih
  | map hkeys htexts _ ih =>
    refine (isTree_map _).mpr fun entry hentry => ⟨?_, ih entry hentry⟩
    obtain ⟨s, hs, -⟩ := htexts entry hentry
    exact ⟨s, hs⟩

theorem IsJson.of_mem_list (h : (Value.list items).IsJson P) (hv : v ∈ items) : v.IsJson P := by
  cases h with
  | list h => exact h v hv

theorem IsJson.nodup (h : (Value.map entries).IsJson P) : entries.keys.Nodup := by
  cases h with
  | map hkeys htexts h => exact hkeys

theorem IsJson.text_of_mem (h : (Value.map entries).IsJson P) {entry : Atom × Value}
    (hentry : entry ∈ entries) : ∃ s, entry.1 = .str s ∧ P s := by
  cases h with
  | map hkeys htexts h => exact htexts entry hentry

theorem IsJson.of_mem_map (h : (Value.map entries).IsJson P) {entry : Atom × Value}
    (hentry : entry ∈ entries) : entry.2.IsJson P := by
  cases h with
  | map hkeys htexts h => exact h entry hentry

theorem IsJson.key (h : (Value.map entries).IsJson P) {entry : Atom × Value}
    (hentry : entry ∈ entries) : (Value.atom entry.1).IsJson P := by
  obtain ⟨s, hs, hP⟩ := h.text_of_mem hentry
  rw [hs]
  exact .str hP

theorem IsJson.areDistinct (h : (Value.map entries).IsJson P) : entries.areDistinct = true := by
  refine Entries.areDistinct_iff.mpr ⟨fun k hk => ?_, h.nodup⟩
  obtain ⟨entry, hentry, rfl⟩ := List.mem_map.mp hk
  obtain ⟨s, hs, -⟩ := h.text_of_mem hentry
  exact ⟨s, hs⟩

theorem IsJson.object {entries : List (String × Value)} (hkeys : (entries.map Prod.fst).Nodup)
    (h : ∀ entry ∈ entries, P entry.1 ∧ entry.2.IsJson P) : (Value.object entries).IsJson P := by
  refine .map ?_ (List.forall_mem_map.mpr fun entry hentry => ⟨entry.1, rfl, (h entry hentry).1⟩)
    (List.forall_mem_map.mpr fun entry hentry => (h entry hentry).2)
  have hstr : Function.Injective Atom.str := fun _ _ => Atom.str.inj
  have hnodup := hkeys.map hstr
  rw [List.map_map] at hnodup
  rwa [Entries.keys, List.map_map]

end Value

namespace Json

variable {style : Style} {v w : Value}

/-- What is printed of JSON data writes the data. -/
theorem isWritten_isJson (h : v.IsJson (IsPrintable style)) : IsWritten style v v := by
  induction h with
  | atom h =>
    have hwritten := isWritten_atom h.hasJson h.texts
    rwa [h.reread] at hwritten
  | list _ ih => exact isWritten_list (List.forall₂_same.mpr ih)
  | @map entries hkeys htexts h ih =>
    have hmap := isWritten_map (List.forall₂_same.mpr fun entry hentry =>
      isEntryWritten_of_printable (htexts entry hentry) (ih entry hentry))
    rwa [Entries.ofPairs_of_areDistinct (Value.IsJson.map hkeys htexts h).areDistinct] at hmap

theorem parse_render_isJson (h : v.IsJson (IsPrintable style)) :
    parse (String.ofList (render style 0 v)) = .ok v := by
  refine (parse_eq_ok_iff _ v).mpr ⟨[], render style 0 v, [], ?_, blanks_nil, blanks_nil, ?_⟩
  · rw [String.toList_ofList, List.append_nil, List.nil_append]
  · exact isWritten_isJson h 0

/-- Data with one text are the same. -/
theorem eq_of_json? (hv : v.IsJson (IsPrintable style)) (hw : w.IsJson (IsPrintable style))
    (h : v.json? style = w.json? style) : v = w := by
  rw [Value.json?_tree hv.isTree, Value.json?_tree hw.isTree, Option.some.injEq] at h
  have hparse := congrArg parse h
  rw [parse_render_isJson hv, parse_render_isJson hw] at hparse
  exact Except.ok.inj hparse

end Json

open Schema (sorted keyLe)

/-- Entries in the order of their keys, with sorted values. -/
def Entries.sorted (entries : Entries) : Entries :=
  (entries.map fun (k, v) => (k, Schema.sorted v)).mergeSort fun a b => keyLe a.1 b.1

namespace Schema

theorem sortedItems_eq (items : List Value) : sortedItems items = items.map sorted := by
  induction items with
  | nil => rfl
  | cons v rest ih => rw [sortedItems, ih, List.map_cons]

theorem sortedEntries_eq (entries : Entries) :
    sortedEntries entries = entries.map fun (k, v) => (k, sorted v) := by
  induction entries with
  | nil => rfl
  | cons entry rest ih => rw [sortedEntries, ih, List.map_cons]

@[simp] theorem sorted_atom (a : Atom) : sorted (.atom a) = .atom a := rfl

@[simp] theorem sorted_list (items : List Value) :
    sorted (.list items) = .list (items.map sorted) := by
  rw [sorted, sortedItems_eq]

@[simp] theorem sorted_map (entries : Entries) : sorted (.map entries) = .map entries.sorted := by
  rw [sorted, sortedEntries_eq]
  rfl

end Schema

namespace Entries

variable {entries : Entries} {P : String → Prop}

/-- Sorting changes the order of the entries only, and the values in them. -/
theorem sorted_perm (entries : Entries) :
    entries.sorted.Perm (entries.map fun (k, v) => (k, Schema.sorted v)) :=
  List.mergeSort_perm _ _

theorem keys_sorted_perm (entries : Entries) : entries.sorted.keys.Perm entries.keys := by
  have hkeys := (sorted_perm entries).map Prod.fst
  rw [List.map_map] at hkeys
  exact hkeys

theorem length_sorted (entries : Entries) : entries.sorted.length = entries.length := by
  rw [(sorted_perm entries).length_eq, List.length_map]

theorem mem_sorted_iff {entry : Atom × Value} :
    entry ∈ entries.sorted ↔ ∃ other ∈ entries, (other.1, Schema.sorted other.2) = entry := by
  rw [(sorted_perm entries).mem_iff, List.mem_map]

theorem nodup_keys_sorted (h : entries.keys.Nodup) : entries.sorted.keys.Nodup :=
  (keys_sorted_perm entries).nodup_iff.mpr h

/-- Under a key there is the same value as before, sorted. -/
theorem find?_sorted (h : entries.keys.Nodup) (key : String) :
    entries.sorted.find? key = (entries.find? key).map Schema.sorted := by
  cases hfind : entries.find? key with
  | none =>
    rw [Option.map_none, find?_eq_none_iff, (keys_sorted_perm entries).mem_iff]
    exact find?_eq_none_iff.mp hfind
  | some v =>
    rw [Option.map_some]
    exact find?_of_mem (nodup_keys_sorted h) (mem_sorted_iff.mpr ⟨_, mem_of_find? hfind, rfl⟩)

theorem contains_sorted (h : entries.keys.Nodup) (key : String) :
    entries.sorted.contains key = entries.contains key := by
  rw [contains, contains, find?_sorted h, Option.isSome_map]

end Entries

namespace Value

variable {P : String → Prop} {v w : Value}

theorem IsJson.sorted (h : v.IsJson P) : (Schema.sorted v).IsJson P := by
  induction h with
  | atom h => exact .atom h
  | list _ ih =>
    rw [Schema.sorted_list]
    exact .list (List.forall_mem_map.mpr ih)
  | map hkeys htexts _ ih =>
    rw [Schema.sorted_map]
    refine .map (Entries.nodup_keys_sorted hkeys) (fun entry hentry => ?_) fun entry hentry => ?_
    · obtain ⟨other, hother, rfl⟩ := Entries.mem_sorted_iff.mp hentry
      exact htexts other hother
    · obtain ⟨other, hother, rfl⟩ := Entries.mem_sorted_iff.mp hentry
      exact ih other hother

/-! ## Equality -/

theorem sameItems_map {f : Value → Value} {xs ys : List Value}
    (h : ∀ x ∈ xs, ∀ y ∈ ys, (f x).sameMeaning (f y) = x.sameMeaning y) :
    sameItems (xs.map f) (ys.map f) = sameItems xs ys := by
  induction xs generalizing ys with
  | nil => cases ys <;> simp [sameItems]
  | cons x xs ih =>
    cases ys with
    | nil => simp [sameItems]
    | cons y ys =>
      rw [List.map_cons, List.map_cons, sameItems, sameItems,
        h x List.mem_cons_self y List.mem_cons_self,
        ih fun x hx y hy => h x (List.mem_cons_of_mem _ hx) y (List.mem_cons_of_mem _ hy)]

theorem withinEntries_eq_all (entries : List (Atom × Value)) (others : Entries) :
    withinEntries entries others = entries.all fun (k, v) =>
      (others.get? k).any fun w => v.sameMeaning w := by
  induction entries with
  | nil => rfl
  | cons entry rest ih =>
    obtain ⟨k, v⟩ := entry
    rw [withinEntries, List.all_cons, ih]
    dsimp only
    cases others.get? k <;> rfl

/-- Two data are equal exactly if they are equal when they are sorted. -/
theorem sameMeaning_sorted (hv : v.IsJson P) (hw : w.IsJson P) :
    (Schema.sorted v).sameMeaning (Schema.sorted w) = v.sameMeaning w := by
  induction hv generalizing w with
  | @atom a ha =>
    cases hw with
    | atom hb => rfl
    | list h => simp [sameMeaning, bare]
    | map hkeys htexts h => simp [sameMeaning, bare]
  | @list items hitems ih =>
    cases hw with
    | atom hb => simp [sameMeaning, bare]
    | list h =>
      simp only [Schema.sorted_list, sameMeaning, bare]
      exact sameItems_map fun x hx y hy => ih x hx (h y hy)
    | map hkeys htexts h => simp [sameMeaning, bare]
  | @map entries hkeys htexts hentries ih =>
    cases hw with
    | atom hb => simp [sameMeaning, bare]
    | list h => simp [sameMeaning, bare]
    | @map others hkeys' htexts' hothers =>
      simp only [Schema.sorted_map, sameMeaning, bare]
      rw [Entries.length_sorted, Entries.length_sorted, withinEntries_eq_all, withinEntries_eq_all,
        (Entries.sorted_perm entries).all_eq, List.all_map]
      refine congrArg _ (Bool.eq_iff_iff.mpr ?_)
      rw [List.all_eq_true, List.all_eq_true]
      refine forall₂_congr fun entry hentry => Bool.eq_iff_iff.mp ?_
      obtain ⟨s, hs, -⟩ := htexts entry hentry
      obtain ⟨k, x⟩ := entry
      obtain rfl : k = .str s := hs
      change ((Entries.sorted others).find? s).any _ = (Entries.find? others s).any _
      rw [Entries.find?_sorted hkeys', Option.any_map]
      cases hfind : Entries.find? others s with
      | none => rfl
      | some y => exact ih _ hentry (hothers _ (Entries.mem_of_find? hfind))

/-! ## Distinct items -/

theorem numericItems_eq (items : List Value) : numericItems items = items.map numeric := by
  induction items with
  | nil => rfl
  | cons v rest ih => rw [numericItems, ih, List.map_cons]

theorem numericEntries_eq (entries : Entries) :
    numericEntries entries = entries.map fun (k, v) => (k, numeric v) := by
  induction entries with
  | nil => rfl
  | cons entry rest ih => rw [numericEntries, ih, List.map_cons]

theorem numeric_list (items : List Value) : numeric (.list items) = .list (items.map numeric) := by
  rw [numeric, numericItems_eq]

theorem numeric_map (entries : Entries) :
    numeric (.map entries) = .map (entries.map fun (k, v) => (k, numeric v)) := by
  rw [numeric, numericEntries_eq]

theorem IsJson.numeric (h : v.IsJson P) : v.numeric.IsJson P := by
  induction h with
  | @atom a h =>
    cases a with
    | bool b => exact .atom ⟨rfl, rfl, fun _ ht => absurd ht List.not_mem_nil⟩
    | _ => exact .atom h
  | list _ ih =>
    rw [numeric_list]
    exact .list (List.forall_mem_map.mpr ih)
  | @map entries hkeys htexts _ ih =>
    have hsame : Entries.keys (entries.map fun (k, v) => (k, Value.numeric v)) = entries.keys :=
      List.map_map
    rw [numeric_map]
    exact .map (hsame ▸ hkeys) (List.forall_mem_map.mpr htexts) (List.forall_mem_map.mpr ih)

theorem numeric_sorted (h : v.IsJson P) :
    (Schema.sorted v).numeric = Schema.sorted v.numeric := by
  induction h with
  | @atom a h => cases a <;> rfl
  | list _ ih =>
    rw [Schema.sorted_list, numeric_list, numeric_list, Schema.sorted_list, List.map_map,
      List.map_map]
    exact congrArg Value.list (List.map_congr_left ih)
  | @map entries hkeys htexts _ ih =>
    have hsort := List.map_mergeSort (l := entries.map fun (k, v) => (k, Schema.sorted v))
      (f := fun (k, v) => (k, numeric v)) (r := fun a b => keyLe a.1 b.1)
      (s := fun a b => keyLe a.1 b.1) fun _ _ _ _ => rfl
    rw [Schema.sorted_map, numeric_map, numeric_map, Schema.sorted_map, Entries.sorted,
      Entries.sorted, hsort, List.map_map, List.map_map]
    refine congrArg (fun pairs => Value.map (List.mergeSort pairs _)) ?_
    exact List.map_congr_left fun entry hentry => Prod.ext rfl (ih entry hentry)

mutual

theorem before?_sorted : (v w : Value) → v.IsJson P → w.IsJson P →
    before? (Schema.sorted v) (Schema.sorted w) = before? v w
  | .atom a, .atom b, _, _ => rfl
  | .atom a, .list items, _, _ => by cases a <;> simp [before?]
  | .atom a, .map entries, _, _ => by cases a <;> simp [before?]
  | .list items, .atom b, _, _ => by simp [before?]
  | .list items, .map entries, _, _ => by simp [before?]
  | .map entries, w, hv, hw => by cases hw <;> simp [before?]
  | .list xs, .list ys, hv, hw => by
    rw [Schema.sorted_list, Schema.sorted_list, before?, before?]
    exact beforeItems?_sorted xs ys (fun x => hv.of_mem_list) fun y => hw.of_mem_list
  | .list _, .tuple _, _, hw | .list _, .set _, _, hw | .list _, .anchored .., _, hw
  | .list _, .again _, _, hw | .atom _, .tuple _, _, hw | .atom _, .set _, _, hw
  | .atom _, .anchored .., _, hw | .atom _, .again _, _, hw => by cases hw
  | .tuple _, _, hv, _ | .set _, _, hv, _ | .anchored .., _, hv, _ | .again _, _, hv, _ => by
    cases hv

theorem beforeItems?_sorted : (xs ys : List Value) → (∀ x ∈ xs, x.IsJson P) →
    (∀ y ∈ ys, y.IsJson P) →
    beforeItems? (xs.map Schema.sorted) (ys.map Schema.sorted) = beforeItems? xs ys
  | [], ys, _, _ => by cases ys <;> rfl
  | _ :: _, [], _, _ => rfl
  | x :: xs, y :: ys, hxs, hys => by
    obtain ⟨hx, hxs⟩ := List.forall_mem_cons.mp hxs
    obtain ⟨hy, hys⟩ := List.forall_mem_cons.mp hys
    rw [List.map_cons, List.map_cons, beforeItems?, beforeItems?, sameMeaning_sorted hx hy,
      beforeItems?_sorted xs ys hxs hys, before?_sorted x y hx hy]

end

theorem areOrderable_map {f : Value → Value} {items : List Value}
    (h : ∀ v ∈ items, ∀ w ∈ items, before? (f v) (f w) = before? v w) :
    areOrderable (items.map f) = areOrderable items := by
  induction items with
  | nil => rfl
  | cons v rest ih =>
    rw [List.map_cons, areOrderable, areOrderable, List.all_map,
      ih fun x hx y hy => h x (List.mem_cons_of_mem _ hx) y (List.mem_cons_of_mem _ hy)]
    refine congrArg (· && areOrderable rest) (Bool.eq_iff_iff.mpr ?_)
    rw [List.all_eq_true, List.all_eq_true]
    refine forall₂_congr fun w hw => Bool.eq_iff_iff.mp ?_
    exact congrArg Option.isSome (h v List.mem_cons_self w (List.mem_cons_of_mem _ hw))

section Comparison

variable {f : Value → Value}

theorem neighboursDiffer_map : (items : List Value) →
    (∀ v ∈ items, ∀ w ∈ items, (f v).sameMeaning (f w) = v.sameMeaning w) →
    neighboursDiffer (items.map f) = neighboursDiffer items
  | [], _ => rfl
  | [_], _ => rfl
  | v :: w :: rest, h => by
    have hrest := neighboursDiffer_map (w :: rest) fun x hx y hy =>
      h x (List.mem_cons_of_mem _ hx) y (List.mem_cons_of_mem _ hy)
    have hfirst := h v List.mem_cons_self w (List.mem_cons_of_mem _ List.mem_cons_self)
    rw [List.map_cons] at hrest
    rw [List.map_cons, List.map_cons, neighboursDiffer, neighboursDiffer, hfirst, hrest]

theorem allDiffer_map {items : List Value}
    (h : ∀ v ∈ items, ∀ w ∈ items, (f v).sameMeaning (f w) = v.sameMeaning w) :
    allDiffer (items.map f) = allDiffer items := by
  induction items with
  | nil => rfl
  | cons v rest ih =>
    rw [List.map_cons, allDiffer, allDiffer, List.all_map,
      ih fun x hx y hy => h x (List.mem_cons_of_mem _ hx) y (List.mem_cons_of_mem _ hy)]
    refine congrArg (· && allDiffer rest) (Bool.eq_iff_iff.mpr ?_)
    rw [List.all_eq_true, List.all_eq_true]
    refine forall₂_congr fun w hw => Bool.eq_iff_iff.mp ?_
    exact congrArg not (h v List.mem_cons_self w (List.mem_cons_of_mem _ hw))

end Comparison

theorem isTruth_sorted (v : Value) : (Schema.sorted v).isTruth = v.isTruth := by
  cases v <;> simp [isTruth, Schema.sorted]

/-- Whether the items of a list differ does not depend on the order of keys. -/
theorem areDistinct_sorted {items : List Value} (h : ∀ v ∈ items, v.IsJson P) :
    areDistinct (items.map Schema.sorted) = areDistinct items := by
  have hsame : ∀ v ∈ items, ∀ w ∈ items,
      (Schema.sorted v).sameMeaning (Schema.sorted w) = v.sameMeaning w :=
    fun v hv w hw => sameMeaning_sorted (h v hv) (h w hw)
  have hbefore : ∀ v ∈ items, ∀ w ∈ items,
      before? (Schema.sorted v).numeric (Schema.sorted w).numeric =
        before? v.numeric w.numeric := fun v hv w hw => by
    rw [numeric_sorted (h v hv), numeric_sorted (h w hw)]
    exact before?_sorted _ _ (h v hv).numeric (h w hw).numeric
  have hnumeric : areOrderable ((items.map Schema.sorted).map Value.numeric) =
      areOrderable (items.map Value.numeric) := by
    have hmap : (items.map Schema.sorted).map Value.numeric =
        (items.map Value.numeric).map Schema.sorted := by
      rw [List.map_map, List.map_map]
      exact List.map_congr_left fun v hv => numeric_sorted (h v hv)
    rw [hmap]
    refine areOrderable_map (List.forall_mem_map.mpr fun v hv =>
      List.forall_mem_map.mpr fun w hw => ?_)
    exact before?_sorted _ _ (h v hv).numeric (h w hw).numeric
  have htruths : (items.map Schema.sorted).any isTruth = items.any isTruth := by
    rw [List.any_map]
    exact congrArg items.any (funext isTruth_sorted)
  have hsort := List.map_mergeSort (f := Schema.sorted) (l := items)
    (r := fun v w => before? w.numeric v.numeric != some true)
    (s := fun v w => before? w.numeric v.numeric != some true) fun v hv w hw => by
      rw [hbefore w hw v hv]
  rw [areDistinct, areDistinct, hnumeric, htruths, allDiffer_map hsame, ← hsort]
  have hmem {v : Value} (hv : v ∈ items.mergeSort fun v w =>
      before? w.numeric v.numeric != some true) : v ∈ items :=
    (List.mergeSort_perm _ _).mem_iff.mp hv
  rw [neighboursDiffer_map _ fun v hv w hw => hsame v (hmem hv) w (hmem hw)]

end Value

end FlowTemplate
