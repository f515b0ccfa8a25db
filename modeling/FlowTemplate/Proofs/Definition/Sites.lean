import FlowTemplate.Proofs.Definition.Build
import FlowTemplate.Proofs.Document.Position
import FlowTemplate.Proofs.Placeholder.Source
import Mathlib.Data.List.Lex
/-!
# The places of the outermost intrinsics

Extraction visits the places of a tree in their order and goes into no intrinsic. So there is one
list of places, in order, at which it replaces what stands there by a placeholder and draws a name
for it; everywhere else the tree is what it was. A counter lasts for the whole list or the run
fails.
-/

namespace FlowTemplate.Intrinsic

open FlowTemplate.Computation

/-- An intrinsic stands at a place, and none around it. -/
structure IsOutermost (v : Value) (position : Position) : Prop where
  intrinsic : ∃ w, v.part? position = some w ∧ isIntrinsic w = true
  uncovered : ∀ above w, above <+: position → above ≠ position → v.part? above = some w →
    isIntrinsic w = false

/-- The same place in the part after. -/
def shifted : Position → Position
  | [] => []
  | i :: position => (i + 1) :: position

mutual

/-- The places of the outermost intrinsics, in the order in which the tree is read. -/
def sites : Value → List Position
  | .list items => sitesOfItems items
  | .map entries => if isIntrinsic (.map entries) then [[]] else sitesOfEntries entries
  | _ => []

def sitesOfItems : List Value → List Position
  | [] => []
  | v :: rest => (sites v).map (0 :: ·) ++ (sitesOfItems rest).map shifted

def sitesOfEntries : List (Atom × Value) → List Position
  | [] => []
  | (_, v) :: rest => (sites v).map (0 :: ·) ++ (sitesOfEntries rest).map shifted

end

/-! ## A container and its parts -/

theorem sitesOfEntries_eq (entries : Entries) :
    sitesOfEntries entries = sitesOfItems (entries.map (·.2)) := by
  induction entries with
  | nil => rfl
  | cons entry rest ih => rw [sitesOfEntries, ih, List.map_cons, sitesOfItems]

theorem outermostEntries_eq (entries : Entries) :
    outermostEntries entries = outermostItems (entries.map (·.2)) := by
  induction entries with
  | nil => rfl
  | cons entry rest ih => rw [outermostEntries, ih, List.map_cons, outermostItems]

theorem map_snd_fillEntries (entries : Entries) (values : List Value) :
    (fillEntries entries values).map (·.2) = fillItems (entries.map (·.2)) values := by
  induction entries generalizing values with
  | nil => rfl
  | cons entry rest ih => rw [fillEntries, List.map_cons, ih, List.map_cons, fillItems]

theorem length_fillItems (items values : List Value) :
    (fillItems items values).length = items.length := by
  induction items generalizing values with
  | nil => rfl
  | cons v rest ih => rw [fillItems, List.length_cons, List.length_cons, ih]

variable {v w : Value} {values : List Value}

theorem sites_of_isIntrinsic (h : isIntrinsic v = true) : sites v = [[]] := by
  cases v with
  | map entries => rw [sites, if_pos h]
  | _ => cases h

theorem outermost_of_isIntrinsic (h : isIntrinsic v = true) : outermost v = [v] := by
  cases v with
  | map entries => rw [outermost, if_pos h]
  | _ => cases h

theorem fill_of_isIntrinsic (h : isIntrinsic v = true) (w : Value) : fill v [w] = w := by
  cases v with
  | map entries => rw [fill, if_pos h, List.headD_cons]
  | _ => cases h

theorem sites_of_parts (h : isIntrinsic v = false) : sites v = sitesOfItems v.parts := by
  cases v with
  | map entries => rw [sites, h, if_neg Bool.false_ne_true, sitesOfEntries_eq, Value.parts]
  | _ => rfl

theorem outermost_of_parts (h : isIntrinsic v = false) : outermost v = outermostItems v.parts := by
  cases v with
  | map entries => rw [outermost, h, if_neg Bool.false_ne_true, outermostEntries_eq, Value.parts]
  | _ => rfl

theorem parts_fill (h : isIntrinsic v = false) (values : List Value) :
    (fill v values).parts = fillItems v.parts values := by
  cases v with
  | map entries =>
    rw [fill, h, if_neg Bool.false_ne_true, Value.parts, map_snd_fillEntries, Value.parts]
  | list items => rw [fill, Value.parts, Value.parts]
  | _ => rfl

theorem hull_fill (h : isIntrinsic v = false) (values : List Value) :
    (fill v values).hull = v.hull := by
  cases v with
  | map entries =>
    have hhull (pairs : Entries) :
        (Value.map pairs).hull = .map (pairs.keys.map fun k => (k, .null)) := by
      rw [Value.hull, Entries.keys, List.map_map]
      rfl
    rw [fill, h, if_neg Bool.false_ne_true, hhull, hhull, keys_fillEntries]
  | list items => simp only [fill, Value.hull, List.map_const', length_fillItems]
  | _ => rfl

/-- Whether a value is an intrinsic is a matter of its keys. -/
theorem isIntrinsic_hull (v : Value) : isIntrinsic v.hull = isIntrinsic v := by
  cases v with
  | map entries => simp [Value.hull, isIntrinsic, List.any_map, Function.comp_def]
  | _ => rfl

theorem isIntrinsic_fill (h : isIntrinsic v = false) (values : List Value) :
    isIntrinsic (fill v values) = false := by
  rw [← isIntrinsic_hull, hull_fill h, isIntrinsic_hull, h]

/-- Each part is filled with as many values as it has outermost intrinsics. -/
theorem exists_getElem?_fillItems {items : List Value} {i : Nat} {x : Value}
    (hx : items[i]? = some x) (hvalues : values.length = (outermostItems items).length) :
    ∃ here, here.length = (outermost x).length ∧ (fillItems items values)[i]? = some (fill x here) ∧
      ∀ value ∈ here, value ∈ values := by
  induction items generalizing i values with
  | nil => cases hx
  | cons first rest ih =>
    rw [outermostItems, List.length_append] at hvalues
    rw [fillItems]
    cases i with
    | zero =>
      obtain rfl : first = x := Option.some.inj hx
      refine ⟨values.take (outermost first).length, ?_, rfl, fun value => List.mem_of_mem_take⟩
      rw [List.length_take]
      omega
    | succ i =>
      have hrest : (values.drop (outermost first).length).length = (outermostItems rest).length := by
        rw [List.length_drop]
        omega
      obtain ⟨here, hlength, hfilled, hmem⟩ := ih hx hrest
      exact ⟨here, hlength, hfilled, fun value hvalue => List.mem_of_mem_drop (hmem value hvalue)⟩

/-! ## The places are those of the outermost intrinsics -/

theorem mem_sitesOfItems {items : List Value} {position : Position} :
    position ∈ sitesOfItems items ↔
      ∃ i x inner, items[i]? = some x ∧ inner ∈ sites x ∧ position = i :: inner := by
  induction items generalizing position with
  | nil => simp [sitesOfItems]
  | cons first rest ih =>
    rw [sitesOfItems, List.mem_append, List.mem_map, List.mem_map]
    constructor
    · rintro (⟨inner, hinner, rfl⟩ | ⟨later, hlater, rfl⟩)
      · exact ⟨0, first, inner, rfl, hinner, rfl⟩
      · obtain ⟨i, x, inner, hx, hinner, rfl⟩ := ih.mp hlater
        exact ⟨i + 1, x, inner, hx, hinner, rfl⟩
    · rintro ⟨i, x, inner, hx, hinner, rfl⟩
      cases i with
      | zero =>
        obtain rfl : first = x := Option.some.inj hx
        exact .inl ⟨inner, hinner, rfl⟩
      | succ i => exact .inr ⟨i :: inner, ih.mpr ⟨i, x, inner, hx, hinner, rfl⟩, rfl⟩

theorem mem_sites_cons (h : isIntrinsic v = false) {i : Nat} {inner : Position} :
    i :: inner ∈ sites v ↔ ∃ x, v.parts[i]? = some x ∧ inner ∈ sites x := by
  rw [sites_of_parts h, mem_sitesOfItems]
  constructor
  · rintro ⟨j, x, rest, hx, hinner, heq⟩
    obtain ⟨rfl, rfl⟩ := List.cons.inj heq
    exact ⟨x, hx, hinner⟩
  · rintro ⟨x, hx, hinner⟩
    exact ⟨i, x, inner, hx, hinner, rfl⟩

theorem isOutermost_nil_iff : IsOutermost v [] ↔ isIntrinsic v = true := by
  constructor
  · intro h
    obtain ⟨w, hw, hintrinsic⟩ := h.intrinsic
    obtain rfl : v = w := Option.some.inj hw
    exact hintrinsic
  · intro h
    exact ⟨⟨v, rfl, h⟩, fun above w habove hne => absurd (List.prefix_nil.mp habove) hne⟩

theorem isOutermost_cons_iff {i : Nat} {inner : Position} :
    IsOutermost v (i :: inner) ↔
      isIntrinsic v = false ∧ ∃ x, v.parts[i]? = some x ∧ IsOutermost x inner := by
  constructor
  · intro h
    obtain ⟨w, hw, hintrinsic⟩ := h.intrinsic
    obtain ⟨x, hx, hpart⟩ := Value.part?_cons_eq_some_iff.mp hw
    refine ⟨h.uncovered [] v List.nil_prefix (by simp) rfl, x, hx, ⟨w, hpart, hintrinsic⟩, ?_⟩
    intro above u habove hne hu
    exact h.uncovered (i :: above) u (List.cons_prefix_cons.mpr ⟨rfl, habove⟩) (by simpa using hne)
      (Value.part?_cons_eq_some_iff.mpr ⟨x, hx, hu⟩)
  · rintro ⟨hv, x, hx, h⟩
    obtain ⟨w, hw, hintrinsic⟩ := h.intrinsic
    refine ⟨⟨w, Value.part?_cons_eq_some_iff.mpr ⟨x, hx, hw⟩, hintrinsic⟩, ?_⟩
    intro above u habove hne hu
    cases above with
    | nil =>
      obtain rfl : v = u := Option.some.inj hu
      exact hv
    | cons j above =>
      obtain ⟨rfl, hinner⟩ := List.cons_prefix_cons.mp habove
      obtain ⟨y, hy, hpart⟩ := Value.part?_cons_eq_some_iff.mp hu
      obtain rfl : x = y := Option.some.inj (hx.symm.trans hy)
      exact h.uncovered above u hinner (by simpa using hne) hpart

/-- By induction on the place: an intrinsic is the only site in itself, and a site in any other
value is a site in one of its parts. -/
theorem mem_sites_iff {position : Position} : position ∈ sites v ↔ IsOutermost v position := by
  induction position generalizing v with
  | nil =>
    rw [isOutermost_nil_iff]
    by_cases h : isIntrinsic v = true
    · simp [sites_of_isIntrinsic h, h]
    · have hv : isIntrinsic v = false := Bool.eq_false_iff.mpr h
      simp [sites_of_parts hv, mem_sitesOfItems, h]
  | cons i inner ih =>
    rw [isOutermost_cons_iff]
    by_cases h : isIntrinsic v = true
    · simp [sites_of_isIntrinsic h, h]
    · have hv : isIntrinsic v = false := Bool.eq_false_iff.mpr h
      simp only [mem_sites_cons hv, hv, true_and, ih]

theorem pairwise_sitesOfItems {items : List Value}
    (h : ∀ x ∈ items, (sites x).Pairwise (· < ·)) : (sitesOfItems items).Pairwise (· < ·) := by
  induction items with
  | nil => exact List.Pairwise.nil
  | cons first rest ih =>
    obtain ⟨hfirst, hrest⟩ := List.forall_mem_cons.mp h
    rw [sitesOfItems, List.pairwise_append]
    refine ⟨hfirst.map _ fun _ _ => List.cons_lt_cons_self.mpr, ?_, ?_⟩
    · refine List.pairwise_map.mpr ((ih hrest).imp_of_mem fun {p q} hp hq hlt => ?_)
      obtain ⟨i, x, inner, -, -, rfl⟩ := mem_sitesOfItems.mp hp
      obtain ⟨j, y, other, -, -, rfl⟩ := mem_sitesOfItems.mp hq
      refine List.cons_lt_cons_iff.mpr ((List.cons_lt_cons_iff.mp hlt).imp Nat.succ_lt_succ ?_)
      rintro ⟨rfl, hinner⟩
      exact ⟨rfl, hinner⟩
    · intro here hhere there hthere
      obtain ⟨inner, -, rfl⟩ := List.mem_map.mp hhere
      obtain ⟨later, hlater, rfl⟩ := List.mem_map.mp hthere
      obtain ⟨i, x, other, -, -, rfl⟩ := mem_sitesOfItems.mp hlater
      exact List.cons_lt_cons_iff.mpr (.inl (Nat.succ_pos i))

theorem pairwise_sites (v : Value) : (sites v).Pairwise (· < ·) := by
  induction v using Value.parts_induction with
  | h v ih =>
    by_cases h : isIntrinsic v = true
    · rw [sites_of_isIntrinsic h]
      exact List.pairwise_singleton _ _
    · rw [sites_of_parts (Bool.eq_false_iff.mpr h)]
      exact pairwise_sitesOfItems ih

/-! ## What stands at the places -/

theorem part?_of_parts {v w : Value} (h : v.parts = w.parts) {position : Position}
    (hposition : position ≠ []) : v.part? position = w.part? position := by
  cases position with
  | nil => exact absurd rfl hposition
  | cons i inner => rw [Value.part?_cons, Value.part?_cons, h]

/-- What stands at the sites of the parts is found part by part, also when the parts have been
changed. -/
theorem map_part?_sitesOfItems_cons (x y : Value) (rest others : List Value) :
    (sitesOfItems (x :: rest)).map (Value.list (y :: others)).part? =
      (sites x).map y.part? ++ (sitesOfItems rest).map (Value.list others).part? := by
  rw [sitesOfItems, List.map_append, List.map_map, List.map_map]
  congr 1
  refine List.map_congr_left fun position hposition => ?_
  obtain ⟨i, z, inner, -, -, rfl⟩ := mem_sitesOfItems.mp hposition
  rfl

theorem map_part?_fillItems {items : List Value}
    (h : ∀ x ∈ items, ∀ values : List Value, values.length = (outermost x).length →
      (sites x).map (fill x values).part? = values.map some) :
    ∀ values : List Value, values.length = (outermostItems items).length →
      (sitesOfItems items).map (Value.list (fillItems items values)).part? = values.map some := by
  induction items with
  | nil =>
    intro values hvalues
    rw [List.length_eq_zero_iff.mp hvalues]
    rfl
  | cons first rest ih =>
    intro values hvalues
    rw [outermostItems, List.length_append] at hvalues
    obtain ⟨hfirst, hrest⟩ := List.forall_mem_cons.mp h
    have hhere := hfirst (values.take (outermost first).length) (by rw [List.length_take]; omega)
    have hlater := ih hrest (values.drop (outermost first).length)
      (by rw [List.length_drop]; omega)
    rw [fillItems, map_part?_sitesOfItems_cons, hhere, hlater, ← List.map_append,
      List.take_append_drop]

/-- A filled tree has the values at the sites, in their order. -/
theorem map_part?_fill (v : Value) : ∀ values : List Value,
    values.length = (outermost v).length →
      (sites v).map (fill v values).part? = values.map some := by
  induction v using Value.parts_induction with
  | h v ih =>
    intro values hvalues
    by_cases h : isIntrinsic v = true
    · rw [outermost_of_isIntrinsic h] at hvalues
      obtain ⟨w, rfl⟩ := List.length_eq_one_iff.mp hvalues
      rw [sites_of_isIntrinsic h, fill_of_isIntrinsic h]
      rfl
    · have hv : isIntrinsic v = false := Bool.eq_false_iff.mpr h
      rw [outermost_of_parts hv] at hvalues
      rw [sites_of_parts hv, ← map_part?_fillItems ih values hvalues]
      refine List.map_congr_left fun position hposition => part?_of_parts (parts_fill hv values) ?_
      obtain ⟨i, x, inner, -, -, rfl⟩ := mem_sitesOfItems.mp hposition
      exact List.cons_ne_nil i inner

/-- The outermost intrinsics stand at the sites, in their order. -/
theorem map_part?_sites (v : Value) : (sites v).map v.part? = (outermost v).map some := by
  have hfill := map_part?_fill v (outermost v) rfl
  rwa [fill_outermost] at hfill

theorem length_sites (v : Value) : (sites v).length = (outermost v).length := by
  simpa using congrArg List.length (map_part?_sites v)

/-! ## What stands elsewhere -/

/-- Outside of the sites a filled tree has the same kind of value with the same keys, and a value
with no site in it is the same. -/
theorem part?_fill {position : Position} {u : Value} (hu : v.part? position = some u)
    (houtside : ∀ site ∈ sites v, ¬ site <+: position)
    (hvalues : values.length = (outermost v).length) :
    ∃ w, (fill v values).part? position = some w ∧ w.hull = u.hull ∧
      ((∀ site ∈ sites v, ¬ position <+: site) → w = u) := by
  have hv : isIntrinsic v = false := by
    by_contra h
    rw [Bool.not_eq_false] at h
    exact houtside [] (by simp [sites_of_isIntrinsic h]) List.nil_prefix
  induction position generalizing v values with
  | nil =>
    obtain rfl : v = u := Option.some.inj hu
    refine ⟨_, rfl, hull_fill hv values, fun hnone => ?_⟩
    have hsites : sites v = [] :=
      List.eq_nil_iff_forall_not_mem.mpr fun site hsite => hnone site hsite List.nil_prefix
    have houtermost : outermost v = [] := by
      rw [← List.length_eq_zero_iff, ← length_sites, hsites, List.length_nil]
    rw [houtermost, List.length_nil, List.length_eq_zero_iff] at hvalues
    rw [hvalues, fill_nil v houtermost]
  | cons i inner ih =>
    obtain ⟨x, hx, hinner⟩ := Value.part?_cons_eq_some_iff.mp hu
    rw [outermost_of_parts hv] at hvalues
    obtain ⟨here, hhere, hfilled, -⟩ := exists_getElem?_fillItems hx hvalues
    rw [← parts_fill hv] at hfilled
    have hsite {site : Position} (h : site ∈ sites x) : i :: site ∈ sites v :=
      (mem_sites_cons hv).mpr ⟨x, hx, h⟩
    have houtside' : ∀ site ∈ sites x, ¬ site <+: inner := fun site h hprefix =>
      houtside _ (hsite h) (List.cons_prefix_cons.mpr ⟨rfl, hprefix⟩)
    have hxi : isIntrinsic x = false := by
      by_contra h
      rw [Bool.not_eq_false] at h
      exact houtside' [] (by simp [sites_of_isIntrinsic h]) List.nil_prefix
    obtain ⟨w, hw, hhull, hsame⟩ := ih hinner houtside' hhere hxi
    refine ⟨w, Value.part?_cons_eq_some_iff.mpr ⟨_, hfilled, hw⟩, hhull, fun hnone => hsame ?_⟩
    intro site h hprefix
    exact hnone _ (hsite h) (List.cons_prefix_cons.mpr ⟨rfl, hprefix⟩)

/-- A tree that is filled with values that are no containers has no intrinsic at any place. -/
theorem isIntrinsic_part?_fill {position : Position}
    (hvalues : values.length = (outermost v).length)
    (hleaves : ∀ value ∈ values, isIntrinsic value = false ∧ value.parts = [])
    (hw : (fill v values).part? position = some w) : isIntrinsic w = false := by
  induction position generalizing v values with
  | nil =>
    obtain rfl : fill v values = w := Option.some.inj hw
    by_cases h : isIntrinsic v = true
    · rw [outermost_of_isIntrinsic h] at hvalues
      obtain ⟨leaf, rfl⟩ := List.length_eq_one_iff.mp hvalues
      rw [fill_of_isIntrinsic h]
      exact (hleaves leaf List.mem_cons_self).1
    · exact isIntrinsic_fill (Bool.eq_false_iff.mpr h) values
  | cons i inner ih =>
    obtain ⟨y, hy, hinner⟩ := Value.part?_cons_eq_some_iff.mp hw
    by_cases h : isIntrinsic v = true
    · rw [outermost_of_isIntrinsic h] at hvalues
      obtain ⟨leaf, rfl⟩ := List.length_eq_one_iff.mp hvalues
      rw [fill_of_isIntrinsic h, (hleaves leaf List.mem_cons_self).2] at hy
      cases hy
    · have hv : isIntrinsic v = false := Bool.eq_false_iff.mpr h
      rw [outermost_of_parts hv] at hvalues
      rw [parts_fill hv] at hy
      obtain ⟨x, hx⟩ : ∃ x, v.parts[i]? = some x := by
        obtain ⟨hi, -⟩ := List.getElem?_eq_some_iff.mp hy
        rw [length_fillItems] at hi
        exact ⟨v.parts[i], List.getElem?_eq_getElem hi⟩
      obtain ⟨here, hhere, hfilled, hmem⟩ := exists_getElem?_fillItems hx hvalues
      obtain rfl : fill x here = y := Option.some.inj (hfilled.symm.trans hy)
      exact ih hhere (fun value hvalue => hleaves value (hmem value hvalue)) hinner

/-! ## Extraction -/

/-- What extraction has made of a tree when it drew names for some places in it. -/
structure IsExtracted (v : Value) (places : List Position) (names : List String) (tree : Value)
    (parameters : List Parameter) : Prop where
  drawn : parameters.map (·.1) = names
  /-- Each parameter is the whole of what stood at its place. -/
  values : parameters.map (fun parameter => some parameter.2) = places.map v.part?
  replaced : places.map tree.part? = names.map fun name => some (.str (placeholder name))
  clean : ∀ position w, tree.part? position = some w → isIntrinsic w = false
  /-- Elsewhere the tree is what it was; what has no such place in it is the same as a whole. -/
  kept : ∀ position u, v.part? position = some u → (∀ place ∈ places, ¬ place <+: position) →
    ∃ w, tree.part? position = some w ∧ w.hull = u.hull ∧
      ((∀ place ∈ places, ¬ position <+: place) → w = u)

theorem isExtracted_fill (v : Value) {names : List String}
    (hnames : names.length = (outermost v).length) :
    IsExtracted v (sites v) names (fill v (placeholders names)) (names.zip (outermost v)) := by
  have hvalues : (placeholders names).length = (outermost v).length := by
    rw [placeholders, List.length_map, hnames]
  refine ⟨List.map_fst_zip (by omega), ?_, ?_, ?_, fun position u hu houtside =>
    part?_fill hu houtside hvalues⟩
  · rw [map_part?_sites]
    calc (names.zip (outermost v)).map (fun parameter => some parameter.2)
        = ((names.zip (outermost v)).map Prod.snd).map some := by rw [List.map_map]; rfl
      _ = (outermost v).map some := by rw [List.map_snd_zip (by omega)]
  · rw [map_part?_fill v _ hvalues, placeholders, List.map_map]
    rfl
  · intro position w hw
    refine isIntrinsic_part?_fill hvalues (fun value hvalue => ?_) hw
    obtain ⟨name, -, rfl⟩ := List.mem_map.mp hvalue
    exact ⟨rfl, rfl⟩

/-- There is one list of places for a tree, in the order of the places: those of its outermost
intrinsics. A counter that has a name left for each of them gives them the next ones, one after the
other; any other counter fails. A tree without such places comes back as it is, and no name is
drawn. -/
theorem run_extract_next (v : Value) (c : Counter) :
    ∃ places : List Position, places.Pairwise (· < ·) ∧
      (∀ position, position ∈ places ↔ IsOutermost v position) ∧
      (if places.length ≤ c.capacity - c.issued then
        ∃ tree parameters,
          (extract Counter.next v).run c = (.ok (tree, parameters), c.advanced places.length) ∧
            IsExtracted v places (c.upcoming places.length) tree parameters
      else ∃ e c', (extract Counter.next v).run c = (.error e, c')) ∧
      (places = [] → (extract Counter.next v).run c = (.ok (v, []), c)) := by
  refine ⟨sites v, pairwise_sites v, fun _ => mem_sites_iff, ?_, fun hnone => ?_⟩
  · rw [run_extract, Counter.run_draws_next, length_sites]
    by_cases h : (outermost v).length ≤ c.capacity - c.issued
    · rw [if_pos h, if_pos (by omega)]
      exact ⟨_, _, rfl, isExtracted_fill v (c.length_upcoming _)⟩
    · rw [if_neg h, if_neg (by omega)]
      exact ⟨_, _, rfl⟩
  · have houtermost : outermost v = [] := by
      rw [← List.length_eq_zero_iff, ← length_sites, hnone, List.length_nil]
    rw [run_extract, houtermost]
    simp [draws, run_pure, outcome, placeholders, fill_nil v houtermost, Except.map]

end FlowTemplate.Intrinsic
