import FlowTemplate.Proofs.Definition.Build
import FlowTemplate.Proofs.Placeholder.Source
/-!
# Reading back a definition string

The text of a definition is read back as the definition with a placeholder for each outermost
intrinsic, and the parameters turn every placeholder into the resolved intrinsic it stands for. The
names only have to differ from each other and from what the author wrote: a text of the definition
that looks like a placeholder of an issued name would be taken for one.
-/

namespace FlowTemplate

/-- Lines of so many blanks for each level, as a definition is printed. Without a number everything
stands on one line, and a number below zero counts as zero. -/
def Json.Style.indented (indent : Option Int) : Json.Style :=
  { indent := indent.map Int.toNat, asciiOnly := false }

namespace Intrinsic

mutual

/-- The texts of a tree that stand outside of its intrinsics, keys left out. -/
def outerTexts : Value → List String
  | .atom (.str s) => [s]
  | .list items => outerTextsOfItems items
  | .map entries => if isIntrinsic (.map entries) then [] else outerTextsOfEntries entries
  | _ => []

def outerTextsOfItems : List Value → List String
  | [] => []
  | v :: rest => outerTexts v ++ outerTextsOfItems rest

def outerTextsOfEntries : List (Atom × Value) → List String
  | [] => []
  | (_, v) :: rest => outerTexts v ++ outerTextsOfEntries rest

end

mutual

/-- A tree with its outermost intrinsics changed. -/
def mapOutermost (f : Value → Value) : Value → Value
  | .list items => .list (mapOutermostItems f items)
  | .map entries =>
    if isIntrinsic (.map entries) then f (.map entries) else .map (mapOutermostEntries f entries)
  | v => v

def mapOutermostItems (f : Value → Value) : List Value → List Value
  | [] => []
  | v :: rest => mapOutermost f v :: mapOutermostItems f rest

def mapOutermostEntries (f : Value → Value) : List (Atom × Value) → List (Atom × Value)
  | [] => []
  | (k, v) :: rest => (k, mapOutermost f v) :: mapOutermostEntries f rest

end

mutual

/-- A tree in which some texts give way to values. Keys stay. -/
def replaceTexts (f : String → Option Value) : Value → Value
  | .atom (.str s) => (f s).getD (.str s)
  | .list items => .list (replaceTextsInItems f items)
  | .map entries => .map (replaceTextsInEntries f entries)
  | v => v

def replaceTextsInItems (f : String → Option Value) : List Value → List Value
  | [] => []
  | v :: rest => replaceTexts f v :: replaceTextsInItems f rest

def replaceTextsInEntries (f : String → Option Value) : List (Atom × Value) → List (Atom × Value)
  | [] => []
  | (k, v) :: rest => (k, replaceTexts f v) :: replaceTextsInEntries f rest

end

/-- The parameter whose placeholder a text is. -/
def parameterOf? (parameters : Entries) (s : String) : Option Value :=
  parameters.findSome? fun (k, v) => match k with
    | .str name => if s = placeholder name then some v else none
    | _ => none

theorem placeholder_injective {a b : String} (h : placeholder a = placeholder b) : a = b := by
  have hlists := congrArg String.toList h
  exact String.toList_inj.mp (by simpa [placeholder] using hlists)

mutual

/-- Changing the outermost intrinsics is filling in what they change into. -/
theorem fill_map_outermost (f : Value → Value) : (v : Value) →
    fill v ((outermost v).map f) = mapOutermost f v
  | .atom _ | .tuple _ | .set _ | .anchored .. | .again _ => rfl
  | .list items => by rw [outermost, fill, mapOutermost, fillItems_map_outermost f items]
  | .map entries => by
    rw [outermost, fill, mapOutermost]
    by_cases h : isIntrinsic (.map entries) = true
    · simp [h]
    · rw [if_neg h, if_neg h, if_neg h, fillEntries_map_outermost f entries]

theorem fillItems_map_outermost (f : Value → Value) : (items : List Value) →
    fillItems items ((outermostItems items).map f) = mapOutermostItems f items
  | [] => rfl
  | v :: rest => by
    have hv := fill_map_outermost f v
    have hrest := fillItems_map_outermost f rest
    simp [outermostItems, fillItems, mapOutermostItems, hv, hrest]

theorem fillEntries_map_outermost (f : Value → Value) : (entries : List (Atom × Value)) →
    fillEntries entries ((outermostEntries entries).map f) = mapOutermostEntries f entries
  | [] => rfl
  | (k, v) :: rest => by
    have hv := fill_map_outermost f v
    have hrest := fillEntries_map_outermost f rest
    simp [outermostEntries, fillEntries, mapOutermostEntries, hv, hrest]

end

section Replacement

variable {f : String → Option Value}

mutual

/-- Placeholders give way to the values their names lead to, and nothing else does. -/
theorem replaceTexts_fill : (v : Value) → (names : List String) → (values : List Value) →
    names.length = (outermost v).length →
    names.map (fun name => f (placeholder name)) = values.map some →
    (∀ s ∈ outerTexts v, f s = none) → replaceTexts f (fill v (placeholders names)) = fill v values
  | .atom a, names, values, _, _, hf => by
    cases a with
    | str s => simp [fill, replaceTexts, hf s (by simp [outerTexts])]
    | null | bool b | int i | float x | bytes data | time t => rfl
  | .tuple _, _, _, _, _, _ | .set _, _, _, _, _, _ | .anchored .., _, _, _, _, _
  | .again _, _, _, _, _, _ => rfl
  | .list items, names, values, hlength, hnames, hf => by
    rw [fill, fill, replaceTexts,
      replaceTexts_fillItems items names values hlength hnames hf]
  | .map entries, names, values, hlength, hnames, hf => by
    rw [fill, fill]
    rw [outermost] at hlength
    rw [outerTexts] at hf
    by_cases h : isIntrinsic (.map entries) = true
    · rw [if_pos h] at hlength
      obtain ⟨name, rfl⟩ := List.length_eq_one_iff.mp hlength
      cases values with
      | nil => cases hnames
      | cons w rest =>
        have hw : f (placeholder name) = some w := (List.cons.inj hnames).1
        simp [h, placeholders, replaceTexts, hw]
    · rw [if_neg h] at hlength hf ⊢
      rw [if_neg h, replaceTexts, replaceTexts_fillEntries entries names values hlength hnames hf]

theorem replaceTexts_fillItems : (items : List Value) → (names : List String) →
    (values : List Value) → names.length = (outermostItems items).length →
    names.map (fun name => f (placeholder name)) = values.map some →
    (∀ s ∈ outerTextsOfItems items, f s = none) →
    replaceTextsInItems f (fillItems items (placeholders names)) = fillItems items values
  | [], _, _, _, _, _ => rfl
  | v :: rest, names, values, hlength, hnames, hf => by
    rw [outermostItems, List.length_append] at hlength
    have hv := replaceTexts_fill v (names.take (outermost v).length)
      (values.take (outermost v).length) (by simp; omega)
      (by rw [List.map_take, List.map_take, hnames])
      fun s hs => hf s (List.mem_append_left _ hs)
    have hrest := replaceTexts_fillItems rest (names.drop (outermost v).length)
      (values.drop (outermost v).length) (by simp; omega)
      (by rw [List.map_drop, List.map_drop, hnames])
      fun s hs => hf s (List.mem_append_right _ hs)
    rw [placeholders, List.map_take] at hv
    rw [placeholders, List.map_drop] at hrest
    rw [fillItems, fillItems, replaceTextsInItems, placeholders, hv, hrest]

theorem replaceTexts_fillEntries : (entries : List (Atom × Value)) → (names : List String) →
    (values : List Value) → names.length = (outermostEntries entries).length →
    names.map (fun name => f (placeholder name)) = values.map some →
    (∀ s ∈ outerTextsOfEntries entries, f s = none) →
    replaceTextsInEntries f (fillEntries entries (placeholders names)) = fillEntries entries values
  | [], _, _, _, _, _ => rfl
  | (k, v) :: rest, names, values, hlength, hnames, hf => by
    rw [outermostEntries, List.length_append] at hlength
    have hv := replaceTexts_fill v (names.take (outermost v).length)
      (values.take (outermost v).length) (by simp; omega)
      (by rw [List.map_take, List.map_take, hnames])
      fun s hs => hf s (List.mem_append_left _ hs)
    have hrest := replaceTexts_fillEntries rest (names.drop (outermost v).length)
      (values.drop (outermost v).length) (by simp; omega)
      (by rw [List.map_drop, List.map_drop, hnames])
      fun s hs => hf s (List.mem_append_right _ hs)
    rw [placeholders, List.map_take] at hv
    rw [placeholders, List.map_drop] at hrest
    rw [fillEntries, fillEntries, replaceTextsInEntries, placeholders, hv, hrest]

end

end Replacement

/-! ## Looking up parameters -/

theorem parameterOf?_cons (name : String) (v : Value) (rest : Entries) (s : String) :
    parameterOf? ((.str name, v) :: rest) s =
      if s = placeholder name then some v else parameterOf? rest s := by
  simp only [parameterOf?, List.findSome?_cons]
  by_cases h : s = placeholder name <;> simp [h]

/-- Each name that is given to one value only leads to that value. -/
theorem map_parameterOf? {names : List String} {values : List Value} (hnodup : names.Nodup)
    (hlength : names.length = values.length) :
    names.map (fun name =>
      parameterOf? ((names.zip values).map fun (name, v) => (.str name, v)) (placeholder name)) =
      values.map some := by
  induction names generalizing values with
  | nil => cases values with
    | nil => rfl
    | cons v rest => cases hlength
  | cons name names ih =>
    cases values with
    | nil => cases hlength
    | cons v values =>
      obtain ⟨hname, hnodup⟩ := List.nodup_cons.mp hnodup
      have hrest := ih hnodup (Nat.succ.inj hlength)
      rw [List.map_cons, List.map_cons, ← hrest, List.zip_cons_cons, List.map_cons]
      simp only [parameterOf?_cons, if_true, List.cons.injEq, true_and]
      refine List.map_congr_left fun other hother => if_neg fun h => hname ?_
      rwa [← placeholder_injective h]

/-- A text that is the placeholder of no name leads nowhere. -/
theorem parameterOf?_eq_none {names : List String} {values : List Value} {s : String}
    (h : ∀ name ∈ names, s ≠ placeholder name) :
    parameterOf? ((names.zip values).map fun (name, v) => (.str name, v)) s = none := by
  induction names generalizing values with
  | nil => rfl
  | cons name names ih =>
    cases values with
    | nil => rfl
    | cons v values =>
      rw [List.zip_cons_cons, List.map_cons, parameterOf?_cons, if_neg (h name List.mem_cons_self)]
      exact ih fun other hother => h other (List.mem_cons_of_mem name hother)

end Intrinsic

namespace DefinitionString

open Intrinsic

variable {σ ε : Type}

theorem parse_textWith {style : Json.Style} (hstyle : style.asciiOnly = false) {tree : Value}
    (hplain : tree.isPlain = true) (names : List String) :
    Json.parse (textWith style tree names) = .ok (fill tree (placeholders names)) :=
  Json.parse_render hstyle (isPlain_fill tree _ hplain (isPlain_placeholders names))

/-- Reading back the text of a definition and putting its parameters in gives the definition with
its outermost intrinsics resolved; without intrinsics there is a plain text, which is read back as
the definition itself. -/
theorem parse_build (indent : Option Int) (next : Generator σ ε) (s : σ) (resolve : Value → Value)
    {entries : Entries} (hplain : (Value.map entries).isPlain = true) (hfresh : next.IsFresh s)
    (hclash : ∀ names s', next.Issues s names s' →
      ∀ name ∈ names, placeholder name ∉ outerTexts (.map entries)) :
    (outermost (.map entries) = [] →
      ∃ text,
        (build (.indented indent) next resolve (.map entries)).run s = (.ok (.plain text), s) ∧
        Json.parse text = .ok (.map entries)) ∧
    (outermost (.map entries) ≠ [] → ∀ names s', next.Issues s names s' →
      names.length = (outermost (.map entries)).length →
      ∃ text parameters tree,
        (build (.indented indent) next resolve (.map entries)).run s =
          (.ok (.substitution text parameters), s') ∧
        Json.parse text = .ok tree ∧
        replaceTexts (parameterOf? parameters) tree = mapOutermost resolve (.map entries)) := by
  have hrun := run_build (.indented indent) next resolve hplain s
  constructor
  · intro hnone
    have hparse : Json.parse (textWith (.indented indent) (.map entries) []) =
        .ok (fill (.map entries) (placeholders [])) := parse_textWith rfl hplain []
    rw [placeholders, List.map_nil, fill_nil _ hnone] at hparse
    rw [hnone] at hrun
    exact ⟨_, hrun, hparse⟩
  · intro hsome names s' hissues hlength
    have hnodup : names.Nodup := hfresh names s' hissues
    have hne : names ≠ [] := by
      rintro rfl
      exact hsome (List.length_eq_zero_iff.mp hlength.symm)
    have hvalues : parametersWith resolve (.map entries) names =
        (names.zip ((outermost (.map entries)).map resolve)).map
          fun (name, v) => (.str name, v) := by
      rw [parametersWith, List.zip_map_right, List.map_map]
      rfl
    rw [Generator.Issues, hlength] at hissues
    rw [hissues] at hrun
    simp only [drawn, if_neg hne, ofPairs_parametersWith resolve _ hnodup hlength] at hrun
    refine ⟨_, _, _, hrun, parse_textWith rfl hplain names, ?_⟩
    rw [← fill_map_outermost, hvalues]
    refine replaceTexts_fill _ names _ hlength
      (map_parameterOf? hnodup (by rw [List.length_map, hlength])) fun text htext => ?_
    refine parameterOf?_eq_none fun name hname h => ?_
    exact hclash names s' (by rw [Generator.Issues, hlength, hissues]) name hname (h ▸ htext)

/-- A reference beside a text, with counted names. -/
theorem parse_build_reference :
    ∃ text parameters tree,
      (build (.indented (some 2)) Counter.next id
          (.map [(.str "A", .single "Ref" (.str "X")), (.str "B", .str "C")])).run
          (.create 10 Counter.defaultHead) =
        (.ok (.substitution text parameters),
          (Counter.create 10 Counter.defaultHead).advanced 1) ∧
      Json.parse text = .ok tree ∧
      replaceTexts (parameterOf? parameters) tree =
        .map [(.str "A", .single "Ref" (.str "X")), (.str "B", .str "C")] := by
  have hclash (name : String) :
      placeholder name ∉
        outerTexts (.map [(.str "A", .single "Ref" (.str "X")), (.str "B", .str "C")]) := by
    intro hname
    have htext : placeholder name = "C" := by
      simpa [outerTexts, outerTextsOfEntries, isIntrinsic, isMarker] using hname
    have hlists := congrArg String.toList htext
    simp [placeholder] at hlists
  have hissues := Counter.issues_upcoming (c := .create 10 Counter.defaultHead) (n := 1)
    (by decide +kernel)
  exact (parse_build (some 2) Counter.next (.create 10 Counter.defaultHead) id (by decide)
    (Counter.isFresh_next _) fun _ _ _ name _ => hclash name).2 (by decide) _ _ hissues
    (by rw [Counter.length_upcoming]; decide)

end DefinitionString

end FlowTemplate
