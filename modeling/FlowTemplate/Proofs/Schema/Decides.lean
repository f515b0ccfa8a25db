import FlowTemplate.Proofs.Document.Tree
import FlowTemplate.Schema.Check
import Mathlib.Data.List.Forall2
/-!
# What schemas decide

A schema without references decides a property of trees: its report comes to its end, and has no
violation exactly for the trees with the property. Each keyword has one lemma, which says what it
decides in terms of what the schemas in it decide; lists of keywords, schemas and fields go along
with lists of properties.
-/

namespace FlowTemplate.Schema

/-- The report comes to its end and says whether the proposition holds. -/
structure Report.Decides (r : Report) (p : Prop) : Prop where
  fault : r.fault = none
  clean : r.violations = [] ↔ p

namespace Report

variable {r : Report} {p q : Prop}

theorem Decides.congr (h : r.Decides p) (hpq : p ↔ q) : r.Decides q := ⟨h.fault, h.clean.trans hpq⟩

theorem decides_clean (h : p) : clean.Decides p := ⟨rfl, iff_of_true rfl h⟩

theorem decides_fail (h : ¬ p) (message : String) : (fail message).Decides p :=
  ⟨rfl, iff_of_false (List.cons_ne_nil _ _) h⟩

theorem decides_expect (ok : Bool) (v : Value) (message : String) :
    (expect ok v message).Decides (ok = true) := by
  cases ok
  · exact decides_fail (by simp) _
  · exact decides_clean rfl

theorem Decides.andThen (h : r.Decides p) {next : Unit → Report} (hnext : (next ()).Decides q) :
    (r.andThen next).Decides (p ∧ q) := by
  rw [Report.andThen, h.fault]
  refine ⟨hnext.fault, ?_⟩
  rw [List.append_eq_nil_iff, h.clean, hnext.clean]

theorem Decides.under (h : r.Decides p) (step : Step) : (r.under step).Decides p :=
  ⟨h.fault, by rw [Report.under, List.map_eq_nil_iff, h.clean]⟩

theorem decides_ofParts {α : Type} {check : α → Report} {p : α → Prop} {parts : List α}
    (h : ∀ part ∈ parts, (check part).Decides (p part)) :
    (ofParts check parts).Decides (∀ part ∈ parts, p part) := by
  induction parts with
  | nil => exact decides_clean (by simp)
  | cons part rest ih =>
    obtain ⟨hpart, hrest⟩ := List.forall_mem_cons.mp h
    exact (hpart.andThen (ih hrest)).congr List.forall_mem_cons.symm

theorem Decides.isClean (h : r.Decides p) : ∃ b, r.isClean = .ok b ∧ (b = true ↔ p) := by
  refine ⟨r.violations.isEmpty, ?_, by rw [List.isEmpty_iff, h.clean]⟩
  rw [Report.isClean, h.fault]
  cases r.violations <;> rfl

theorem Decides.violations? (h : r.Decides p) : r.violations? = .ok r.violations := by
  rw [Report.violations?, h.fault]

end Report

/-- On trees, the schema accepts exactly what the predicate holds of. -/
def Decides (schema : Schema) (p : Value → Prop) : Prop :=
  ∀ e scope v, v.isTree = true → (check e scope schema v).Decides (p v)

/-- On trees, the keyword has nothing against exactly what the predicate holds of. -/
def KeywordDecides (keyword : Keyword) (p : Value → Prop) : Prop :=
  ∀ e scope covered v, v.isTree = true → (checkKeyword e scope covered keyword v).Decides (p v)

/-- The schema of a field decides the predicate under the same name. -/
def FieldDecides (field : String × Schema) (rule : String × (Value → Prop)) : Prop :=
  field.1 = rule.1 ∧ Decides field.2 rule.2

/-- What is a mapping has entries of which the predicate holds. Nothing is said of other values:
most keywords for mappings let them pass. -/
def OnMapping (q : Entries → Prop) (v : Value) : Prop := ∀ entries, v = .map entries → q entries

theorem onMapping_map (q : Entries → Prop) (entries : Entries) :
    OnMapping q (.map entries) ↔ q entries :=
  ⟨fun h => h entries rfl, fun h _ he => Value.map.inj he ▸ h⟩

theorem onMapping_atom (q : Entries → Prop) (a : Atom) : OnMapping q (.atom a) :=
  fun _ he => by cases he

theorem onMapping_list (q : Entries → Prop) (items : List Value) : OnMapping q (.list items) :=
  fun _ he => by cases he

theorem OnMapping.congr {q q' : Entries → Prop} (h : ∀ entries, q entries ↔ q' entries)
    (v : Value) : OnMapping q v ↔ OnMapping q' v :=
  forall₂_congr fun entries _ => h entries

variable {p q : Value → Prop}

theorem Decides.field {schema : Schema} (h : Decides schema p) (name : String) :
    FieldDecides (name, schema) (name, p) :=
  ⟨rfl, h⟩

theorem Decides.congr {schema : Schema} (h : Decides schema p)
    (hpq : ∀ v, v.isTree = true → (p v ↔ q v)) : Decides schema q :=
  fun e scope v hv => (h e scope v hv).congr (hpq v hv)

theorem report_eq_nil_iff (schema : Schema) (root : String) (v : Value) :
    schema.report root v = [] ↔ schema.violations v = [] := by
  rw [report, lines, List.map_eq_nil_iff, ← List.length_eq_zero_iff, List.length_mergeSort,
    List.length_eq_zero_iff]

theorem accepts_iff {schema : Schema} (h : Decides schema p) {v : Value} (hv : v.isTree = true) :
    schema.violations v = [] ↔ p v :=
  (h .none {} v hv).clean

/-! ## Keywords together -/

theorem decides_keywords {keywords : List Keyword} {ps : List (Value → Prop)}
    (h : List.Forall₂ KeywordDecides keywords ps) (e : Surroundings) (scope : Scope)
    (covered : Unit → Except Fault (List Step)) {v : Value} (hv : v.isTree = true) :
    (checkKeywords e scope covered keywords v).Decides (∀ p ∈ ps, p v) := by
  induction h with
  | nil => rw [checkKeywords]; exact Report.decides_clean (by simp)
  | cons hkeyword _ ih =>
    rw [checkKeywords]
    refine ((hkeyword e scope covered v hv).andThen ih).congr ?_
    simp only [List.mem_cons, forall_eq_or_imp]

/-- A schema of keywords decides all that they decide. -/
theorem decides_all {keywords : List Keyword} {ps : List (Value → Prop)}
    (h : List.Forall₂ KeywordDecides keywords ps) :
    Decides (.all keywords) fun v => ∀ p ∈ ps, p v := by
  intro e scope v hv
  rw [check]
  exact decides_keywords h e scope _ hv

/-! ## Keywords without schemas -/

-- Every lemma from here on opens the check of one keyword.
attribute [local simp] checkKeyword

theorem decides_type (kinds : List Kind) :
    KeywordDecides (.type kinds) fun v => ∃ kind ∈ kinds, kind.holds v = true := by
  intro e scope covered v hv
  rw [checkKeyword]
  exact (Report.decides_expect _ _ _).congr List.any_eq_true

/-- A text means the same as an equal text only. -/
theorem atom_sameMeaning_str (s : String) (a : Atom) :
    (Atom.str s).sameMeaning a = true ↔ a = .str s := by
  cases a with
  | str t =>
    simp only [Atom.sameMeaning, Atom.number?, Bool.or_false, beq_iff_eq]
    exact eq_comm
  | _ => simp [Atom.sameMeaning, Atom.number?]

theorem sameMeaning_str (s : String) (v : Value) :
    (Value.str s).sameMeaning v = true ↔ v.bare = .str s := by
  rw [Value.sameMeaning.eq_def]
  cases v.bare with
  | atom a => simp [atom_sameMeaning_str]
  | _ => simp

theorem decides_enum (texts : List String) :
    KeywordDecides (.enum (texts.map .str)) fun v => ∃ s ∈ texts, v = .str s := by
  intro e scope covered v hv
  rw [checkKeyword]
  refine (Report.decides_expect _ _ _).congr ?_
  simp only [List.any_map, List.any_eq_true, Function.comp, sameMeaning_str,
    Value.bare_of_isTree hv]

theorem decides_const (s : String) : KeywordDecides (.const (.str s)) fun v => v = .str s := by
  intro e scope covered v hv
  have hsame := sameMeaning_str s v
  rw [Value.bare_of_isTree hv] at hsame
  rw [checkKeyword]
  split
  · rename_i h
    exact Report.decides_clean (hsame.mp h)
  · rename_i h
    exact Report.decides_fail (fun e => h (hsame.mpr e)) _

theorem decides_minimum (least : Int) : KeywordDecides (.minimum (.int least)) fun v =>
    ∀ x, numberOf? v = some x → x.lt (.ofInt least) = false := by
  intro e scope covered v hv
  rw [checkKeyword, compare]
  cases hnumber : numberOf? v with
  | none => exact Report.decides_clean fun x hx => by cases hnumber.symm.trans hx
  | some x =>
    refine (Report.decides_expect (!x.lt (.ofInt least)) _ _).congr ?_
    simp [hnumber]

theorem decides_atLeast {v : Value} {size : Option Nat} (n : Nat) (message : String) :
    (atLeast v size n message).Decides (∀ m, size = some m → n ≤ m) := by
  cases size with
  | none => exact Report.decides_clean (by simp)
  | some m =>
    refine (Report.decides_expect _ _ _).congr ?_
    simp

theorem decides_minLength (n : Nat) :
    KeywordDecides (.minLength n) fun v => ∀ s, v = .str s → n ≤ Text.size s := by
  intro e scope covered v hv
  rw [checkKeyword]
  refine (decides_atLeast _ _).congr ?_
  rw [textLength?, text?, Value.bare_of_isTree hv]
  cases v with
  | atom a => cases a <;> simp [Value.str?]
  | _ => simp [Value.str?]

theorem decides_pattern (source : String) (pattern : Pattern) :
    KeywordDecides (.pattern source pattern) fun v =>
      ∀ s, v = .str s → pattern.search (Text.codes s.toList) = true := by
  intro e scope covered v hv
  rw [checkKeyword, checkPattern, text?, Value.bare_of_isTree hv]
  by_cases htext : ∃ s, v = .str s
  · obtain ⟨s, rfl⟩ := htext
    refine (Report.decides_expect _ _ _).congr ⟨fun h t ht => ?_, fun h => h s rfl⟩
    cases ht
    exact h
  · have hnone : v.str? = none := by
      cases v with
      | atom a => cases a with
        | str s => exact absurd ⟨s, rfl⟩ htext
        | _ => rfl
      | _ => rfl
    rw [hnone]
    exact Report.decides_clean fun s hs => absurd ⟨s, hs⟩ htext

theorem decides_minItems (n : Nat) :
    KeywordDecides (.minItems n) fun v => ∀ items, v = .list items → n ≤ items.length := by
  intro e scope covered v hv
  rw [checkKeyword]
  refine (decides_atLeast _ _).congr ?_
  rw [itemCount?, items?, Value.bare_of_isTree hv]
  cases v <;> simp

theorem decides_maxItems (n : Nat) :
    KeywordDecides (.maxItems n) fun v => ∀ items, v = .list items → items.length ≤ n := by
  intro e scope covered v hv
  rw [checkKeyword, itemCount?, items?, Value.bare_of_isTree hv]
  cases v, hv using Value.tree_cases with
  | list items hv => exact (Report.decides_expect _ _ _).congr (by simp)
  | atom a hv => exact Report.decides_clean fun items hitems => by cases hitems
  | map entries hv => exact Report.decides_clean fun items hitems => by cases hitems

theorem decides_minProperties (n : Nat) :
    KeywordDecides (.minProperties n) (OnMapping fun entries => n ≤ entries.length) := by
  intro e scope covered v hv
  rw [checkKeyword]
  refine (decides_atLeast _ _).congr ?_
  rw [entryCount?, Value.entries?, Value.bare_of_isTree hv]
  cases v <;> simp [OnMapping]

theorem lacking_eq_nil {names : List String} {v : Value} (hv : v.isTree = true) :
    lacking names v = [] ↔
      OnMapping (fun entries => ∀ name ∈ names, entries.contains name = true) v := by
  rw [lacking, Value.entries?, Value.bare_of_isTree hv]
  cases v <;> simp [OnMapping, List.filter_eq_nil_iff]

theorem decides_required (names : List String) : KeywordDecides (.required names)
    (OnMapping fun entries => ∀ name ∈ names, entries.contains name = true) := by
  intro e scope covered v hv
  rw [checkKeyword, checkRequired]
  refine ⟨rfl, ?_⟩
  rw [List.map_eq_nil_iff, lacking_eq_nil hv]

/-! ## Keywords with schemas -/

theorem snd_itemParts (v : Value) : (itemParts 0 v).map Prod.snd = (items? v).getD [] := by
  rw [itemParts, List.drop_zero, List.mapIdx_eq_zipIdx_map, List.map_map]
  exact List.zipIdx_map_fst 0 _

theorem map_itemParts (items : List Value) : (itemParts 0 (.list items)).map Prod.snd = items :=
  snd_itemParts (.list items)

/-- Parts that are trees are held against a schema one by one. -/
theorem Decides.inParts {schema : Schema} (h : Decides schema p) (e : Surroundings) (scope : Scope)
    {parts : List (Step × Value)} (hparts : ∀ part ∈ parts, part.2.isTree = true) :
    (Schema.inParts (check e scope schema) parts).Decides (∀ part ∈ parts, p part.2) :=
  Report.decides_ofParts fun part hpart => (h e scope part.2 (hparts part hpart)).under part.1

theorem decides_items {keywords : List Keyword} (h : Decides (.all keywords) p) :
    KeywordDecides (.items 0 (.all keywords)) fun v =>
      ∀ items, v = .list items → ∀ w ∈ items, p w := by
  intro e scope covered v hv
  rw [checkKeyword]
  · cases v, hv using Value.tree_cases with
    | list items hv =>
      have hmap (q : Value → Prop) :
          (∀ part ∈ itemParts 0 (.list items), q part.2) ↔ ∀ w ∈ items, q w := by
        rw [← map_itemParts items, List.forall_mem_map, map_itemParts]
      have hparts := (hmap _).mpr ((Value.isTree_list items).mp hv)
      refine ((h.inParts e scope hparts).congr (hmap p)).congr ?_
      exact ⟨fun hall items' heq => Value.list.inj heq ▸ hall, fun hall => hall items rfl⟩
    | atom a hv => exact Report.decides_clean fun items hitems => by cases hitems
    | map entries hv => exact Report.decides_clean fun items hitems => by cases hitems
  · intro hnever
    cases hnever

theorem fieldPart_map (name : String) (entries : Entries) :
    fieldPart name (.map entries) = match entries.find? name with
      | some w => [(.key (.str name), w)]
      | none => [] := rfl

/-- The fields of a mapping are held against rules one by one. -/
theorem decides_fields {fields : List (String × Schema)} {rules : List (String × (Value → Prop))}
    (h : List.Forall₂ FieldDecides fields rules) (e : Surroundings) (scope : Scope)
    {entries : Entries} (hv : (Value.map entries).isTree = true) :
    (checkFields e scope fields (.map entries)).Decides
      (∀ rule ∈ rules, ∀ w, entries.find? rule.1 = some w → rule.2 w) := by
  induction h with
  | nil => rw [checkFields]; exact Report.decides_clean fun rule hrule => by cases hrule
  | @cons field rule fields rules hfield _ ih =>
    obtain ⟨hname, hschema⟩ := hfield
    have hpart : (inParts (check e scope field.2) (fieldPart field.1 (.map entries))).Decides
        (∀ w, entries.find? rule.1 = some w → rule.2 w) := by
      rw [fieldPart_map, hname]
      cases hfind : entries.find? rule.1 with
      | none => exact Report.decides_clean fun w hw => by cases hw
      | some w =>
        have hw := (hschema e scope w (Value.isTree_of_find? hv hfind)).under (.key (.str rule.1))
        change (Report.andThen _ fun _ => .clean).Decides _
        refine (hw.andThen (Report.decides_clean trivial)).congr ?_
        simp
    rw [checkFields]
    refine (hpart.andThen ih).congr ?_
    simp only [List.mem_cons, forall_eq_or_imp]

theorem decides_properties {fields : List (String × Schema)}
    {rules : List (String × (Value → Prop))} (h : List.Forall₂ FieldDecides fields rules) :
    KeywordDecides (.properties fields) (OnMapping fun entries =>
      ∀ rule ∈ rules, ∀ w, entries.find? rule.1 = some w → rule.2 w) := by
  intro e scope covered v hv
  have hclean (hparts : ∀ name, fieldPart name v = []) (fields : List (String × Schema)) :
      checkFields e scope fields v = .clean := by
    induction fields with
    | nil => rw [checkFields]
    | cons field fields ih =>
      rw [checkFields, hparts]
      exact ih
  rw [checkKeyword]
  cases v, hv using Value.tree_cases with
  | map entries hv =>
    refine (decides_fields h e scope hv).congr ?_
    rw [onMapping_map]
  | atom a hv =>
    rw [hclean fun _ => rfl]
    exact Report.decides_clean (onMapping_atom _ a)
  | list items hv =>
    rw [hclean fun _ => rfl]
    exact Report.decides_clean (onMapping_list _ items)

/-- Where no other keys are allowed, every key is one of the known names. -/
theorem decides_additional_never (known : List String) :
    KeywordDecides (.additional known .never)
      (OnMapping fun entries => ∀ k ∈ entries.keys, ∃ name ∈ known, k = .str name) := by
  intro e scope covered v hv
  have hnone : extras known v = [] ↔
      OnMapping (fun entries => ∀ k ∈ entries.keys, ∃ name ∈ known, k = .str name) v := by
    rw [extras, Value.entries?, Value.bare_of_isTree hv]
    cases v, hv using Value.tree_cases with
    | map entries hv =>
      simp [onMapping_map, Entries.keys, List.filter_eq_nil_iff, isNamed]
    | atom a hv => exact iff_of_true rfl (onMapping_atom _ a)
    | list items hv => exact iff_of_true rfl (onMapping_list _ items)
  rw [checkKeyword]
  split
  · rename_i hextras
    exact Report.decides_clean (hnone.mp hextras)
  · rename_i hextras
    exact Report.decides_fail (fun h => hextras (hnone.mpr h)) _

/-- Where no name is known, the schema is for the values of all keys. -/
theorem decides_additional {keywords : List Keyword} (h : Decides (.all keywords) p) :
    KeywordDecides (.additional [] (.all keywords))
      (OnMapping fun entries => ∀ entry ∈ entries, p entry.2) := by
  intro e scope covered v hv
  rw [checkKeyword]
  · cases v, hv using Value.tree_cases with
    | map entries hv =>
      have hmap (q : Value → Prop) : (∀ part ∈ parts (extras [] (.map entries)), q part.2) ↔
          ∀ entry ∈ entries, q entry.2 := by
        have hextras : extras [] (.map entries) = entries := List.filter_true entries
        rw [hextras, parts, List.forall_mem_map]
      have hparts := (hmap (·.isTree = true)).mpr fun entry hentry =>
        ((Value.isTree_map entries).mp hv entry hentry).2
      refine ((h.inParts e scope hparts).congr (hmap p)).congr ?_
      rw [onMapping_map]
    | atom a hv => exact Report.decides_clean (onMapping_atom _ a)
    | list items hv => exact Report.decides_clean (onMapping_list _ items)
  · intro hnever
    cases hnever

theorem decides_allOf {schemas : List Schema} {ps : List (Value → Prop)}
    (h : List.Forall₂ Decides schemas ps) :
    KeywordDecides (.allOf schemas) fun v => ∀ p ∈ ps, p v := by
  intro e scope covered v hv
  rw [checkKeyword]
  induction h with
  | nil => rw [checkAll]; exact Report.decides_clean fun p hp => by cases hp
  | cons hschema _ ih =>
    rw [checkAll]
    refine ((hschema e scope v hv).andThen ih).congr ?_
    simp only [List.mem_cons, forall_eq_or_imp]

theorem anyAccepts_eq {schemas : List Schema} {ps : List (Value → Prop)}
    (h : List.Forall₂ Decides schemas ps) (e : Surroundings) (scope : Scope) {v : Value}
    (hv : v.isTree = true) :
    ∃ b, anyAccepts e scope schemas v = .ok b ∧ (b = true ↔ ∃ p ∈ ps, p v) := by
  induction h with
  | nil => exact ⟨false, by rw [anyAccepts], by simp⟩
  | cons hschema _ ih =>
    have hdecides := hschema e scope v hv
    rw [anyAccepts, hdecides.violations?]
    cases hviolations : (check e scope _ v).violations with
    | nil => exact ⟨true, rfl, by simp [hdecides.clean.mp hviolations]⟩
    | cons violation rest =>
      obtain ⟨b, haccepts, hb⟩ := ih
      have hnot : ¬ _ := fun hp => List.cons_ne_nil violation rest
        (hviolations.symm.trans (hdecides.clean.mpr hp))
      exact ⟨b, haccepts, by simp [hb, hnot]⟩

theorem decides_anyOf {schemas : List Schema} {ps : List (Value → Prop)}
    (h : List.Forall₂ Decides schemas ps) :
    KeywordDecides (.anyOf schemas) fun v => ∃ p ∈ ps, p v := by
  intro e scope covered v hv
  obtain ⟨b, haccepts, hb⟩ := anyAccepts_eq h e scope hv
  rw [checkKeyword, haccepts]
  cases b with
  | true => exact Report.decides_clean (hb.mp rfl)
  | false => exact Report.decides_fail (fun hp => by cases hb.mpr hp) _

/-- A condition decides that what passes the test passes the other schema too. -/
theorem decides_conditional {test yes : Schema} (htest : Decides test p) (hyes : Decides yes q) :
    KeywordDecides (.conditional test yes .always) fun v => p v → q v := by
  intro e scope covered v hv
  obtain ⟨b, hclean, hb⟩ := (htest e scope v hv).isClean
  rw [checkKeyword, hclean]
  cases b with
  | true =>
    refine (hyes e scope v hv).congr ?_
    simp [hb.mp rfl]
  | false =>
    rw [Report.ofAnswer, if_neg (by decide), check]
    exact Report.decides_clean fun hp => by cases hb.mpr hp

/-- One of some propositions holds, and no other one. -/
def ExactlyOne : List Prop → Prop
  | [] => False
  | p :: rest => (p ∧ ∀ q ∈ rest, ¬ q) ∨ (¬ p ∧ ExactlyOne rest)

theorem exactlyOne_pair (p q : Prop) : ExactlyOne [p, q] ↔ (p ∧ ¬ q) ∨ (¬ p ∧ q) := by
  simp only [ExactlyOne, List.forall_mem_singleton, List.not_mem_nil, false_implies, implies_true,
    and_true, and_false, or_false]

/-- The document of an alternative counts for messages only. -/
def AlternativeDecides (alternative : Value × Schema) (p : Value → Prop) : Prop :=
  Decides alternative.2 p

theorem accepting_eq {alternatives : List (Value × Schema)} {ps : List (Value → Prop)}
    (h : List.Forall₂ AlternativeDecides alternatives ps) (e : Surroundings) (scope : Scope)
    {v : Value} (hv : v.isTree = true) :
    ∃ found, accepting e scope alternatives v = .ok found ∧
      (found.isEmpty = true ↔ ∀ p ∈ ps, ¬ p v) := by
  induction h with
  | nil => exact ⟨[], by rw [accepting], by simp⟩
  | cons hschema _ ih =>
    obtain ⟨b, hclean, hb⟩ := (hschema e scope v hv).isClean
    obtain ⟨found, haccepting, hfound⟩ := ih
    rw [accepting, hclean, haccepting]
    cases b with
    | true => exact ⟨_, rfl, by simp [hb.mp rfl]⟩
    | false =>
      refine ⟨found, rfl, hfound.trans ?_⟩
      simp only [List.mem_cons, forall_eq_or_imp]
      exact (and_iff_right fun hp => Bool.false_ne_true (hb.mpr hp)).symm

theorem decides_oneOf {alternatives : List (Value × Schema)} {ps : List (Value → Prop)}
    (h : List.Forall₂ AlternativeDecides alternatives ps) :
    KeywordDecides (.oneOf alternatives) fun v => ExactlyOne (ps.map fun p => p v) := by
  intro e scope covered v hv
  rw [checkKeyword]
  induction h with
  | nil => rw [checkOne]; exact Report.decides_fail (fun hp => hp) _
  | @cons alternative p rest ps hschema hrest ih =>
    have hdecides := hschema e scope v hv
    rw [checkOne, hdecides.violations?]
    cases hviolations : (check e scope alternative.2 v).violations with
    | nil =>
      have hp : p v := hdecides.clean.mp hviolations
      obtain ⟨found, haccepting, hfound⟩ := accepting_eq hrest e scope hv
      have honly : ExactlyOne ((p :: ps).map fun p => p v) ↔ ∀ p ∈ ps, ¬ p v := by
        simp only [List.map_cons, ExactlyOne, hp, true_and, not_true_eq_false, false_and, or_false,
          List.forall_mem_map]
      rw [haccepting]
      cases hempty : found.isEmpty with
      | true =>
        rw [Report.ofAnswer, severalMatch, hempty]
        exact Report.decides_clean (honly.mpr (hfound.mp hempty))
      | false =>
        rw [Report.ofAnswer, severalMatch, hempty]
        refine Report.decides_fail (fun hone => ?_) _
        rw [hfound.mpr (honly.mp hone)] at hempty
        cases hempty
    | cons violation more =>
      have hnot : ¬ p v := fun hp => List.cons_ne_nil violation more
        (hviolations.symm.trans (hdecides.clean.mpr hp))
      refine ih.congr ?_
      simp [ExactlyOne, hnot]

/-! ## Keywords about one kind of value -/

/-- Keywords about the items of a list, for lists only. -/
theorem decides_array {keywords : List Keyword} {qs : List (List Value → Prop)}
    (h : List.Forall₂ (fun keyword q => KeywordDecides keyword fun v =>
      ∀ items, v = .list items → q items) keywords qs) :
    Decides (.all (.type [.array] :: keywords)) fun v =>
      ∃ items, v = .list items ∧ ∀ q ∈ qs, q items :=
  (decides_all (.cons (decides_type [.array]) (List.forall₂_map_right_iff.mpr h))).congr
    fun v hv => by
      rw [List.forall_mem_cons, List.forall_mem_map]
      cases v, hv using Value.tree_cases with
      | atom a hv => cases a <;> simp [Kind.holds, Value.bare]
      | list items hv => simp [Kind.holds, Value.bare]
      | map entries hv => simp [Kind.holds, Value.bare]

/-- Keywords about the entries of a mapping, for mappings only. -/
theorem decides_object {keywords : List Keyword} {qs : List (Entries → Prop)}
    (h : List.Forall₂ (fun keyword q => KeywordDecides keyword (OnMapping q)) keywords qs) :
    Decides (.all (.type [.object] :: keywords)) fun v =>
      ∃ entries, v = .map entries ∧ ∀ q ∈ qs, q entries :=
  (decides_all (.cons (decides_type [.object]) (List.forall₂_map_right_iff.mpr h))).congr
    fun v hv => by
      rw [List.forall_mem_cons, List.forall_mem_map]
      cases v, hv using Value.tree_cases with
      | atom a hv => cases a <;> simp [Kind.holds, Value.bare]
      | list items hv => simp [Kind.holds, Value.bare]
      | map entries hv => simp [Kind.holds, Value.bare, onMapping_map]

end FlowTemplate.Schema
