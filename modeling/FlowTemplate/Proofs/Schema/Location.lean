import FlowTemplate.Proofs.Schema.Decides
import FlowTemplate.Schema.Library
/-!
# What violations concern

The path of a violation leads through the value to the part that the violation concerns. One keyword
of the oldest dialect writes its own name behind the path. This holds of every schema, however deep
its references lead.
-/

namespace FlowTemplate

namespace Schema

/-- A path leads from a value to a part of it. -/
inductive Leads : Value → List Step → Value → Prop
  | here {v : Value} : Leads v [] v
  | item {v w x : Value} {items : List Value} {i : Nat} {path : List Step}
      (hitems : items? v = some items) (hw : items[i]? = some w) (rest : Leads w path x) :
      Leads v (.index i :: path) x
  | entry {v w x : Value} {entries : Entries} {k : Atom} {path : List Step}
      (hentries : v.entries? = some entries) (hw : (k, w) ∈ entries) (rest : Leads w path x) :
      Leads v (.key k :: path) x

/-- The step in a value to a part of it. -/
def IsPart (v : Value) (part : Step × Value) : Prop := Leads v [part.1] part.2

/-- What stands behind the path to a value that lacks a field, in the oldest dialect. -/
def requiredStep : Step := .key (.str "required")

end Schema

open Schema in
/-- The violation concerns the value or a part of it. -/
def Violation.Concerns (v : Value) (violation : Violation) : Prop :=
  ∃ path w, Leads v path w ∧ (violation.path = path ∨ violation.path = path ++ [requiredStep])

namespace Schema

/-- Every violation of the report concerns the value or a part of it. -/
def Report.Concerns (r : Report) (v : Value) : Prop :=
  ∀ violation ∈ r.violations, violation.Concerns v

namespace Report

variable {r : Report} {v w : Value}

theorem concerns_nil (h : r.violations = []) : r.Concerns v := by
  intro violation hmem
  rw [h] at hmem
  cases hmem

theorem concerns_clean : clean.Concerns v := concerns_nil rfl

theorem concerns_broken (fault : Fault) : (broken fault).Concerns v := concerns_nil rfl

theorem concerns_here (messages : List String) (h : r.violations = messages.map .here) :
    r.Concerns v := by
  intro violation hmem
  rw [h] at hmem
  obtain ⟨message, -, rfl⟩ := List.mem_map.mp hmem
  exact ⟨[], v, .here, .inl rfl⟩

theorem concerns_fail (message : String) : (fail message).Concerns v :=
  concerns_here [message] rfl

theorem concerns_expect (ok : Bool) (message : String) : (expect ok w message).Concerns v := by
  cases ok
  · exact concerns_fail _
  · exact concerns_clean

theorem concerns_ite {p : Prop} [Decidable p] {r s : Report} (hr : r.Concerns v)
    (hs : s.Concerns v) : (if p then r else s).Concerns v := by
  split
  · exact hr
  · exact hs

theorem Concerns.andThen (h : r.Concerns v) {next : Unit → Report}
    (hnext : (next ()).Concerns v) : (r.andThen next).Concerns v := by
  rw [Report.andThen]
  cases r.fault with
  | some fault => exact h
  | none => exact List.forall_mem_append.mpr ⟨h, hnext⟩

theorem Concerns.under {step : Step} (h : r.Concerns w) (hstep : IsPart v (step, w)) :
    (r.under step).Concerns v := by
  intro violation hmem
  obtain ⟨inner, hinner, rfl⟩ := List.mem_map.mp hmem
  obtain ⟨path, x, hleads, hpath⟩ := h inner hinner
  have hcons : Leads v (step :: path) x := by
    cases hstep with
    | item hitems hw rest => cases rest; exact .item hitems hw hleads
    | entry hentries hw rest => cases rest; exact .entry hentries hw hleads
  exact ⟨step :: path, x, hcons, hpath.imp (congrArg (step :: ·)) (congrArg (step :: ·))⟩

/-- What concerns a value without parts concerns the value in whose place it is looked at. -/
theorem Concerns.ofAtom {a : Atom} (h : r.Concerns (.atom a)) : r.Concerns v := by
  intro violation hmem
  obtain ⟨path, w, hleads, hpath⟩ := h violation hmem
  cases hleads with
  | here => exact ⟨[], v, .here, hpath⟩
  | item hitems hw rest => cases hitems
  | entry hentries hw rest => cases hentries

theorem concerns_ofAnswer {α : Type} {answer : Except Fault α} {next : α → Report}
    (h : ∀ a, (next a).Concerns v) : (ofAnswer answer next).Concerns v := by
  cases answer with
  | error fault => exact concerns_broken fault
  | ok a => exact h a

theorem concerns_ofParts {α : Type} {check : α → Report} {parts : List α}
    (h : ∀ part ∈ parts, (check part).Concerns v) : (ofParts check parts).Concerns v := by
  induction parts with
  | nil => exact concerns_clean
  | cons part rest ih =>
    obtain ⟨hpart, hrest⟩ := List.forall_mem_cons.mp h
    exact hpart.andThen (ih hrest)

theorem concerns_inParts {check : Value → Report} (h : ∀ w, (check w).Concerns w)
    {parts : List (Step × Value)} (hparts : ∀ part ∈ parts, IsPart v part) :
    (inParts check parts).Concerns v :=
  concerns_ofParts fun part hpart => (h part.2).under (hparts part hpart)

end Report

/-! ## Parts -/

variable {v : Value} {part : Step × Value}

theorem isPart_of_mem_itemParts {skip : Nat} (h : part ∈ itemParts skip v) : IsPart v part := by
  rw [itemParts] at h
  obtain ⟨i, hi, rfl⟩ := List.mem_mapIdx.mp (List.mem_of_mem_drop h)
  have hw := List.getElem?_eq_getElem hi
  generalize ((items? v).getD [])[i] = w at hw
  cases hitems : items? v with
  | none => rw [hitems] at hw; cases hw
  | some items =>
    rw [hitems] at hw
    exact .item hitems hw .here

theorem isPart_of_mem_fieldPart {name : String} (h : part ∈ fieldPart name v) : IsPart v part := by
  rw [fieldPart] at h
  split at h
  · rename_i w hw
    obtain ⟨entries, hentries, hfind⟩ := Option.bind_eq_some_iff.mp hw
    rw [List.mem_singleton.mp h]
    exact .entry hentries (Entries.mem_of_find? hfind) .here
  · cases h

theorem isPart_of_mem_parts {entries : Entries} (hentries : entries ⊆ v.entries?.getD [])
    (h : part ∈ parts entries) : IsPart v part := by
  obtain ⟨⟨k, w⟩, hentry, rfl⟩ := List.mem_map.mp h
  have hmem := hentries hentry
  cases hv : v.entries? with
  | none => rw [hv] at hmem; cases hmem
  | some all =>
    rw [hv] at hmem
    exact .entry hv hmem .here

theorem extras_subset (known : List String) (v : Value) : extras known v ⊆ v.entries?.getD [] :=
  List.filter_subset_self _

theorem unlikeExtras_subset (known : List String) (p : Option Pattern) (v : Value) :
    unlikeExtras known p v ⊆ v.entries?.getD [] :=
  List.Subset.trans (List.filter_subset_self _) (extras_subset known v)

/-! ## Keywords without schemas -/

theorem concerns_compare (bound : Atom) (ok : Quantity → Quantity → Bool) (message : String) :
    (compare v bound ok message).Concerns v := by
  unfold compare
  split
  · exact Report.concerns_expect _ _
  · exact Report.concerns_clean

theorem concerns_checkMultiple (divisor : Atom) : (checkMultiple v divisor).Concerns v := by
  unfold checkMultiple
  split
  · exact Report.concerns_ite (Report.concerns_ofAnswer fun ok => Report.concerns_expect _ _)
      Report.concerns_clean
  · exact Report.concerns_clean

theorem concerns_atLeast (size : Option Nat) (n : Nat) (message : String) :
    (atLeast v size n message).Concerns v := by
  cases size with
  | none => exact Report.concerns_clean
  | some size => exact Report.concerns_expect _ _

theorem concerns_atMost (size : Option Nat) (n : Nat) (message : String) :
    (atMost v size n message).Concerns v := by
  cases size with
  | none => exact Report.concerns_clean
  | some size => exact Report.concerns_expect _ _

theorem concerns_checkPattern (source : String) (p : Pattern) :
    (checkPattern source p v).Concerns v := by
  unfold checkPattern
  split
  · exact Report.concerns_expect _ _
  · exact Report.concerns_clean

theorem concerns_checkPatternText : (checkPatternText v).Concerns v := by
  unfold checkPatternText
  split
  · split
    · exact Report.concerns_clean
    · exact Report.concerns_fail _
    · exact Report.concerns_broken _
  · exact Report.concerns_clean

theorem concerns_checkRequired (names : List String) : (checkRequired names v).Concerns v :=
  Report.concerns_here _ (List.map_map ..).symm

theorem concerns_checkRequiredFields (names : List String) :
    (checkRequiredFields names v).Concerns v := by
  intro violation hmem
  obtain ⟨inner, hinner, rfl⟩ := List.mem_map.mp hmem
  obtain ⟨name, -, rfl⟩ := List.mem_map.mp hinner
  exact ⟨[], v, .here, .inr rfl⟩

theorem concerns_checkDependent (name : String) (needed : List String) :
    (checkDependent name needed v).Concerns v :=
  Report.concerns_ite (Report.concerns_here _ (List.map_map ..).symm) Report.concerns_clean

theorem concerns_severalMatch (first : Value) (more : List Value) :
    (severalMatch v first more).Concerns v :=
  Report.concerns_ite Report.concerns_clean (Report.concerns_fail _)

theorem concerns_tooFew (least : Atom) (n : Nat) : (checkCount.tooFew least v n).Concerns v :=
  Report.concerns_ite
    (Report.concerns_ite (Report.concerns_fail _) (Report.concerns_fail _)) Report.concerns_clean

theorem concerns_checkCount (least : Atom) (most : Option Atom) (n : Nat) :
    (checkCount least most v n).Concerns v := by
  unfold checkCount
  split
  · exact Report.concerns_ite (Report.concerns_fail _) (concerns_tooFew least n)
  · exact concerns_tooFew least n

theorem concerns_checkAny (accepts : Value → Except Fault Bool) :
    (checkAny accepts v).Concerns v := by
  unfold checkAny
  split
  · exact Report.concerns_clean
  · exact Report.concerns_ofAnswer fun n =>
      Report.concerns_ite (Report.concerns_fail _) Report.concerns_clean

theorem concerns_checkUncoveredItems (covered : List Step) :
    (checkUncoveredItems covered v).Concerns v := by
  unfold checkUncoveredItems
  split
  · exact Report.concerns_clean
  · exact Report.concerns_fail _

theorem concerns_checkUncoveredKeys (schema : Schema) (keys : List Atom) :
    (checkUncoveredKeys schema keys).Concerns v := by
  unfold checkUncoveredKeys
  split
  · exact Report.concerns_clean
  · split
    · exact Report.concerns_fail _
    · exact Report.concerns_fail _

/-! ## Schemas -/

/-- What references lead to reports violations of the value that is held against it. -/
def Surroundings.Concern (e : Surroundings) : Prop :=
  ∀ scope link v, (e.follow scope link v).Concerns v

variable {e : Surroundings}

mutual

theorem concerns_check (he : e.Concern) (scope : Scope) : (schema : Schema) → (v : Value) →
    (check e scope schema v).Concerns v
  | .always, v => by rw [check]; exact Report.concerns_clean
  | .never, v => by rw [check]; exact Report.concerns_fail _
  | .all keywords, v => by rw [check]; exact concerns_checkKeywords he scope _ keywords v
  | .within id schema, v => by rw [check]; exact concerns_check he _ schema v

theorem concerns_checkKeywords (he : e.Concern) (scope : Scope)
    (covered : Unit → Except Fault (List Step)) : (keywords : List Keyword) → (v : Value) →
    (checkKeywords e scope covered keywords v).Concerns v
  | [], v => by rw [checkKeywords]; exact Report.concerns_clean
  | keyword :: rest, v => by
    rw [checkKeywords]
    exact (concerns_checkKeyword he scope covered keyword v).andThen
      (concerns_checkKeywords he scope covered rest v)

theorem concerns_checkKeyword (he : e.Concern) (scope : Scope)
    (covered : Unit → Except Fault (List Step)) : (keyword : Keyword) → (v : Value) →
    (checkKeyword e scope covered keyword v).Concerns v
  | .type kinds, v => by rw [checkKeyword]; exact Report.concerns_expect _ _
  | .typeOrSchema alternatives, v => by
    rw [checkKeyword]
    exact Report.concerns_ofAnswer fun ok => Report.concerns_expect _ _
  | .disallow alternatives, v => by
    rw [checkKeyword]
    exact concerns_checkDisallowed he scope alternatives v
  | .enum values, v => by rw [checkKeyword]; exact Report.concerns_expect _ _
  | .const w, v => by
    rw [checkKeyword]
    exact Report.concerns_ite Report.concerns_clean (Report.concerns_fail _)
  | .minimum bound, v | .maximum bound, v | .exclusiveMinimum bound, v
  | .exclusiveMaximum bound, v => by rw [checkKeyword]; exact concerns_compare _ _ _
  | .multipleOf divisor, v => by rw [checkKeyword]; exact concerns_checkMultiple _
  | .minLength n, v | .minItems n, v | .minProperties n, v => by
    rw [checkKeyword]
    exact concerns_atLeast _ _ _
  | .maxLength n, v | .maxItems n, v | .maxProperties n, v => by
    rw [checkKeyword]
    exact concerns_atMost _ _ _
  | .pattern source p, v => by rw [checkKeyword]; exact concerns_checkPattern _ _
  | .patternText, v => by
    rw [checkKeyword]
    exact Report.concerns_ite concerns_checkPatternText Report.concerns_clean
  | .uniqueItems, v => by
    rw [checkKeyword]
    split
    · exact Report.concerns_expect _ _
    · exact Report.concerns_clean
  | .firstItems schemas, v => by
    rw [checkKeyword]
    exact concerns_checkFirst he scope schemas _ v fun part => isPart_of_mem_itemParts
  | .items skip schema, v | .additionalItems skip schema, v => by
    rw [checkKeyword.eq_def]
    dsimp only
    split
    · split
      · exact Report.concerns_clean
      · exact Report.concerns_fail _
    · exact Report.concerns_inParts (concerns_check he scope schema)
        fun part => isPart_of_mem_itemParts
  | .eachItem schema, v => by
    rw [checkKeyword]
    exact Report.concerns_inParts (concerns_check he scope schema)
      fun part => isPart_of_mem_itemParts
  | .contains least most schema, v => by
    rw [checkKeyword]
    split
    · exact Report.concerns_clean
    · exact Report.concerns_ofAnswer fun n => concerns_checkCount least most n
  | .containsAny schema, v => by rw [checkKeyword]; exact concerns_checkAny _
  | .required names, v => by rw [checkKeyword]; exact concerns_checkRequired names
  | .requiredFields names, v => by rw [checkKeyword]; exact concerns_checkRequiredFields names
  | .dependent name needed, v => by rw [checkKeyword]; exact concerns_checkDependent name needed
  | .dependentSchema name schema, v => by
    rw [checkKeyword]
    exact Report.concerns_ite (concerns_check he scope schema v) Report.concerns_clean
  | .properties fields, v => by rw [checkKeyword]; exact concerns_checkFields he scope fields v
  | .fieldsLike p schema, v => by
    rw [checkKeyword]
    exact Report.concerns_inParts (concerns_check he scope schema)
      fun part => isPart_of_mem_parts (List.filter_subset_self _)
  | .additional known schema, v => by
    rw [checkKeyword.eq_def]
    dsimp only
    split
    · split
      · exact Report.concerns_clean
      · exact Report.concerns_fail _
    · exact Report.concerns_inParts (concerns_check he scope schema)
        fun part => isPart_of_mem_parts (extras_subset known v)
  | .unlike known sources p schema, v => by
    rw [checkKeyword.eq_def]
    dsimp only
    split
    · split
      · exact Report.concerns_clean
      · exact Report.concerns_fail _
    · exact Report.concerns_inParts (concerns_check he scope schema)
        fun part => isPart_of_mem_parts (unlikeExtras_subset known p v)
  | .propertyNames schema, v => by
    rw [checkKeyword]
    exact Report.concerns_ofParts fun key _ => (concerns_check he scope schema (.atom key)).ofAtom
  | .allOf schemas, v => by rw [checkKeyword]; exact concerns_checkAll he scope schemas v
  | .anyOf schemas, v => by
    rw [checkKeyword]
    exact Report.concerns_ofAnswer fun ok =>
      Report.concerns_ite Report.concerns_clean (Report.concerns_fail _)
  | .oneOf schemas, v => by rw [checkKeyword]; exact concerns_checkOne he scope schemas v
  | .negation document schema, v => by
    rw [checkKeyword]
    exact Report.concerns_ofAnswer fun accepted =>
      Report.concerns_ite (Report.concerns_fail _) Report.concerns_clean
  | .conditional test yes no, v => by
    rw [checkKeyword]
    exact Report.concerns_ofAnswer fun accepted =>
      Report.concerns_ite (concerns_check he scope yes v) (concerns_check he scope no v)
  | .reference link, v => by rw [checkKeyword]; exact he scope link v
  | .unevaluatedItems schema, v => by
    rw [checkKeyword]
    split
    · exact Report.concerns_clean
    · exact Report.concerns_ofAnswer fun covered => concerns_checkUncoveredItems covered
  | .unevaluatedProperties schema, v => by
    rw [checkKeyword]
    split
    · exact Report.concerns_clean
    · exact Report.concerns_ofAnswer fun covered =>
        Report.concerns_ofAnswer fun keys => concerns_checkUncoveredKeys schema keys
  | .broken affected fault, v => by
    rw [checkKeyword]
    exact Report.concerns_ofAnswer fun accepted =>
      Report.concerns_ite (Report.concerns_broken fault) Report.concerns_clean

theorem concerns_checkFields (he : e.Concern) (scope : Scope) :
    (fields : List (String × Schema)) → (v : Value) → (checkFields e scope fields v).Concerns v
  | [], v => by rw [checkFields]; exact Report.concerns_clean
  | (name, schema) :: rest, v => by
    rw [checkFields]
    exact (Report.concerns_inParts (concerns_check he scope schema)
      fun part => isPart_of_mem_fieldPart).andThen (concerns_checkFields he scope rest v)

theorem concerns_checkFirst (he : e.Concern) (scope : Scope) : (schemas : List Schema) →
    (parts : List (Step × Value)) → (v : Value) → (∀ part ∈ parts, IsPart v part) →
    (checkFirst e scope schemas parts).Concerns v
  | [], _, v, _ => by rw [checkFirst]; exact Report.concerns_clean; simp
  | _ :: _, [], v, _ => by rw [checkFirst]; exact Report.concerns_clean; simp
  | schema :: rest, part :: parts, v, hparts => by
    obtain ⟨hpart, hparts⟩ := List.forall_mem_cons.mp hparts
    rw [checkFirst]
    exact ((concerns_check he scope schema part.2).under hpart).andThen
      (concerns_checkFirst he scope rest parts v hparts)

theorem concerns_checkAll (he : e.Concern) (scope : Scope) : (schemas : List Schema) →
    (v : Value) → (checkAll e scope schemas v).Concerns v
  | [], v => by rw [checkAll]; exact Report.concerns_clean
  | schema :: rest, v => by
    rw [checkAll]
    exact (concerns_check he scope schema v).andThen (concerns_checkAll he scope rest v)

theorem concerns_checkDisallowed (he : e.Concern) (scope : Scope) :
    (alternatives : List (String × Schema)) → (v : Value) →
    (checkDisallowed e scope alternatives v).Concerns v
  | [], v => by rw [checkDisallowed]; exact Report.concerns_clean
  | (shown, schema) :: rest, v => by
    rw [checkDisallowed]
    refine Report.Concerns.andThen ?_ (concerns_checkDisallowed he scope rest v)
    exact Report.concerns_ofAnswer fun accepted =>
      Report.concerns_ite (Report.concerns_fail _) Report.concerns_clean

theorem concerns_checkOne (he : e.Concern) (scope : Scope) :
    (alternatives : List (Value × Schema)) → (v : Value) →
    (checkOne e scope alternatives v).Concerns v
  | [], v => by rw [checkOne]; exact Report.concerns_fail _
  | (document, schema) :: rest, v => by
    rw [checkOne]
    split
    · exact Report.concerns_broken _
    · exact Report.concerns_ofAnswer fun more => concerns_severalMatch document more
    · exact concerns_checkOne he scope rest v

end

/-! ## Libraries -/

theorem concern_surroundings (library : Library) (checksPatterns : Bool) (depth : Nat) :
    (library.surroundings checksPatterns depth).Concern := by
  induction depth with
  | zero => exact fun scope link v => Report.concerns_broken _
  | succ depth ih =>
    exact fun scope link v => Report.concerns_ofAnswer fun target => concerns_check ih _ _ v

/-- Every violation that is found with a library concerns the value or a part of it. -/
theorem concerns_libraryCheck (library : Library) (checksPatterns : Bool) (r : Resource)
    (v : Value) : (library.check checksPatterns r v).Concerns v :=
  concerns_check (concern_surroundings _ _ _) _ _ v

end Schema

end FlowTemplate
