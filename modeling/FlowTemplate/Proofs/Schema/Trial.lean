import FlowTemplate.Proofs.Computation
import FlowTemplate.Schema.Library
/-!
# Trials of a schema

That a document is no schema is found out before a value is held against it. The trial itself can
break off for many reasons, but never for this one: whatever document is read, no keyword of it stands
for a document that is no schema.
-/

namespace FlowTemplate.Schema

open FlowTemplate.Computation

/-- A result that does not say of a document that it is no schema. -/
def Spares {α : Type} (x : Except Fault α) : Prop := x ≠ .error .notSchema

/-- A report that does not break off because a document is no schema. -/
def Report.Spares (r : Report) : Prop := r.fault ≠ some .notSchema

/-! ## Results -/

section Results

variable {α β : Type} {x : Except Fault α}

theorem spares_ok (a : α) : Spares (.ok a : Except Fault α) := fun h => by cases h

theorem spares_error {fault : Fault} (h : fault ≠ .notSchema) :
    Spares (.error fault : Except Fault α) := fun heq => h (Except.error.inj heq)

theorem Spares.ne_of_eq {fault : Fault} (h : Spares x) (hx : x = .error fault) :
    fault ≠ .notSchema := fun heq => h (heq ▸ hx)

theorem Spares.bind (h : Spares x) {f : α → Except Fault β} (hf : ∀ a, Spares (f a)) :
    Spares (x >>= f) := by
  cases x with
  | error fault => exact spares_error (h.ne_of_eq rfl)
  | ok a => exact hf a

theorem Spares.map (h : Spares x) (f : α → β) : Spares (x.map f) := by
  cases x with
  | error fault => exact spares_error (h.ne_of_eq rfl)
  | ok a => exact spares_ok (f a)

theorem spares_ite {p : Prop} [Decidable p] {x y : Except Fault α} (hx : Spares x)
    (hy : Spares y) : Spares (if p then x else y) := by
  split
  · exact hx
  · exact hy

end Results

/-! ## Reports -/

namespace Report

variable {r : Report}

theorem spares_of_fault (h : r.fault = none) : r.Spares := by
  rw [Spares, h]
  exact (Option.some_ne_none _).symm

theorem spares_clean : clean.Spares := spares_of_fault rfl

theorem spares_fail (message : String) : (fail message).Spares := spares_of_fault rfl

theorem spares_broken {fault : Fault} (h : fault ≠ .notSchema) : (broken fault).Spares :=
  fun heq => h (Option.some.inj heq)

theorem spares_ite {p : Prop} [Decidable p] {r s : Report} (hr : r.Spares) (hs : s.Spares) :
    (if p then r else s).Spares := by
  split
  · exact hr
  · exact hs

theorem spares_expect (ok : Bool) (v : Value) (message : String) : (expect ok v message).Spares :=
  spares_ite spares_clean (spares_fail _)

theorem Spares.andThen (h : r.Spares) {next : Unit → Report} (hnext : (next ()).Spares) :
    (r.andThen next).Spares := by
  rw [Report.andThen]
  split
  · exact h
  · exact hnext

theorem Spares.under (h : r.Spares) (step : Step) : (r.under step).Spares := h

theorem Spares.ne_of_eq {fault : Fault} (h : r.Spares) (hfault : r.fault = some fault) :
    fault ≠ .notSchema := fun heq => h (heq ▸ hfault)

theorem Spares.violations? (h : r.Spares) : Schema.Spares r.violations? := by
  rw [Report.violations?]
  split
  · rename_i fault hfault
    exact spares_error (h.ne_of_eq hfault)
  · exact spares_ok _

theorem Spares.isClean (h : r.Spares) : Schema.Spares r.isClean := by
  rw [Report.isClean]
  refine Schema.spares_ite ?_ (spares_ok false)
  split
  · rename_i fault hfault
    exact spares_error (h.ne_of_eq hfault)
  · exact spares_ok true

theorem spares_ofAnswer {α : Type} {answer : Except Fault α} {next : α → Report}
    (h : Schema.Spares answer) (hnext : ∀ a, (next a).Spares) : (ofAnswer answer next).Spares := by
  cases answer with
  | error fault => exact spares_broken (h.ne_of_eq rfl)
  | ok a => exact hnext a

theorem spares_ofParts {α : Type} {check : α → Report} (h : ∀ part, (check part).Spares) :
    (parts : List α) → (ofParts check parts).Spares
  | [] => spares_clean
  | part :: rest => (h part).andThen (spares_ofParts h rest)

theorem spares_inParts {check : Value → Report} (h : ∀ v, (check v).Spares)
    (parts : List (Step × Value)) : (inParts check parts).Spares := by
  have hpart : ∀ part, (inPart check part).Spares := fun part => (h part.2).under part.1
  exact spares_ofParts hpart parts

end Report

/-! ## Keywords without schemas -/

section Keywords

variable {v : Value}

theorem spares_compare (bound : Atom) (ok : Quantity → Quantity → Bool) (message : String) :
    (compare v bound ok message).Spares := by
  unfold compare
  split
  · exact Report.spares_expect _ _ _
  · exact Report.spares_clean

theorem spares_isMultiple (a divisor : Atom) : Spares (isMultiple a divisor) := by
  have hdouble (b : Atom) : Spares (double b) := by
    unfold double
    split
    · split
      · exact spares_error Fault.noConfusion
      · exact spares_ok _
    · exact spares_ok _
    · exact spares_error Fault.noConfusion
  have hquotient (x y : Binary64) : Spares (isDoubleMultiple x y) := by
    unfold isDoubleMultiple
    split <;> try exact spares_error Fault.noConfusion
    · exact spares_ok _
    · split
      · dsimp only
        split
        · exact spares_ok _
        · exact spares_ok _
      · exact spares_error Fault.noConfusion
  unfold isMultiple
  split
  · exact spares_ite (spares_error Fault.noConfusion) (spares_ok _)
  · refine (hdouble _).bind fun y => ?_
    split
    · exact spares_ite (spares_error Fault.noConfusion) (spares_ok _)
    · exact spares_ok _
  · exact (hdouble _).bind fun x => hquotient x _
  · exact spares_error Fault.noConfusion

theorem spares_checkMultiple (divisor : Atom) : (checkMultiple v divisor).Spares := by
  unfold checkMultiple
  split
  · refine Report.spares_ite ?_ Report.spares_clean
    exact Report.spares_ofAnswer (spares_isMultiple _ _) fun ok => Report.spares_expect _ _ _
  · exact Report.spares_clean

theorem spares_atLeast (size : Option Nat) (n : Nat) (message : String) :
    (atLeast v size n message).Spares := by
  cases size with
  | none => exact Report.spares_clean
  | some size => exact Report.spares_expect _ _ _

theorem spares_atMost (size : Option Nat) (n : Nat) (message : String) :
    (atMost v size n message).Spares := by
  cases size with
  | none => exact Report.spares_clean
  | some size => exact Report.spares_expect _ _ _

theorem spares_checkPattern (source : String) (p : Pattern) :
    (checkPattern source p v).Spares := by
  unfold checkPattern
  split
  · exact Report.spares_expect _ _ _
  · exact Report.spares_clean

theorem spares_checkPatternText : (checkPatternText v).Spares := by
  unfold checkPatternText
  split
  · split
    · exact Report.spares_clean
    · exact Report.spares_fail _
    · exact Report.spares_broken Fault.noConfusion
  · exact Report.spares_clean

theorem spares_checkDependent (name : String) (needed : List String) :
    (checkDependent name needed v).Spares :=
  Report.spares_ite (Report.spares_of_fault rfl) Report.spares_clean

theorem spares_severalMatch (first : Value) (more : List Value) :
    (severalMatch v first more).Spares :=
  Report.spares_ite Report.spares_clean (Report.spares_fail _)

theorem spares_tooFew (least : Atom) (n : Nat) : (checkCount.tooFew least v n).Spares :=
  Report.spares_ite (Report.spares_ite (Report.spares_fail _) (Report.spares_fail _))
    Report.spares_clean

theorem spares_checkCount (least : Atom) (most : Option Atom) (n : Nat) :
    (checkCount least most v n).Spares := by
  unfold checkCount
  split
  · exact Report.spares_ite (Report.spares_fail _) (spares_tooFew least n)
  · exact spares_tooFew least n

theorem spares_checkUncoveredItems (covered : List Step) :
    (checkUncoveredItems covered v).Spares := by
  unfold checkUncoveredItems
  split
  · exact Report.spares_clean
  · exact Report.spares_fail _

theorem spares_checkUncoveredKeys (schema : Schema) (keys : List Atom) :
    (checkUncoveredKeys schema keys).Spares := by
  unfold checkUncoveredKeys
  refine Report.spares_ite Report.spares_clean ?_
  split
  · exact Report.spares_fail _
  · exact Report.spares_fail _

end Keywords

/-! ## Questions about parts -/

section Parts

variable {accepts : Value → Except Fault Bool}

theorem spares_countAccepted (h : ∀ v, Spares (accepts v)) (most : Option Atom) (n : Nat)
    (items : List Value) : Spares (countAccepted accepts most n items) := by
  induction items generalizing n with
  | nil => exact spares_ok n
  | cons v rest ih =>
    rw [countAccepted]
    refine spares_ite (spares_ok n) ?_
    split
    · rename_i fault hfault
      exact spares_error ((h v).ne_of_eq hfault)
    · exact ih _

theorem spares_checkAny (h : ∀ v, Spares (accepts v)) (v : Value) :
    (checkAny accepts v).Spares := by
  unfold checkAny
  split
  · exact Report.spares_clean
  · exact Report.spares_ofAnswer (spares_countAccepted h _ _ _) fun n =>
      Report.spares_ite (Report.spares_fail _) Report.spares_clean

theorem spares_acceptedSteps (h : ∀ v, Spares (accepts v)) :
    (parts : List (Step × Value)) → Spares (acceptedSteps accepts parts)
  | [] => spares_ok []
  | (_, v) :: rest =>
    (h v).bind fun _ => (spares_acceptedSteps h rest).bind fun _ => spares_ok _

theorem spares_uncoveredKeys {check : Value → Report} (h : ∀ v, (check v).Spares)
    (covered : List Step) : (entries : Entries) → Spares (uncoveredKeys check covered entries)
  | [] => spares_ok []
  | (_, v) :: rest => by
    have hrest (found : List Atom) : Spares do
        return found ++ (← uncoveredKeys check covered rest) :=
      (spares_uncoveredKeys h covered rest).bind fun _ => spares_ok _
    rw [uncoveredKeys]
    exact spares_ite ((spares_ok []).bind hrest) (((h v).violations?.map _).bind hrest)

theorem Spares.bothCovered {a b : Except Fault (List Step)} (ha : Spares a) (hb : Spares b) :
    Spares (Schema.bothCovered a b) :=
  ha.bind fun _ => hb.bind fun _ => spares_ok _

end Parts

/-! ## Schemas -/

mutual

/-- Whether no keyword of a schema stands for a document that is no schema. -/
def isTriable : Schema → Bool
  | .always | .never => true
  | .all keywords => areTriable keywords
  | .within _ schema => isTriable schema

def areTriable : List Keyword → Bool
  | [] => true
  | keyword :: rest => keywordIsTriable keyword && areTriable rest

def keywordIsTriable : Keyword → Bool
  | .typeOrSchema fields | .disallow fields | .properties fields => fieldsAreTriable fields
  | .firstItems schemas | .allOf schemas | .anyOf schemas => schemasAreTriable schemas
  | .items _ schema | .additionalItems _ schema | .eachItem schema | .contains _ _ schema
  | .containsAny schema | .dependentSchema _ schema | .fieldsLike _ schema | .additional _ schema
  | .unlike _ _ _ schema | .propertyNames schema | .negation _ schema | .unevaluatedItems schema
  | .unevaluatedProperties schema => isTriable schema
  | .oneOf alternatives => alternativesAreTriable alternatives
  | .conditional test yes no => isTriable test && isTriable yes && isTriable no
  | .broken affected fault => isTriable affected && fault != .notSchema
  | _ => true

def fieldsAreTriable : List (String × Schema) → Bool
  | [] => true
  | (_, schema) :: rest => isTriable schema && fieldsAreTriable rest

def schemasAreTriable : List Schema → Bool
  | [] => true
  | schema :: rest => isTriable schema && schemasAreTriable rest

def alternativesAreTriable : List (Value × Schema) → Bool
  | [] => true
  | (_, schema) :: rest => isTriable schema && alternativesAreTriable rest

end

/-- What references lead to spares documents. -/
structure Surroundings.Spare (e : Surroundings) : Prop where
  follow : ∀ scope link v, (e.follow scope link v).Spares
  followCovered : ∀ scope link v, Spares (e.followCovered scope link v)

section Check

variable {e : Surroundings}

mutual

theorem spares_check (he : e.Spare) (scope : Scope) : (schema : Schema) →
    isTriable schema = true → ∀ v, (check e scope schema v).Spares
  | .always, _, v => by rw [check]; exact Report.spares_clean
  | .never, _, v => by rw [check]; exact Report.spares_fail _
  | .all keywords, h, v => by
    rw [check]
    exact spares_checkKeywords he scope (fun _ => spares_coveredByKeywords he scope keywords h v)
      keywords h v
  | .within id schema, h, v => by rw [check]; exact spares_check he _ schema h v

theorem spares_checkKeywords (he : e.Spare) (scope : Scope)
    {covered : Unit → Except Fault (List Step)} (hcovered : ∀ u, Spares (covered u)) :
    (keywords : List Keyword) → areTriable keywords = true → ∀ v,
      (checkKeywords e scope covered keywords v).Spares
  | [], _, v => by rw [checkKeywords]; exact Report.spares_clean
  | keyword :: rest, h, v => by
    rw [areTriable, Bool.and_eq_true] at h
    rw [checkKeywords]
    exact (spares_checkKeyword he scope hcovered keyword h.1 v).andThen
      (spares_checkKeywords he scope hcovered rest h.2 v)

theorem spares_checkKeyword (he : e.Spare) (scope : Scope)
    {covered : Unit → Except Fault (List Step)} (hcovered : ∀ u, Spares (covered u)) :
    (keyword : Keyword) → keywordIsTriable keyword = true → ∀ v,
      (checkKeyword e scope covered keyword v).Spares
  | .type kinds, _, v | .enum values, _, v => by
    rw [checkKeyword]
    exact Report.spares_expect _ _ _
  | .const w, _, v => by
    rw [checkKeyword]
    exact Report.spares_ite Report.spares_clean (Report.spares_fail _)
  | .minimum bound, _, v | .maximum bound, _, v | .exclusiveMinimum bound, _, v
  | .exclusiveMaximum bound, _, v => by rw [checkKeyword]; exact spares_compare _ _ _
  | .multipleOf divisor, _, v => by rw [checkKeyword]; exact spares_checkMultiple _
  | .minLength n, _, v | .minItems n, _, v | .minProperties n, _, v => by
    rw [checkKeyword]
    exact spares_atLeast _ _ _
  | .maxLength n, _, v | .maxItems n, _, v | .maxProperties n, _, v => by
    rw [checkKeyword]
    exact spares_atMost _ _ _
  | .pattern source p, _, v => by rw [checkKeyword]; exact spares_checkPattern _ _
  | .patternText, _, v => by
    rw [checkKeyword]
    exact Report.spares_ite spares_checkPatternText Report.spares_clean
  | .uniqueItems, _, v => by
    rw [checkKeyword]
    split
    · exact Report.spares_expect _ _ _
    · exact Report.spares_clean
  | .required names, _, v => by rw [checkKeyword]; exact Report.spares_of_fault rfl
  | .requiredFields names, _, v => by rw [checkKeyword]; exact Report.spares_of_fault rfl
  | .dependent name needed, _, v => by rw [checkKeyword]; exact spares_checkDependent _ _
  | .reference link, _, v => by rw [checkKeyword]; exact he.follow scope link v
  | .typeOrSchema alternatives, h, v => by
    rw [checkKeyword]
    exact Report.spares_ofAnswer (spares_someAlternative he scope alternatives h v) fun ok =>
      Report.spares_expect _ _ _
  | .disallow alternatives, h, v => by
    rw [checkKeyword]
    exact spares_checkDisallowed he scope alternatives h v
  | .firstItems schemas, h, v => by
    rw [checkKeyword]
    exact spares_checkFirst he scope schemas h _
  | .items skip schema, h, v | .additionalItems skip schema, h, v => by
    rw [checkKeyword.eq_def]
    dsimp only
    split
    · split
      · exact Report.spares_clean
      · exact Report.spares_fail _
    · exact Report.spares_inParts (spares_check he scope schema h) _
  | .eachItem schema, h, v | .fieldsLike p schema, h, v => by
    rw [checkKeyword]
    exact Report.spares_inParts (spares_check he scope schema h) _
  | .contains least most schema, h, v => by
    rw [checkKeyword]
    split
    · exact Report.spares_clean
    · exact Report.spares_ofAnswer
        (spares_countAccepted (fun w => (spares_check he scope schema h w).isClean) _ _ _) fun n =>
          spares_checkCount least most n
  | .containsAny schema, h, v => by
    rw [checkKeyword]
    exact spares_checkAny (fun w => (spares_check he scope schema h w).isClean) v
  | .dependentSchema name schema, h, v => by
    rw [checkKeyword]
    exact Report.spares_ite (spares_check he scope schema h v) Report.spares_clean
  | .properties fields, h, v => by rw [checkKeyword]; exact spares_checkFields he scope fields h v
  | .additional known schema, h, v => by
    rw [checkKeyword.eq_def]
    dsimp only
    split
    · split
      · exact Report.spares_clean
      · exact Report.spares_fail _
    · exact Report.spares_inParts (spares_check he scope schema h) _
  | .unlike known sources p schema, h, v => by
    rw [checkKeyword.eq_def]
    dsimp only
    split
    · split
      · exact Report.spares_clean
      · exact Report.spares_fail _
    · exact Report.spares_inParts (spares_check he scope schema h) _
  | .propertyNames schema, h, v => by
    rw [checkKeyword]
    exact Report.spares_ofParts (fun key => spares_check he scope schema h (.atom key)) _
  | .allOf schemas, h, v => by rw [checkKeyword]; exact spares_checkAll he scope schemas h v
  | .anyOf schemas, h, v => by
    rw [checkKeyword]
    exact Report.spares_ofAnswer (spares_anyAccepts he scope schemas h v) fun ok =>
      Report.spares_ite Report.spares_clean (Report.spares_fail _)
  | .oneOf alternatives, h, v => by
    rw [checkKeyword]
    exact spares_checkOne he scope alternatives h v
  | .negation document schema, h, v => by
    rw [checkKeyword]
    exact Report.spares_ofAnswer (spares_check he scope schema h v).isClean fun accepted =>
      Report.spares_ite (Report.spares_fail _) Report.spares_clean
  | .conditional test yes no, h, v => by
    rw [keywordIsTriable, Bool.and_eq_true, Bool.and_eq_true] at h
    obtain ⟨⟨htest, hyes⟩, hno⟩ := h
    rw [checkKeyword]
    exact Report.spares_ofAnswer (spares_check he scope test htest v).isClean fun accepted =>
      Report.spares_ite (spares_check he scope yes hyes v) (spares_check he scope no hno v)
  | .unevaluatedItems schema, _, v => by
    rw [checkKeyword]
    split
    · exact Report.spares_clean
    · exact Report.spares_ofAnswer (hcovered ()) fun covered => spares_checkUncoveredItems covered
  | .unevaluatedProperties schema, h, v => by
    rw [checkKeyword]
    split
    · exact Report.spares_clean
    · exact Report.spares_ofAnswer (hcovered ()) fun covered =>
        Report.spares_ofAnswer (spares_uncoveredKeys (spares_check he scope schema h) covered _)
          fun keys => spares_checkUncoveredKeys schema keys
  | .broken affected fault, h, v => by
    rw [keywordIsTriable, Bool.and_eq_true, bne_iff_ne] at h
    rw [checkKeyword]
    exact Report.spares_ofAnswer (spares_check he scope affected h.1 v).isClean fun accepted =>
      Report.spares_ite (Report.spares_broken h.2) Report.spares_clean

theorem spares_checkFields (he : e.Spare) (scope : Scope) : (fields : List (String × Schema)) →
    fieldsAreTriable fields = true → ∀ v, (checkFields e scope fields v).Spares
  | [], _, v => by rw [checkFields]; exact Report.spares_clean
  | (name, schema) :: rest, h, v => by
    rw [fieldsAreTriable, Bool.and_eq_true] at h
    rw [checkFields]
    exact (Report.spares_inParts (spares_check he scope schema h.1) _).andThen
      (spares_checkFields he scope rest h.2 v)

theorem spares_checkFirst (he : e.Spare) (scope : Scope) : (schemas : List Schema) →
    schemasAreTriable schemas = true → ∀ parts, (checkFirst e scope schemas parts).Spares
  | [], _, _ => by rw [checkFirst]; exact Report.spares_clean; simp
  | _ :: _, _, [] => by rw [checkFirst]; exact Report.spares_clean; simp
  | schema :: rest, h, part :: parts => by
    rw [schemasAreTriable, Bool.and_eq_true] at h
    rw [checkFirst]
    exact ((spares_check he scope schema h.1 part.2).under part.1).andThen
      (spares_checkFirst he scope rest h.2 parts)

theorem spares_checkAll (he : e.Spare) (scope : Scope) : (schemas : List Schema) →
    schemasAreTriable schemas = true → ∀ v, (checkAll e scope schemas v).Spares
  | [], _, v => by rw [checkAll]; exact Report.spares_clean
  | schema :: rest, h, v => by
    rw [schemasAreTriable, Bool.and_eq_true] at h
    rw [checkAll]
    exact (spares_check he scope schema h.1 v).andThen (spares_checkAll he scope rest h.2 v)

theorem spares_anyAccepts (he : e.Spare) (scope : Scope) : (schemas : List Schema) →
    schemasAreTriable schemas = true → ∀ v, Spares (anyAccepts e scope schemas v)
  | [], _, v => by rw [anyAccepts]; exact spares_ok false
  | schema :: rest, h, v => by
    rw [schemasAreTriable, Bool.and_eq_true] at h
    have hfirst := (spares_check he scope schema h.1 v).violations?
    rw [anyAccepts]
    split
    · rename_i fault hfault
      exact spares_error (hfirst.ne_of_eq hfault)
    · exact spares_ok true
    · exact spares_anyAccepts he scope rest h.2 v

theorem spares_someAlternative (he : e.Spare) (scope : Scope) :
    (alternatives : List (String × Schema)) → fieldsAreTriable alternatives = true → ∀ v,
      Spares (someAlternative e scope alternatives v)
  | [], _, v => by rw [someAlternative]; exact spares_ok false
  | (_, schema) :: rest, h, v => by
    rw [fieldsAreTriable, Bool.and_eq_true] at h
    have hfirst := (spares_check he scope schema h.1 v).violations?
    rw [someAlternative]
    split
    · rename_i fault hfault
      exact spares_error (hfirst.ne_of_eq hfault)
    · exact spares_ok true
    · exact spares_someAlternative he scope rest h.2 v

theorem spares_checkDisallowed (he : e.Spare) (scope : Scope) :
    (alternatives : List (String × Schema)) → fieldsAreTriable alternatives = true → ∀ v,
      (checkDisallowed e scope alternatives v).Spares
  | [], _, v => by rw [checkDisallowed]; exact Report.spares_clean
  | (shown, schema) :: rest, h, v => by
    rw [fieldsAreTriable, Bool.and_eq_true] at h
    rw [checkDisallowed]
    refine Report.Spares.andThen ?_ (spares_checkDisallowed he scope rest h.2 v)
    exact Report.spares_ofAnswer (spares_check he scope schema h.1 v).isClean fun accepted =>
      Report.spares_ite (Report.spares_fail _) Report.spares_clean

theorem spares_checkOne (he : e.Spare) (scope : Scope) :
    (alternatives : List (Value × Schema)) → alternativesAreTriable alternatives = true → ∀ v,
      (checkOne e scope alternatives v).Spares
  | [], _, v => by rw [checkOne]; exact Report.spares_fail _
  | (document, schema) :: rest, h, v => by
    rw [alternativesAreTriable, Bool.and_eq_true] at h
    have hfirst := (spares_check he scope schema h.1 v).violations?
    rw [checkOne]
    split
    · rename_i fault hfault
      exact Report.spares_broken (hfirst.ne_of_eq hfault)
    · exact Report.spares_ofAnswer (spares_accepting he scope rest h.2 v) fun more =>
        spares_severalMatch document more
    · exact spares_checkOne he scope rest h.2 v

theorem spares_accepting (he : e.Spare) (scope : Scope) :
    (alternatives : List (Value × Schema)) → alternativesAreTriable alternatives = true → ∀ v,
      Spares (accepting e scope alternatives v)
  | [], _, v => by rw [accepting]; exact spares_ok []
  | (document, schema) :: rest, h, v => by
    rw [alternativesAreTriable, Bool.and_eq_true] at h
    have hfirst := (spares_check he scope schema h.1 v).isClean
    have hrest := spares_accepting he scope rest h.2 v
    rw [accepting]
    split
    · rename_i fault hfault
      exact spares_error (hfirst.ne_of_eq hfault)
    · split
      · rename_i fault hfault
        exact spares_error (hrest.ne_of_eq hfault)
      · exact spares_ok _

theorem spares_covered (he : e.Spare) (scope : Scope) : (schema : Schema) →
    isTriable schema = true → ∀ v, Spares (covered e scope schema v)
  | .always, _, v | .never, _, v => by rw [covered]; exact spares_ok []
  | .all keywords, h, v => by rw [covered]; exact spares_coveredByKeywords he scope keywords h v
  | .within id schema, h, v => by rw [covered]; exact spares_covered he scope schema h v

theorem spares_coveredByKeywords (he : e.Spare) (scope : Scope) : (keywords : List Keyword) →
    areTriable keywords = true → ∀ v, Spares (coveredByKeywords e scope keywords v)
  | [], _, v => by rw [coveredByKeywords]; exact spares_ok []
  | keyword :: rest, h, v => by
    rw [areTriable, Bool.and_eq_true] at h
    rw [coveredByKeywords]
    exact (spares_coveredBy he scope keyword h.1 v).bothCovered
      (spares_coveredByKeywords he scope rest h.2 v)

theorem spares_coveredBy (he : e.Spare) (scope : Scope) : (keyword : Keyword) →
    keywordIsTriable keyword = true → ∀ v, Spares (coveredBy e scope keyword v)
  | .firstItems schemas, _, v | .items skip schema, _, v | .eachItem schema, _, v
  | .additionalItems skip schema, _, v | .properties fields, _, v | .fieldsLike p schema, _, v => by
    rw [coveredBy]
    exact spares_ok _
  | .contains _ _ schema, h, v | .unevaluatedItems schema, h, v | .additional _ schema, h, v
  | .unlike _ _ _ schema, h, v | .unevaluatedProperties schema, h, v => by
    rw [coveredBy]
    exact spares_acceptedSteps (fun w => (spares_check he scope schema h w).isClean) _
  | .dependentSchema name schema, h, v => by
    rw [coveredBy]
    exact spares_ite (spares_covered he scope schema h v) (spares_ok [])
  | .allOf schemas, h, v | .anyOf schemas, h, v => by
    rw [coveredBy]
    exact spares_coveredByAccepting he scope schemas h v
  | .oneOf alternatives, h, v => by
    rw [coveredBy]
    exact spares_coveredByAlternatives he scope alternatives h v
  | .conditional test yes no, h, v => by
    rw [keywordIsTriable, Bool.and_eq_true, Bool.and_eq_true] at h
    obtain ⟨⟨htest, hyes⟩, hno⟩ := h
    have hfirst := (spares_check he scope test htest v).isClean
    rw [coveredBy]
    split
    · rename_i fault hfault
      exact spares_error (hfirst.ne_of_eq hfault)
    · exact (spares_covered he scope test htest v).bothCovered (spares_covered he scope yes hyes v)
    · exact spares_covered he scope no hno v
  | .reference link, _, v => by rw [coveredBy]; exact he.followCovered scope link v
  | .type _, _, v | .typeOrSchema _, _, v | .disallow _, _, v | .enum _, _, v | .const _, _, v
  | .minimum _, _, v | .maximum _, _, v | .exclusiveMinimum _, _, v | .exclusiveMaximum _, _, v
  | .multipleOf _, _, v | .minLength _, _, v | .maxLength _, _, v | .pattern .., _, v
  | .patternText, _, v | .minItems _, _, v | .maxItems _, _, v | .uniqueItems, _, v
  | .containsAny _, _, v | .minProperties _, _, v | .maxProperties _, _, v | .required _, _, v
  | .requiredFields _, _, v | .dependent .., _, v | .propertyNames _, _, v | .negation .., _, v
  | .broken .., _, v => by
    rw [coveredBy]
    exact spares_ok []
    all_goals simp

theorem spares_coveredByAccepting (he : e.Spare) (scope : Scope) : (schemas : List Schema) →
    schemasAreTriable schemas = true → ∀ v, Spares (coveredByAccepting e scope schemas v)
  | [], _, v => by rw [coveredByAccepting]; exact spares_ok []
  | schema :: rest, h, v => by
    rw [schemasAreTriable, Bool.and_eq_true] at h
    have hfirst := (spares_check he scope schema h.1 v).isClean
    rw [coveredByAccepting]
    split
    · rename_i fault hfault
      exact spares_error (hfirst.ne_of_eq hfault)
    · exact (spares_ite (spares_covered he scope schema h.1 v) (spares_ok [])).bothCovered
        (spares_coveredByAccepting he scope rest h.2 v)

theorem spares_coveredByAlternatives (he : e.Spare) (scope : Scope) :
    (alternatives : List (Value × Schema)) → alternativesAreTriable alternatives = true → ∀ v,
      Spares (coveredByAlternatives e scope alternatives v)
  | [], _, v => by rw [coveredByAlternatives]; exact spares_ok []
  | (_, schema) :: rest, h, v => by
    rw [alternativesAreTriable, Bool.and_eq_true] at h
    have hfirst := (spares_check he scope schema h.1 v).isClean
    rw [coveredByAlternatives]
    split
    · rename_i fault hfault
      exact spares_error (hfirst.ne_of_eq hfault)
    · exact (spares_ite (spares_covered he scope schema h.1 v) (spares_ok [])).bothCovered
        (spares_coveredByAlternatives he scope rest h.2 v)

end

end Check

end FlowTemplate.Schema
