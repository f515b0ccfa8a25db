import FlowTemplate.Proofs.Schema.Decides
/-!
# What accepted values have

A value that a schema has nothing against has what the keywords of the schema ask for. Unlike what
schemas decide, this holds of any value: what is accepted need not be a tree, since no keyword looks
into parts that it does not speak of. Again the report has to come to its end, for a keyword after a
fault is never tried.
-/

namespace FlowTemplate

namespace Kind

theorem holds_string {v : Value} : Kind.string.holds v = true ↔ ∃ s, v.bare = .str s := by
  unfold holds
  generalize v.bare = w
  cases w with
  | atom a => cases a <;> simp
  | _ => simp

theorem holds_object {v : Value} :
    Kind.object.holds v = true ↔ ∃ entries, v.entries? = some entries := by
  unfold holds Value.entries?
  generalize v.bare = w
  cases w <;> simp

theorem holds_array {v : Value} :
    Kind.array.holds v = true ↔ ∃ items, Schema.items? v = some items := by
  unfold holds Schema.items?
  generalize v.bare = w
  cases w <;> simp

end Kind

namespace Schema

/-- The report comes to its end, and without a violation in it the proposition holds. -/
structure Report.Ensures (r : Report) (p : Prop) : Prop where
  fault : r.fault = none
  holds : r.violations = [] → p

namespace Report

variable {r : Report} {p q : Prop}

theorem Ensures.imp (h : r.Ensures p) (hpq : p → q) : r.Ensures q :=
  ⟨h.fault, fun hclean => hpq (h.holds hclean)⟩

theorem Decides.ensures (h : r.Decides p) : r.Ensures p := ⟨h.fault, h.clean.mp⟩

theorem ensures_clean (h : p) : clean.Ensures p := (decides_clean h).ensures

theorem ensures_fail (message : String) : (fail message).Ensures p :=
  ⟨rfl, fun h => absurd h (List.cons_ne_nil _ _)⟩

theorem Ensures.andThen (h : r.Ensures p) {next : Unit → Report} (hnext : (next ()).Ensures q) :
    (r.andThen next).Ensures (p ∧ q) := by
  rw [Report.andThen, h.fault]
  refine ⟨hnext.fault, fun hclean => ?_⟩
  obtain ⟨hfirst, hrest⟩ := List.append_eq_nil_iff.mp hclean
  exact ⟨h.holds hfirst, hnext.holds hrest⟩

theorem Ensures.under (h : r.Ensures p) (step : Step) : (r.under step).Ensures p :=
  ⟨h.fault, fun hclean => h.holds (List.map_eq_nil_iff.mp hclean)⟩

theorem ensures_ofParts {α : Type} {check : α → Report} {p : α → Prop} {parts : List α}
    (h : ∀ part ∈ parts, (check part).Ensures (p part)) :
    (ofParts check parts).Ensures (∀ part ∈ parts, p part) := by
  induction parts with
  | nil => exact ensures_clean (by simp)
  | cons part rest ih =>
    obtain ⟨hpart, hrest⟩ := List.forall_mem_cons.mp h
    exact (hpart.andThen (ih hrest)).imp List.forall_mem_cons.mpr

theorem Ensures.isClean (h : r.Ensures p) :
    ∃ b, r.isClean = .ok b ∧ (b = true ↔ r.violations = []) := by
  refine ⟨r.violations.isEmpty, ?_, List.isEmpty_iff⟩
  rw [Report.isClean, h.fault]
  cases r.violations <;> rfl

theorem Ensures.violations? (h : r.Ensures p) : r.violations? = .ok r.violations := by
  rw [Report.violations?, h.fault]

end Report

/-- What the schema accepts has the property. -/
def Ensures (schema : Schema) (p : Value → Prop) : Prop :=
  ∀ e scope v, (check e scope schema v).Ensures (p v)

/-- What the keyword has nothing against has the property. -/
def KeywordEnsures (keyword : Keyword) (p : Value → Prop) : Prop :=
  ∀ e scope covered v, (checkKeyword e scope covered keyword v).Ensures (p v)

/-- The schema of a field ensures the property under the same name. -/
def FieldEnsures (field : String × Schema) (rule : String × (Value → Prop)) : Prop :=
  field.1 = rule.1 ∧ Ensures field.2 rule.2

variable {p q : Value → Prop}

theorem Ensures.imp {schema : Schema} (h : Ensures schema p) (hpq : ∀ v, p v → q v) :
    Ensures schema q :=
  fun e scope v => (h e scope v).imp (hpq v)

theorem Ensures.field {schema : Schema} (h : Ensures schema p) (name : String) :
    FieldEnsures (name, schema) (name, p) :=
  ⟨rfl, h⟩

theorem Ensures.of_report {schema : Schema} (h : Ensures schema p) {root : String} {v : Value}
    (hreport : schema.report root v = []) : p v :=
  (h .none {} v).holds ((report_eq_nil_iff schema root v).mp hreport)

theorem ensures_all {keywords : List Keyword} {ps : List (Value → Prop)}
    (h : List.Forall₂ KeywordEnsures keywords ps) :
    Ensures (.all keywords) fun v => ∀ p ∈ ps, p v := by
  intro e scope v
  rw [check]
  generalize (fun _ : Unit => coveredByKeywords e scope keywords v) = covered
  induction h with
  | nil => rw [checkKeywords]; exact Report.ensures_clean (by simp)
  | cons hkeyword _ ih =>
    rw [checkKeywords]
    exact ((hkeyword e scope covered v).andThen ih).imp fun h => List.forall_mem_cons.mpr h

/-! ## Keywords without schemas -/

theorem ensures_type (kinds : List Kind) :
    KeywordEnsures (.type kinds) fun v => ∃ kind ∈ kinds, kind.holds v = true := by
  intro e scope covered v
  rw [checkKeyword]
  exact (Report.decides_expect _ _ _).ensures.imp List.any_eq_true.mp

/-- The schema of a single kind. -/
theorem ensures_ofKind (kind : Kind) : Ensures (.ofKind kind) fun v => kind.holds v = true := by
  refine (ensures_all (.cons (ensures_type [kind]) .nil)).imp fun v h => ?_
  simpa using h

theorem ensures_any (kind : Kind) : Ensures (.ofKind kind) fun _ => True :=
  (ensures_ofKind kind).imp fun _ _ => trivial

theorem ensures_pattern (source : String) (pattern : Pattern) :
    KeywordEnsures (.pattern source pattern) fun v =>
      ∀ s, v.bare = .str s → pattern.search (Text.codes s.toList) = true := by
  intro e scope covered v
  rw [checkKeyword, checkPattern, text?]
  cases hs : v.bare.str? with
  | none =>
    refine Report.ensures_clean fun s hv => ?_
    rw [hv] at hs
    cases hs
  | some s =>
    refine (Report.decides_expect _ _ _).ensures.imp fun h t hv => ?_
    rw [hv] at hs
    cases hs
    exact h

theorem ensures_minLength (n : Nat) : KeywordEnsures (.minLength n) fun v =>
    ∀ s, v.bare = .str s → n ≤ Text.size s := by
  intro e scope covered v
  rw [checkKeyword]
  refine (decides_atLeast _ _).ensures.imp fun h s hv => h _ ?_
  rw [textLength?, text?, hv]
  rfl

theorem ensures_minItems (n : Nat) : KeywordEnsures (.minItems n) fun _ => True := by
  intro e scope covered v
  rw [checkKeyword]
  exact (decides_atLeast _ _).ensures.imp fun _ => trivial

theorem ensures_maxItems (n : Nat) : KeywordEnsures (.maxItems n) fun _ => True := by
  intro e scope covered v
  rw [checkKeyword]
  cases itemCount? v with
  | none => exact Report.ensures_clean trivial
  | some m => exact (Report.decides_expect _ _ _).ensures.imp fun _ => trivial

theorem ensures_minProperties (n : Nat) : KeywordEnsures (.minProperties n) fun _ => True := by
  intro e scope covered v
  rw [checkKeyword]
  exact (decides_atLeast _ _).ensures.imp fun _ => trivial

theorem ensures_minimum (least : Int) : KeywordEnsures (.minimum (.int least)) fun _ => True := by
  intro e scope covered v
  rw [checkKeyword, compare]
  cases numberOf? v with
  | none => exact Report.ensures_clean trivial
  | some x => exact (Report.decides_expect (!x.lt (.ofInt least)) _ _).ensures.imp fun _ => trivial

theorem ensures_enum (texts : List String) :
    KeywordEnsures (.enum (texts.map .str)) fun v => ∃ s ∈ texts, v.bare = .str s := by
  intro e scope covered v
  rw [checkKeyword]
  refine (Report.decides_expect _ _ _).ensures.imp fun h => ?_
  obtain ⟨w, hw, hsame⟩ := List.any_eq_true.mp h
  obtain ⟨s, hs, rfl⟩ := List.mem_map.mp hw
  exact ⟨s, hs, (sameMeaning_str s v).mp hsame⟩

theorem ensures_required (names : List String) : KeywordEnsures (.required names) fun v =>
    ∀ entries, v.entries? = some entries → ∀ name ∈ names, entries.contains name = true := by
  intro e scope covered v
  rw [checkKeyword, checkRequired]
  refine ⟨rfl, fun hclean entries hentries name hname => ?_⟩
  rw [List.map_eq_nil_iff, lacking, hentries] at hclean
  simpa using List.filter_eq_nil_iff.mp hclean name hname

/-! ## Keywords with schemas -/

theorem ensures_items {keywords : List Keyword} (h : Ensures (.all keywords) p) :
    KeywordEnsures (.items 0 (.all keywords)) fun v =>
      ∀ items, items? v = some items → ∀ w ∈ items, p w := by
  intro e scope covered v
  rw [checkKeyword]
  · have hparts : ∀ part ∈ itemParts 0 v,
        ((check e scope (.all keywords) part.2).under part.1).Ensures (p part.2) :=
      fun part _ => (h e scope part.2).under part.1
    refine (Report.ensures_ofParts hparts).imp fun hall items hitems w hw => ?_
    have hmem : w ∈ (itemParts 0 v).map Prod.snd := by
      rw [snd_itemParts, hitems]
      exact hw
    obtain ⟨part, hpart, rfl⟩ := List.mem_map.mp hmem
    exact hall part hpart
  · intro hnever
    cases hnever

theorem ensures_properties {fields : List (String × Schema)}
    {rules : List (String × (Value → Prop))} (h : List.Forall₂ FieldEnsures fields rules) :
    KeywordEnsures (.properties fields) fun v => ∀ entries, v.entries? = some entries →
      ∀ rule ∈ rules, ∀ w, entries.find? rule.1 = some w → rule.2 w := by
  intro e scope covered v
  rw [checkKeyword]
  induction h with
  | nil => rw [checkFields]; exact Report.ensures_clean (by simp)
  | @cons field rule fields rules hfield _ ih =>
    obtain ⟨hname, hschema⟩ := hfield
    have hparts : ∀ part ∈ fieldPart field.1 v,
        ((check e scope field.2 part.2).under part.1).Ensures (rule.2 part.2) :=
      fun part _ => (hschema e scope part.2).under part.1
    rw [checkFields]
    refine ((Report.ensures_ofParts hparts).andThen ih).imp ?_
    rintro ⟨hhere, hrest⟩ entries hentries
    refine List.forall_mem_cons.mpr ⟨fun w hw => ?_, hrest entries hentries⟩
    refine hhere (.key (.str field.1), w) ?_
    rw [fieldPart, hentries, Option.bind_some, hname, hw]
    exact List.mem_singleton.mpr rfl

/-- Where no other keys are allowed, every key is one of the known names. -/
theorem ensures_additional_never (known : List String) :
    KeywordEnsures (.additional known .never) fun v => ∀ entries, v.entries? = some entries →
      ∀ k ∈ entries.keys, ∃ name ∈ known, k = .str name := by
  intro e scope covered v
  rw [checkKeyword]
  split
  · rename_i hextras
    refine Report.ensures_clean fun entries hentries k hk => ?_
    rw [extras, hentries, Option.getD_some, List.filter_eq_nil_iff] at hextras
    obtain ⟨entry, hentry, rfl⟩ := List.mem_map.mp hk
    have hnamed := hextras entry hentry
    simpa [isNamed] using hnamed
  · exact Report.ensures_fail _

theorem ensures_additional {keywords : List Keyword} (h : Ensures (.all keywords) p)
    (known : List String) : KeywordEnsures (.additional known (.all keywords)) fun _ => True := by
  intro e scope covered v
  rw [checkKeyword]
  · have hparts : ∀ part ∈ parts (extras known v),
        ((check e scope (.all keywords) part.2).under part.1).Ensures (p part.2) :=
      fun part _ => (h e scope part.2).under part.1
    exact (Report.ensures_ofParts hparts).imp fun _ => trivial
  · intro hnever
    cases hnever

theorem anyAccepts_ensures {schemas : List Schema} {ps : List (Value → Prop)}
    (h : List.Forall₂ Ensures schemas ps) (e : Surroundings) (scope : Scope) (v : Value) :
    ∃ b, anyAccepts e scope schemas v = .ok b ∧ (b = true → ∃ p ∈ ps, p v) := by
  induction h with
  | nil => exact ⟨false, by rw [anyAccepts], fun h => by cases h⟩
  | @cons schema p schemas ps hschema _ ih =>
    have hensures := hschema e scope v
    rw [anyAccepts, hensures.violations?]
    cases hviolations : (check e scope schema v).violations with
    | nil => exact ⟨true, rfl, fun _ => ⟨p, List.mem_cons_self, hensures.holds hviolations⟩⟩
    | cons violation rest =>
      obtain ⟨b, haccepts, hb⟩ := ih
      refine ⟨b, haccepts, fun htrue => ?_⟩
      obtain ⟨p, hp, hv⟩ := hb htrue
      exact ⟨p, List.mem_cons_of_mem _ hp, hv⟩

theorem ensures_anyOf {schemas : List Schema} {ps : List (Value → Prop)}
    (h : List.Forall₂ Ensures schemas ps) : KeywordEnsures (.anyOf schemas) fun v => ∃ p ∈ ps, p v := by
  intro e scope covered v
  obtain ⟨b, haccepts, hb⟩ := anyAccepts_ensures h e scope v
  rw [checkKeyword, haccepts]
  cases b with
  | true => exact Report.ensures_clean (hb rfl)
  | false => exact Report.ensures_fail _

theorem ensures_either {schemas : List Schema} {ps : List (Value → Prop)}
    (h : List.Forall₂ Ensures schemas ps) : Ensures (.either schemas) fun v => ∃ p ∈ ps, p v := by
  refine (ensures_all (.cons (ensures_anyOf h) .nil)).imp fun v hv => ?_
  exact hv _ List.mem_cons_self

theorem ensures_allOf {schemas : List Schema} {ps : List (Value → Prop)}
    (h : List.Forall₂ Ensures schemas ps) : KeywordEnsures (.allOf schemas) fun v => ∀ p ∈ ps, p v := by
  intro e scope covered v
  rw [checkKeyword]
  induction h with
  | nil => rw [checkAll]; exact Report.ensures_clean (by simp)
  | cons hschema _ ih =>
    rw [checkAll]
    exact ((hschema e scope v).andThen ih).imp fun h => List.forall_mem_cons.mpr h

/-- What meets a condition follows the schema behind it. That the test comes to its end has to be
known of all values, that it lets a value pass only of those that meet the condition. -/
theorem ensures_conditional {test yes : Schema} (htest : Ensures test fun _ => True)
    (hpass : ∀ e scope v, p v → (check e scope test v).violations = []) (hyes : Ensures yes q) :
    KeywordEnsures (.conditional test yes .always) fun v => p v → q v := by
  intro e scope covered v
  obtain ⟨b, hclean, hb⟩ := (htest e scope v).isClean
  rw [checkKeyword, hclean]
  cases b with
  | true => exact (hyes e scope v).imp fun hq _ => hq
  | false =>
    rw [Report.ofAnswer, if_neg (by decide), check]
    refine Report.ensures_clean fun hp => ?_
    cases hb.mpr (hpass e scope v hp)

theorem accepting_ensures {alternatives : List (Value × Schema)}
    (h : ∀ alternative ∈ alternatives, Ensures alternative.2 fun _ => True) (e : Surroundings)
    (scope : Scope) (v : Value) : ∃ found, accepting e scope alternatives v = .ok found := by
  induction alternatives with
  | nil => exact ⟨[], by rw [accepting]⟩
  | cons alternative rest ih =>
    obtain ⟨hfirst, hrest⟩ := List.forall_mem_cons.mp h
    obtain ⟨b, hclean, -⟩ := (hfirst e scope v).isClean
    obtain ⟨found, hfound⟩ := ih hrest
    rw [accepting, hclean, hfound]
    exact ⟨_, rfl⟩

/-- A keyword that counts the schemas that accept a value comes to its end. -/
theorem ensures_oneOf {alternatives : List (Value × Schema)}
    (h : ∀ alternative ∈ alternatives, Ensures alternative.2 fun _ => True) :
    KeywordEnsures (.oneOf alternatives) fun _ => True := by
  intro e scope covered v
  rw [checkKeyword]
  induction alternatives with
  | nil => rw [checkOne]; exact Report.ensures_fail _
  | cons alternative rest ih =>
    obtain ⟨hfirst, hrest⟩ := List.forall_mem_cons.mp h
    rw [checkOne, (hfirst e scope v).violations?]
    cases (check e scope alternative.2 v).violations with
    | nil =>
      obtain ⟨found, hfound⟩ := accepting_ensures hrest e scope v
      rw [hfound]
      dsimp only [Report.ofAnswer]
      rw [severalMatch]
      split
      · exact Report.ensures_clean trivial
      · exact Report.ensures_fail _
    | cons violation more => exact ih hrest

end Schema

end FlowTemplate
