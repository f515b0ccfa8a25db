import FlowTemplate.Proofs.Schema.Alike
import FlowTemplate.Proofs.Schema.Location
import FlowTemplate.Proofs.Schema.Sorted
/-!
# Checks that ignore the order of keys

Where keys change their places, a check meets the parts of a value in another order. So it can break
off at another part, and find other violations before. But it comes to its end, and passes, for the
same data, if its schema is made of keywords that ask of each part whether it passes and not for more:
whether something is *not* accepted can be answered before a check has come to its end.
-/

namespace FlowTemplate.Schema

/-! ## Reports that end alike -/

namespace Report

/-- Both reports come to their end, or none, and both pass, or none. -/
structure EndsLike (r s : Report) : Prop where
  finishes : r.fault = none ↔ s.fault = none
  passes : r.Passes ↔ s.Passes

variable {r s : Report} {next next' : Unit → Report}

theorem EndsLike.refl (r : Report) : r.EndsLike r := ⟨Iff.rfl, Iff.rfl⟩

theorem EndsLike.symm (h : r.EndsLike s) : s.EndsLike r := ⟨h.finishes.symm, h.passes.symm⟩

theorem EndsLike.trans {t : Report} (h : r.EndsLike s) (h' : s.EndsLike t) : r.EndsLike t :=
  ⟨h.finishes.trans h'.finishes, h.passes.trans h'.passes⟩

theorem Agrees.endsLike (h : r.Agrees s) : r.EndsLike s := by
  refine ⟨by rw [h.fault], fun hr => ?_, fun hs => ?_⟩
  · exact ⟨h.fault ▸ hr.fault, h.clean.mp hr.clean⟩
  · exact ⟨h.fault ▸ hs.fault, h.clean.mpr hs.clean⟩

theorem fault_andThen_eq_none_iff :
    (r.andThen next).fault = none ↔ r.fault = none ∧ (next ()).fault = none := by
  rw [Report.andThen]
  cases hfault : r.fault with
  | some fault => simp [hfault]
  | none => simp

theorem fault_ofParts_eq_none_iff {α : Type} {check : α → Report} {parts : List α} :
    (ofParts check parts).fault = none ↔ ∀ part ∈ parts, (check part).fault = none := by
  induction parts with
  | nil => exact iff_of_true rfl fun part hpart => absurd hpart List.not_mem_nil
  | cons part rest ih => rw [ofParts, fault_andThen_eq_none_iff, ih, List.forall_mem_cons]

theorem EndsLike.andThen (h : r.EndsLike s) (hnext : (next ()).EndsLike (next' ())) :
    (r.andThen next).EndsLike (s.andThen next') := by
  constructor
  · rw [fault_andThen_eq_none_iff, fault_andThen_eq_none_iff, h.finishes, hnext.finishes]
  · rw [passes_andThen_iff, passes_andThen_iff, h.passes, hnext.passes]

theorem EndsLike.under (h : r.EndsLike s) (step step' : Step) :
    (r.under step).EndsLike (s.under step') :=
  ⟨h.finishes, by rw [passes_under_iff, passes_under_iff, h.passes]⟩

/-- Parts in another order end alike, if each of them does. -/
theorem endsLike_ofParts {α β : Type} {check : α → Report} {check' : β → Report} {parts : List α}
    {parts' : List β} {f : α → β} (hperm : parts'.Perm (parts.map f))
    (h : ∀ part ∈ parts, (check part).EndsLike (check' (f part))) :
    (ofParts check parts).EndsLike (ofParts check' parts') := by
  have hforall (p : Report → Prop) (hp : ∀ part ∈ parts, p (check part) ↔ p (check' (f part))) :
      (∀ part ∈ parts, p (check part)) ↔ ∀ part ∈ parts', p (check' part) := by
    simp only [hperm.mem_iff, List.forall_mem_map]
    exact forall₂_congr hp
  constructor
  · rw [fault_ofParts_eq_none_iff, fault_ofParts_eq_none_iff]
    exact hforall (·.fault = none) fun part hpart => (h part hpart).finishes
  · rw [passes_ofParts_iff, passes_ofParts_iff]
    exact hforall Passes fun part hpart => (h part hpart).passes

/-- A question that two reports answer alike, if they answer it. -/
theorem endsLike_ofAnswer {α : Type} {answer answer' : Except Fault α} {next next' : α → Report}
    (h : answer.toOption = answer'.toOption) (hnext : ∀ a, (next a).EndsLike (next' a)) :
    (ofAnswer answer next).EndsLike (ofAnswer answer' next') := by
  cases answer with
  | error fault =>
    cases answer' with
    | error fault' =>
      exact ⟨iff_of_false (Option.some_ne_none _) (Option.some_ne_none _),
        iff_of_false (fun h => Option.some_ne_none _ h.fault) fun h => Option.some_ne_none _ h.fault⟩
    | ok a => cases h
  | ok a =>
    cases answer' with
    | error fault => cases h
    | ok b =>
      obtain rfl := Option.some.inj h
      exact hnext a

/-- Of reports that end alike, both break off, or pass, or find violations. -/
theorem EndsLike.cases (h : r.EndsLike s) :
    (∃ fault fault', r.violations? = .error fault ∧ s.violations? = .error fault') ∨
    (r.violations? = .ok [] ∧ s.violations? = .ok []) ∨
    ∃ a as b bs, r.violations? = .ok (a :: as) ∧ s.violations? = .ok (b :: bs) := by
  rw [Report.violations?, Report.violations?]
  cases hr : r.fault with
  | some fault =>
    cases hs : s.fault with
    | some fault' => exact .inl ⟨fault, fault', rfl, rfl⟩
    | none => exact absurd (h.finishes.mpr hs) (by rw [hr]; exact Option.some_ne_none fault)
  | none =>
    rw [h.finishes.mp hr]
    cases hv : r.violations with
    | nil => exact .inr (.inl ⟨rfl, by rw [(h.passes.mp ⟨hr, hv⟩).clean]⟩)
    | cons a as =>
      cases hw : s.violations with
      | nil =>
        have hclean := (h.passes.mpr ⟨h.finishes.mp hr, hw⟩).clean
        exact absurd hclean (by rw [hv]; exact List.cons_ne_nil a as)
      | cons b bs => exact .inr (.inr ⟨a, as, b, bs, rfl, rfl⟩)

end Report

variable {P : String → Prop} {v : Value} {e : Surroundings} {scope : Scope}
  {covered covered' : Unit → Except Fault (List Step)}

/-- A check ends alike for data and for the same data sorted. -/
def IgnoresOrder (P : String → Prop) (check : Value → Report) : Prop :=
  ∀ v : Value, v.IsJson P → (check v).EndsLike (check (sorted v))

/-- Data that are the same when they are sorted end alike. -/
theorem IgnoresOrder.endsLike {check : Value → Report} (h : IgnoresOrder P check) {w : Value}
    (hv : v.IsJson P) (hw : w.IsJson P) (hsame : sorted v = sorted w) :
    (check v).EndsLike (check w) :=
  (h v hv).trans (hsame ▸ (h w hw).symm)

/-! ## What is asked of data -/

theorem holds_sorted (kind : Kind) (h : v.IsJson P) : kind.holds (sorted v) = kind.holds v := by
  cases h with
  | atom h => rfl
  | list h => cases kind <;> simp [Kind.holds, Value.bare]
  | map hkeys htexts h => cases kind <;> simp [Kind.holds, Value.bare]

theorem numberOf?_sorted (h : v.IsJson P) : numberOf? (sorted v) = numberOf? v := by
  cases h <;> simp [numberOf?, Value.bare]

theorem text?_sorted (h : v.IsJson P) : text? (sorted v) = text? v := by
  cases h <;> simp [text?, Value.bare, Value.str?]

theorem items?_sorted (h : v.IsJson P) :
    items? (sorted v) = (items? v).map (List.map sorted) := by
  cases h <;> simp [items?, Value.bare]

theorem entries?_sorted (h : v.IsJson P) :
    (sorted v).entries? = v.entries?.map Entries.sorted := by
  cases h <;> simp [Value.entries?, Value.bare]

theorem isJson_of_items? (h : v.IsJson P) {items : List Value} (hitems : items? v = some items) :
    ∀ w ∈ items, w.IsJson P := by
  cases h with
  | atom h => cases hitems
  | list h => exact Option.some.inj hitems ▸ h
  | map hkeys htexts h => cases hitems

theorem isJson_of_entries? (h : v.IsJson P) {entries : Entries}
    (hentries : v.entries? = some entries) : (Value.map entries).IsJson P := by
  rw [Value.entries?, Value.bare_of_isTree h.isTree] at hentries
  cases h with
  | atom h => cases hentries
  | list h => cases hentries
  | map hkeys htexts h => exact Option.some.inj hentries ▸ .map hkeys htexts h

theorem itemCount?_sorted (h : v.IsJson P) : itemCount? (sorted v) = itemCount? v := by
  rw [itemCount?, itemCount?, items?_sorted h, Option.map_map]
  exact congrArg (Option.map · _) (funext fun items => List.length_map _)

theorem has_sorted (name : String) (h : v.IsJson P) : has name (sorted v) = has name v := by
  rw [has, has, entries?_sorted h]
  cases hentries : v.entries? with
  | none => rfl
  | some entries => exact Entries.contains_sorted (isJson_of_entries? h hentries).nodup name

theorem lacking_sorted (names : List String) (h : v.IsJson P) :
    lacking names (sorted v) = lacking names v := by
  rw [lacking, lacking, entries?_sorted h]
  cases hentries : v.entries? with
  | none => rfl
  | some entries =>
    refine List.filter_congr fun name _ => congrArg not ?_
    exact Entries.contains_sorted (isJson_of_entries? h hentries).nodup name

theorem sameMeaning_atom_sorted (a : Atom) (h : v.IsJson P) :
    (Value.atom a).sameMeaning (sorted v) = (Value.atom a).sameMeaning v := by
  cases h <;> simp [Value.sameMeaning, Value.bare]

/-! ## Parts -/

/-- What data lead to are data. -/
theorem Leads.isJson {path : List Step} {w : Value} (h : Leads v path w) (hv : v.IsJson P) :
    w.IsJson P := by
  induction h with
  | here => exact hv
  | item hitems hw _ ih => exact ih (isJson_of_items? hv hitems _ (List.mem_of_getElem? hw))
  | entry hentries hw _ ih => exact ih ((isJson_of_entries? hv hentries).of_mem_map hw)

/-- A part with the value in it sorted. -/
def sortedPart (part : Step × Value) : Step × Value := (part.1, sorted part.2)

theorem itemParts_sorted (skip : Nat) (h : v.IsJson P) :
    itemParts skip (sorted v) = (itemParts skip v).map sortedPart := by
  rw [itemParts, itemParts, items?_sorted h, List.map_drop]
  refine congrArg (List.drop skip) (List.ext_getElem? fun i => ?_)
  cases items? v with
  | none => rfl
  | some items => simp [sortedPart, Function.comp_def]

theorem fieldPart_sorted (name : String) (h : v.IsJson P) :
    fieldPart name (sorted v) = (fieldPart name v).map sortedPart := by
  rw [fieldPart, fieldPart, entries?_sorted h]
  cases hentries : v.entries? with
  | none => rfl
  | some entries =>
    simp only [Option.map_some, Option.bind_some,
      Entries.find?_sorted (isJson_of_entries? h hentries).nodup]
    cases Entries.find? entries name <;> rfl

theorem parts_extras_sorted (known : List String) (h : v.IsJson P) :
    (parts (extras known (sorted v))).Perm ((parts (extras known v)).map sortedPart) := by
  rw [extras, extras, entries?_sorted h]
  cases v.entries? with
  | none => exact .refl _
  | some entries =>
    have hperm := ((Entries.sorted_perm entries).filter fun entry => !isNamed known entry.1).map
      fun entry => ((.key entry.1, entry.2) : Step × Value)
    rw [List.filter_map, List.map_map] at hperm
    rw [parts, parts, List.map_map]
    exact hperm

/-- Sorted parts, in any order, end like the parts themselves. -/
theorem endsLike_inParts {check : Value → Report} {parts parts' : List (Step × Value)}
    (h : IgnoresOrder P check) (hv : v.IsJson P) (hperm : parts'.Perm (parts.map sortedPart))
    (hparts : ∀ part ∈ parts, IsPart v part) :
    (inParts check parts).EndsLike (inParts check parts') :=
  Report.endsLike_ofParts hperm fun part hpart =>
    (h part.2 ((hparts part hpart).isJson hv)).under _ _

/-! ## Keywords -/

/-- A keyword ends alike for data and for the same data sorted, whatever the keywords beside it speak
of. -/
def KeywordIgnoresOrder (P : String → Prop) (e : Surroundings) (scope : Scope) (keyword : Keyword) :
    Prop :=
  ∀ v covered covered', v.IsJson P →
    (checkKeyword e scope covered keyword v).EndsLike
      (checkKeyword e scope covered' keyword (sorted v))

theorem endsLike_expect (ok : Bool) (v w : Value) (message message' : String) :
    (expect ok v message).EndsLike (expect ok w message') :=
  (Report.agrees_expect ok v w message message').endsLike

theorem ignoresOrder_compare (bound : Atom) (ok : Quantity → Quantity → Bool) (message : String) :
    IgnoresOrder P fun v => compare v bound ok message := by
  intro v hv
  dsimp only
  rw [Schema.compare, Schema.compare, numberOf?_sorted hv]
  split
  · exact endsLike_expect _ _ _ _ _
  · exact .refl _

theorem ignoresOrder_checkPattern (source : String) (p : Pattern) :
    IgnoresOrder P (checkPattern source p) := by
  intro v hv
  rw [checkPattern, checkPattern, text?_sorted hv]
  cases text? v with
  | none => exact .refl _
  | some s => exact endsLike_expect _ _ _ _ _

theorem ignoresOrder_checkPatternText : IgnoresOrder P checkPatternText := by
  intro v hv
  rw [checkPatternText, checkPatternText, text?_sorted hv]
  cases text? v with
  | none => exact .refl _
  | some s =>
    dsimp only
    split
    · exact .refl _
    · exact (Report.agrees_fail _ _).endsLike
    · exact .refl _

theorem endsLike_uniqueItems (hv : v.IsJson P) :
    (checkKeyword e scope covered .uniqueItems v).EndsLike
      (checkKeyword e scope covered' .uniqueItems (sorted v)) := by
  rw [checkKeyword, checkKeyword, items?_sorted hv]
  cases hitems : items? v with
  | none => exact .refl _
  | some items =>
    rw [Option.map_some]
    dsimp only
    rw [Value.areDistinct_sorted (isJson_of_items? hv hitems)]
    exact endsLike_expect _ _ _ _ _

theorem ignoresOrder_checkRequiredFields (names : List String) :
    IgnoresOrder P (checkRequiredFields names) := by
  intro v hv
  rw [checkRequiredFields, checkRequiredFields, checkRequired, checkRequired, lacking_sorted names hv]
  exact .refl _

theorem ignoresOrder_checkDependent (name : String) (needed : List String) :
    IgnoresOrder P (checkDependent name needed) := by
  intro v hv
  rw [checkDependent, checkDependent, has_sorted name hv, lacking_sorted needed hv]
  exact .refl _

theorem endsLike_enum {values : List Value} (h : ∀ value ∈ values, ∃ a, value = .atom a)
    (hv : v.IsJson P) : (checkKeyword e scope covered (.enum values) v).EndsLike
      (checkKeyword e scope covered' (.enum values) (sorted v)) := by
  have hany : (values.any fun w => w.sameMeaning (sorted v)) =
      values.any fun w => w.sameMeaning v := by
    rw [Bool.eq_iff_iff, List.any_eq_true, List.any_eq_true]
    refine exists_congr fun w => and_congr_right fun hw => ?_
    obtain ⟨a, rfl⟩ := h w hw
    rw [sameMeaning_atom_sorted a hv]
  rw [checkKeyword, checkKeyword, hany]
  exact endsLike_expect _ _ _ _ _

/-- The names of a mapping are held against a schema in another order. -/
theorem endsLike_propertyNames {schema : Schema} (h : IgnoresOrder P (check e scope schema))
    (hv : v.IsJson P) : (checkKeyword e scope covered (.propertyNames schema) v).EndsLike
      (checkKeyword e scope covered' (.propertyNames schema) (sorted v)) := by
  rw [checkKeyword, checkKeyword, entries?_sorted hv]
  cases hentries : v.entries? with
  | none => exact .refl _
  | some entries =>
    refine Report.endsLike_ofParts (f := id) ?_ fun key hkey => ?_
    · rw [List.map_id]
      exact Entries.keys_sorted_perm entries
    · obtain ⟨entry, hentry, rfl⟩ := List.mem_map.mp hkey
      exact h (.atom entry.1) ((isJson_of_entries? hv hentries).key hentry)

/-! ## Schemas -/

/-- Whether a schema accepts something. -/
def tries : Schema → Bool
  | .never => false
  | _ => true

mutual

/-- Whether a schema is made of keywords that ask of parts whether they pass, and has no references
but some. -/
def isSteady (links : List Link) : Schema → Bool
  | .always => true
  | .all keywords => areSteady links keywords
  | .never | .within .. => false

def areSteady (links : List Link) : List Keyword → Bool
  | [] => true
  | keyword :: rest => keywordIsSteady links keyword && areSteady links rest

def keywordIsSteady (links : List Link) : Keyword → Bool
  | .type _ | .minimum _ | .exclusiveMinimum _ | .pattern .. | .patternText | .minItems _
  | .uniqueItems | .requiredFields _ | .dependent .. => true
  | .enum values => values.all fun value => match value with
    | .atom _ => true
    | _ => false
  | .typeOrSchema fields | .properties fields => fieldsAreSteady links fields
  | .items _ schema | .additional _ schema => schema.tries && isSteady links schema
  | .eachItem schema | .propertyNames schema => isSteady links schema
  | .allOf schemas | .anyOf schemas => schemasAreSteady links schemas
  | .reference link => links.contains link
  | _ => false

def fieldsAreSteady (links : List Link) : List (String × Schema) → Bool
  | [] => true
  | (_, schema) :: rest => isSteady links schema && fieldsAreSteady links rest

def schemasAreSteady (links : List Link) : List Schema → Bool
  | [] => true
  | schema :: rest => isSteady links schema && schemasAreSteady links rest

end

theorem checkKeyword_items_of_tries {schema : Schema} (h : schema.tries = true) (skip : Nat)
    (v : Value) : checkKeyword e scope covered (.items skip schema) v =
      inParts (check e scope schema) (itemParts skip v) := by
  rw [checkKeyword]
  rintro rfl
  cases h

theorem checkKeyword_additional_of_tries {schema : Schema} (h : schema.tries = true)
    (known : List String) (v : Value) :
    checkKeyword e scope covered (.additional known schema) v =
      inParts (check e scope schema) (parts (extras known v)) := by
  rw [checkKeyword]
  rintro rfl
  cases h

section Check

/-- What some references lead to ignores the order of keys. -/
def Surroundings.IgnoreOrder (P : String → Prop) (e : Surroundings) (scope : Scope)
    (links : List Link) : Prop :=
  ∀ link ∈ links, IgnoresOrder P (e.follow scope link)

variable {links : List Link}

mutual

theorem ignoresOrder_check (he : e.IgnoreOrder P scope links) : (schema : Schema) →
    isSteady links schema = true → IgnoresOrder P (check e scope schema)
  | .always, _, v, _ => by rw [check, check]; exact .refl _
  | .all keywords, h, v, hv => by
    rw [check, check]
    exact ignoresOrder_checkKeywords he keywords h v _ _ hv
  | .never, h, _, _ | .within .., h, _, _ => by cases h

theorem ignoresOrder_checkKeywords (he : e.IgnoreOrder P scope links) :
    (keywords : List Keyword) → areSteady links keywords = true → ∀ v covered covered', v.IsJson P →
      (checkKeywords e scope covered keywords v).EndsLike
        (checkKeywords e scope covered' keywords (sorted v))
  | [], _, v, _, _, _ => by rw [checkKeywords, checkKeywords]; exact .refl _
  | keyword :: rest, h, v, covered, covered', hv => by
    rw [areSteady, Bool.and_eq_true] at h
    rw [checkKeywords, checkKeywords]
    exact (keywordIgnoresOrder he keyword h.1 v covered covered' hv).andThen
      (ignoresOrder_checkKeywords he rest h.2 v covered covered' hv)

theorem keywordIgnoresOrder (he : e.IgnoreOrder P scope links) : (keyword : Keyword) →
    keywordIsSteady links keyword = true → KeywordIgnoresOrder P e scope keyword
  | .type kinds, _, v, _, _, hv => by
    rw [checkKeyword, checkKeyword]
    simp only [holds_sorted _ hv]
    exact endsLike_expect _ _ _ _ _
  | .minimum bound, _, v, _, _, hv | .exclusiveMinimum bound, _, v, _, _, hv => by
    rw [checkKeyword, checkKeyword]
    exact ignoresOrder_compare _ _ _ v hv
  | .pattern source p, _, v, _, _, hv => by
    rw [checkKeyword, checkKeyword]
    exact ignoresOrder_checkPattern source p v hv
  | .patternText, _, v, _, _, hv => by
    rw [checkKeyword, checkKeyword]
    split
    · exact ignoresOrder_checkPatternText v hv
    · exact .refl _
  | .minItems n, _, v, _, _, hv => by
    rw [checkKeyword, checkKeyword, itemCount?_sorted hv]
    exact (agrees_atLeast n _).endsLike
  | .uniqueItems, _, v, _, _, hv => endsLike_uniqueItems hv
  | .requiredFields names, _, v, _, _, hv => by
    rw [checkKeyword, checkKeyword]
    exact ignoresOrder_checkRequiredFields names v hv
  | .dependent name needed, _, v, _, _, hv => by
    rw [checkKeyword, checkKeyword]
    exact ignoresOrder_checkDependent name needed v hv
  | .enum values, h, v, _, _, hv => by
    refine endsLike_enum (fun value hvalue => ?_) hv
    have hatom := List.all_eq_true.mp h value hvalue
    split at hatom
    · exact ⟨_, rfl⟩
    · cases hatom
  | .typeOrSchema alternatives, h, v, _, _, hv => by
    rw [checkKeyword, checkKeyword]
    refine Report.endsLike_ofAnswer (someAlternative_sorted he alternatives h v hv) fun ok => ?_
    exact endsLike_expect _ _ _ _ _
  | .properties fields, h, v, _, _, hv => by
    rw [checkKeyword, checkKeyword]
    exact ignoresOrder_checkFields he fields h v hv
  | .items skip schema, h, v, _, _, hv => by
    rw [keywordIsSteady, Bool.and_eq_true] at h
    rw [checkKeyword_items_of_tries h.1, checkKeyword_items_of_tries h.1]
    exact endsLike_inParts (ignoresOrder_check he schema h.2) hv (itemParts_sorted skip hv ▸ .refl _)
      fun part => isPart_of_mem_itemParts
  | .additional known schema, h, v, _, _, hv => by
    rw [keywordIsSteady, Bool.and_eq_true] at h
    rw [checkKeyword_additional_of_tries h.1, checkKeyword_additional_of_tries h.1]
    exact endsLike_inParts (ignoresOrder_check he schema h.2) hv (parts_extras_sorted known hv)
      fun part => isPart_of_mem_parts (extras_subset known v)
  | .eachItem schema, h, v, _, _, hv => by
    rw [checkKeyword, checkKeyword]
    exact endsLike_inParts (ignoresOrder_check he schema h) hv (itemParts_sorted 0 hv ▸ .refl _)
      fun part => isPart_of_mem_itemParts
  | .propertyNames schema, h, v, _, _, hv =>
    endsLike_propertyNames (ignoresOrder_check he schema h) hv
  | .allOf schemas, h, v, _, _, hv => by
    rw [checkKeyword, checkKeyword]
    exact ignoresOrder_checkAll he schemas h v hv
  | .anyOf schemas, h, v, _, _, hv => by
    rw [checkKeyword, checkKeyword]
    refine Report.endsLike_ofAnswer (anyAccepts_sorted he schemas h v hv) fun ok => ?_
    cases ok
    · exact (Report.agrees_fail _ _).endsLike
    · exact .refl _
  | .reference link, h, v, _, _, hv => by
    rw [checkKeyword, checkKeyword]
    exact he link (List.contains_iff_mem.mp h) v hv

theorem ignoresOrder_checkFields (he : e.IgnoreOrder P scope links) :
    (fields : List (String × Schema)) → fieldsAreSteady links fields = true →
      IgnoresOrder P (checkFields e scope fields)
  | [], _, v, _ => by rw [checkFields, checkFields]; exact .refl _
  | (name, schema) :: rest, h, v, hv => by
    rw [fieldsAreSteady, Bool.and_eq_true] at h
    rw [checkFields, checkFields]
    refine Report.EndsLike.andThen ?_ (ignoresOrder_checkFields he rest h.2 v hv)
    exact endsLike_inParts (ignoresOrder_check he schema h.1) hv (fieldPart_sorted name hv ▸ .refl _)
      fun part => isPart_of_mem_fieldPart

theorem ignoresOrder_checkAll (he : e.IgnoreOrder P scope links) : (schemas : List Schema) →
    schemasAreSteady links schemas = true → IgnoresOrder P (checkAll e scope schemas)
  | [], _, v, _ => by rw [checkAll, checkAll]; exact .refl _
  | schema :: rest, h, v, hv => by
    rw [schemasAreSteady, Bool.and_eq_true] at h
    rw [checkAll, checkAll]
    exact (ignoresOrder_check he schema h.1 v hv).andThen (ignoresOrder_checkAll he rest h.2 v hv)

theorem anyAccepts_sorted (he : e.IgnoreOrder P scope links) : (schemas : List Schema) →
    schemasAreSteady links schemas = true → ∀ v : Value, v.IsJson P →
      (anyAccepts e scope schemas v).toOption = (anyAccepts e scope schemas (sorted v)).toOption
  | [], _, v, _ => by rw [anyAccepts, anyAccepts]
  | schema :: rest, h, v, hv => by
    rw [schemasAreSteady, Bool.and_eq_true] at h
    rw [anyAccepts, anyAccepts]
    rcases (ignoresOrder_check he schema h.1 v hv).cases with
      ⟨_, _, hr, hs⟩ | ⟨hr, hs⟩ | ⟨_, _, _, _, hr, hs⟩
    · rw [hr, hs]; rfl
    · rw [hr, hs]
    · rw [hr, hs]
      exact anyAccepts_sorted he rest h.2 v hv

theorem someAlternative_sorted (he : e.IgnoreOrder P scope links) :
    (alternatives : List (String × Schema)) → fieldsAreSteady links alternatives = true →
      ∀ v : Value, v.IsJson P → (someAlternative e scope alternatives v).toOption =
        (someAlternative e scope alternatives (sorted v)).toOption
  | [], _, v, _ => by rw [someAlternative, someAlternative]
  | (_, schema) :: rest, h, v, hv => by
    rw [fieldsAreSteady, Bool.and_eq_true] at h
    rw [someAlternative, someAlternative]
    rcases (ignoresOrder_check he schema h.1 v hv).cases with
      ⟨_, _, hr, hs⟩ | ⟨hr, hs⟩ | ⟨_, _, _, _, hr, hs⟩
    · rw [hr, hs]; rfl
    · rw [hr, hs]
    · rw [hr, hs]
      exact someAlternative_sorted he rest h.2 v hv

end

end Check

end FlowTemplate.Schema
