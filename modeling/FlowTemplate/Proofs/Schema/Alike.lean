import FlowTemplate.Proofs.Schema.Ensures
/-!
# Values that a schema does not tell apart

Where a value takes the place of another in a part of a mapping or of a list, most keywords have the
same to say as before, up to the texts of their messages: those that do not speak of the part, and
those whose schemas for the part do not tell the two values apart. Conversely, what a schema lets
pass in a whole it lets pass in each part that it speaks of.
-/

namespace FlowTemplate.Schema

/-! ## Reports that agree -/

namespace Report

/-- Two reports end alike, and both have violations or none has. -/
structure Agrees (r s : Report) : Prop where
  fault : r.fault = s.fault
  clean : r.violations = [] ↔ s.violations = []

/-- A report that comes to its end without a violation. -/
structure Passes (r : Report) : Prop where
  fault : r.fault = none
  clean : r.violations = []

variable {r s : Report} {next next' : Unit → Report}

theorem Agrees.refl (r : Report) : r.Agrees r := ⟨rfl, Iff.rfl⟩

theorem agrees_fail (message message' : String) : (fail message).Agrees (fail message') :=
  ⟨rfl, iff_of_false (List.cons_ne_nil _ _) (List.cons_ne_nil _ _)⟩

theorem agrees_expect (ok : Bool) (v w : Value) (message message' : String) :
    (expect ok v message).Agrees (expect ok w message') := by
  cases ok
  · exact agrees_fail _ _
  · exact .refl _

theorem Agrees.andThen (h : r.Agrees s) (hnext : (next ()).Agrees (next' ())) :
    (r.andThen next).Agrees (s.andThen next') := by
  rw [Report.andThen, Report.andThen, h.fault]
  cases hfault : s.fault with
  | some fault => exact ⟨h.fault, h.clean⟩
  | none =>
    refine ⟨hnext.fault, ?_⟩
    rw [List.append_eq_nil_iff, List.append_eq_nil_iff, h.clean, hnext.clean]

theorem Agrees.under (h : r.Agrees s) (step step' : Step) : (r.under step).Agrees (s.under step') :=
  ⟨h.fault, by rw [Report.under, Report.under, List.map_eq_nil_iff, List.map_eq_nil_iff, h.clean]⟩

theorem Agrees.isClean (h : r.Agrees s) : r.isClean = s.isClean := by
  have hempty : r.violations.isEmpty = s.violations.isEmpty := by
    rw [Bool.eq_iff_iff, List.isEmpty_iff, List.isEmpty_iff]
    exact h.clean
  rw [Report.isClean, Report.isClean, hempty, h.fault]

/-- Of two reports that pass, one is as good as the other. -/
theorem agrees_of_passes (hr : r.Passes) (hs : s.Passes) : r.Agrees s :=
  ⟨hr.fault.trans hs.fault.symm, iff_of_true hr.clean hs.clean⟩

theorem passes_clean : clean.Passes := ⟨rfl, rfl⟩

theorem passes_andThen_iff : (r.andThen next).Passes ↔ r.Passes ∧ (next ()).Passes := by
  rw [Report.andThen]
  cases hfault : r.fault with
  | some fault =>
    refine iff_of_false (fun h => ?_) fun h => ?_
    · cases hfault.symm.trans h.fault
    · cases hfault.symm.trans h.1.fault
  | none =>
    constructor
    · intro h
      obtain ⟨hfirst, hrest⟩ := List.append_eq_nil_iff.mp h.clean
      exact ⟨⟨hfault, hfirst⟩, h.fault, hrest⟩
    · rintro ⟨hfirst, hrest⟩
      exact ⟨hrest.fault, List.append_eq_nil_iff.mpr ⟨hfirst.clean, hrest.clean⟩⟩

theorem passes_under_iff (step : Step) : (r.under step).Passes ↔ r.Passes := by
  constructor
  · exact fun h => ⟨h.fault, List.map_eq_nil_iff.mp h.clean⟩
  · exact fun h => ⟨h.fault, List.map_eq_nil_iff.mpr h.clean⟩

theorem passes_ofParts_iff {α : Type} {check : α → Report} {parts : List α} :
    (ofParts check parts).Passes ↔ ∀ part ∈ parts, (check part).Passes := by
  induction parts with
  | nil => exact iff_of_true passes_clean fun part hpart => absurd hpart List.not_mem_nil
  | cons part rest ih => rw [ofParts, passes_andThen_iff, ih, List.forall_mem_cons]

end Report

/-! ## Values alike -/

/-- A schema does not tell two values apart. -/
def Alike (schema : Schema) (v w : Value) : Prop :=
  ∀ e scope, (check e scope schema v).Agrees (check e scope schema w)

/-- A keyword does not tell two values apart, whatever the keywords beside it speak of. -/
def KeywordAlike (keyword : Keyword) (v w : Value) : Prop :=
  ∀ e scope covered covered',
    (checkKeyword e scope covered keyword v).Agrees (checkKeyword e scope covered' keyword w)

variable {v w x y : Value} {entries : Entries} {vs : List Value} {key : String} {i : Nat}
  {schemas : List Schema} {keywords : List Keyword} {fields : List (String × Schema)}

theorem alike_all (h : ∀ keyword ∈ keywords, KeywordAlike keyword v w) :
    Alike (.all keywords) v w := by
  intro e scope
  rw [check, check]
  generalize (fun _ : Unit => coveredByKeywords e scope keywords v) = covered
  generalize (fun _ : Unit => coveredByKeywords e scope keywords w) = covered'
  induction keywords with
  | nil => rw [checkKeywords, checkKeywords]; exact .refl _
  | cons keyword rest ih =>
    obtain ⟨hkeyword, hrest⟩ := List.forall_mem_cons.mp h
    rw [checkKeywords, checkKeywords]
    exact (hkeyword e scope covered covered').andThen (ih hrest)

theorem alike_type (kinds : List Kind) (h : ∀ kind : Kind, kind.holds v = kind.holds w) :
    KeywordAlike (.type kinds) v w := by
  intro e scope covered covered'
  rw [checkKeyword, checkKeyword]
  simp only [h]
  exact Report.agrees_expect _ _ _ _ _

theorem alike_ofKind (kind : Kind) (h : ∀ kind : Kind, kind.holds v = kind.holds w) :
    Alike (.ofKind kind) v w :=
  alike_all (List.forall_mem_singleton.mpr (alike_type [kind] h))

theorem agrees_atLeast {size : Option Nat} (n : Nat) (message : String) :
    (atLeast v size n message).Agrees (atLeast w size n message) := by
  cases size with
  | none => exact .refl _
  | some m => exact Report.agrees_expect _ _ _ _ _

theorem alike_minItems (n : Nat) (h : itemCount? v = itemCount? w) :
    KeywordAlike (.minItems n) v w := by
  intro e scope covered covered'
  rw [checkKeyword, checkKeyword, h]
  exact agrees_atLeast n _

theorem alike_minProperties (n : Nat) (h : entryCount? v = entryCount? w) :
    KeywordAlike (.minProperties n) v w := by
  intro e scope covered covered'
  rw [checkKeyword, checkKeyword, h]
  exact agrees_atLeast n _

/-! ## Schemas of the whole value -/

theorem alike_allOf (h : ∀ schema ∈ schemas, Alike schema v w) :
    KeywordAlike (.allOf schemas) v w := by
  intro e scope covered covered'
  rw [checkKeyword, checkKeyword]
  induction schemas with
  | nil => rw [checkAll, checkAll]; exact .refl _
  | cons schema rest ih =>
    obtain ⟨hschema, hrest⟩ := List.forall_mem_cons.mp h
    rw [checkAll, checkAll]
    exact (hschema e scope).andThen (ih hrest)

theorem alike_conditional {test yes : Schema} (htest : Alike test v w) (hyes : Alike yes v w) :
    KeywordAlike (.conditional test yes .always) v w := by
  intro e scope covered covered'
  rw [checkKeyword, checkKeyword, (htest e scope).isClean]
  cases (check e scope test w).isClean with
  | error fault => exact .refl _
  | ok accepted =>
    cases accepted with
    | true => exact hyes e scope
    | false =>
      dsimp only [Report.ofAnswer]
      rw [if_neg Bool.false_ne_true, if_neg Bool.false_ne_true, check, check]
      exact .refl _

theorem anyAccepts_alike (h : ∀ schema ∈ schemas, Alike schema v w) (e : Surroundings)
    (scope : Scope) : anyAccepts e scope schemas v = anyAccepts e scope schemas w := by
  induction schemas with
  | nil => rw [anyAccepts, anyAccepts]
  | cons schema rest ih =>
    obtain ⟨hschema, hrest⟩ := List.forall_mem_cons.mp h
    have hagrees := hschema e scope
    rw [anyAccepts, anyAccepts, Report.violations?, Report.violations?, hagrees.fault, ih hrest]
    cases (check e scope schema w).fault with
    | some fault => rfl
    | none =>
      have hclean := hagrees.clean
      cases hv : (check e scope schema v).violations <;>
        cases hw : (check e scope schema w).violations <;> simp_all

theorem alike_anyOf (h : ∀ schema ∈ schemas, Alike schema v w) :
    KeywordAlike (.anyOf schemas) v w := by
  intro e scope covered covered'
  rw [checkKeyword, checkKeyword, anyAccepts_alike h]
  cases anyAccepts e scope schemas w with
  | error fault => exact .refl _
  | ok ok =>
    cases ok
    · exact Report.agrees_fail _ _
    · exact .refl _

theorem accepting_alike {alternatives : List (Value × Schema)}
    (h : ∀ alternative ∈ alternatives, Alike alternative.2 v w) (e : Surroundings) (scope : Scope) :
    accepting e scope alternatives v = accepting e scope alternatives w := by
  induction alternatives with
  | nil => rw [accepting, accepting]
  | cons alternative rest ih =>
    obtain ⟨hfirst, hrest⟩ := List.forall_mem_cons.mp h
    rw [accepting, accepting, (hfirst e scope).isClean, ih hrest]

theorem agrees_severalMatch (first : Value) (more : List Value) :
    (severalMatch v first more).Agrees (severalMatch w first more) := by
  rw [severalMatch, severalMatch]
  by_cases hmore : more.isEmpty = true
  · rw [if_pos hmore, if_pos hmore]
    exact .refl _
  · rw [if_neg hmore, if_neg hmore]
    exact Report.agrees_fail _ _

theorem alike_oneOf {alternatives : List (Value × Schema)}
    (h : ∀ alternative ∈ alternatives, Alike alternative.2 v w) :
    KeywordAlike (.oneOf alternatives) v w := by
  intro e scope covered covered'
  rw [checkKeyword, checkKeyword]
  induction alternatives with
  | nil => rw [checkOne, checkOne]; exact Report.agrees_fail _ _
  | cons alternative rest ih =>
    obtain ⟨hfirst, hrest⟩ := List.forall_mem_cons.mp h
    have hagrees := hfirst e scope
    rw [checkOne, checkOne, Report.violations?, Report.violations?, hagrees.fault]
    cases (check e scope alternative.2 w).fault with
    | some fault => exact .refl _
    | none =>
      cases hv : (check e scope alternative.2 v).violations with
      | nil =>
        rw [hagrees.clean.mp hv]
        dsimp only
        rw [accepting_alike hrest]
        cases accepting e scope rest w with
        | error fault => exact .refl _
        | ok more => exact agrees_severalMatch alternative.1 more
      | cons first others =>
        cases hw : (check e scope alternative.2 w).violations with
        | nil => cases hv.symm.trans (hagrees.clean.mpr hw)
        | cons first' others' => exact ih hrest

/-! ## Parts -/

/-- Parts one after the other that are held against the same schema. -/
theorem agrees_inParts {check : Value → Report} {parts parts' : List (Step × Value)}
    (h : List.Forall₂ (fun v w => (check v).Agrees (check w))
      (parts.map Prod.snd) (parts'.map Prod.snd)) :
    (inParts check parts).Agrees (inParts check parts') := by
  rw [List.forall₂_map_left_iff, List.forall₂_map_right_iff] at h
  rw [inParts, inParts]
  induction h with
  | nil => exact .refl _
  | cons hpart _ ih =>
    rw [Report.ofParts, Report.ofParts]
    exact (hpart.under _ _).andThen ih

theorem forall₂_set {α : Type} {r : α → α → Prop} (hrefl : ∀ a, r a a) {as : List α} {a b : α}
    (ha : as[i]? = some a) (hab : r a b) : List.Forall₂ r as (as.set i b) := by
  induction as generalizing i with
  | nil => cases ha
  | cons first rest ih =>
    cases i with
    | zero =>
      obtain rfl := Option.some.inj ha
      exact .cons hab (List.forall₂_same.mpr fun a _ => hrefl a)
    | succ i => exact .cons (hrefl first) (ih ha)

theorem checkKeyword_items (e : Surroundings) (scope : Scope)
    (covered : Unit → Except Fault (List Step)) (v : Value) :
    checkKeyword e scope covered (.items 0 (.all keywords)) v =
      inParts (check e scope (.all keywords)) (itemParts 0 v) := by
  rw [checkKeyword]
  intro hnever
  cases hnever

/-- Items among which one takes the place of another that the schema does not tell from it. -/
theorem alike_items (hx : vs[i]? = some x) (h : Alike (.all keywords) x y) :
    KeywordAlike (.items 0 (.all keywords)) (.list vs) (.list (vs.set i y)) := by
  intro e scope covered covered'
  rw [checkKeyword_items, checkKeyword_items]
  refine agrees_inParts ?_
  rw [map_itemParts, map_itemParts]
  exact forall₂_set (fun v => .refl _) hx (h e scope)

/-! ## Fields -/

theorem contains_insert (hx : entries.find? key = some x) (name : String) :
    (entries.insert (.str key) y).contains name = entries.contains name := by
  rw [Entries.contains, Entries.contains, Entries.find?_insert]
  by_cases hname : name = key
  · rw [if_pos hname, hname, hx]
    rfl
  · rw [if_neg hname]

/-- Names are required of keys only. -/
theorem alike_required (names : List String) (hx : entries.find? key = some x) :
    KeywordAlike (.required names) (.map entries) (.map (entries.insert (.str key) y)) := by
  intro e scope covered covered'
  have hlacking : lacking names (.map (entries.insert (.str key) y)) =
      lacking names (.map entries) := by
    rw [lacking, lacking]
    exact List.filter_congr fun name _ => by rw [contains_insert hx]
  rw [checkKeyword, checkKeyword, checkRequired, checkRequired, hlacking]
  exact .refl _

/-- Fields among which a value takes the place of another that the schemas for it do not tell from
it. -/
theorem alike_properties (hx : entries.find? key = some x)
    (h : ∀ field ∈ fields, field.1 = key → Alike field.2 x y) :
    KeywordAlike (.properties fields) (.map entries) (.map (entries.insert (.str key) y)) := by
  intro e scope covered covered'
  rw [checkKeyword, checkKeyword]
  induction fields with
  | nil => rw [checkFields, checkFields]; exact .refl _
  | cons field rest ih =>
    obtain ⟨hfield, hrest⟩ := List.forall_mem_cons.mp h
    obtain ⟨name, schema⟩ := field
    rw [checkFields, checkFields, fieldPart_map, fieldPart_map, Entries.find?_insert]
    refine Report.Agrees.andThen ?_ (ih hrest)
    by_cases hname : name = key
    · rw [if_pos hname, hname, hx]
      exact agrees_inParts (.cons (hfield hname e scope) .nil)
    · rw [if_neg hname]
      exact .refl _

/-! ## What passes in the whole passes in its parts -/

variable {e : Surroundings} {scope : Scope} {covered : Unit → Except Fault (List Step)}

theorem passes_of_all (h : (check e scope (.all keywords) v).Passes) {keyword : Keyword}
    (hmem : keyword ∈ keywords) : ∃ covered, (checkKeyword e scope covered keyword v).Passes := by
  rw [check] at h
  generalize (fun _ : Unit => coveredByKeywords e scope keywords v) = covered at h
  refine ⟨covered, ?_⟩
  induction keywords with
  | nil => cases hmem
  | cons first rest ih =>
    rw [checkKeywords, Report.passes_andThen_iff] at h
    rcases List.mem_cons.mp hmem with rfl | hmem
    · exact h.1
    · exact ih hmem h.2

/-- A schema that begins with the kinds of a value lets pass what is of such a kind only. -/
theorem holds_of_passes {kinds : List Kind}
    (h : (check e scope (.all (.type kinds :: keywords)) v).Passes) :
    ∃ kind ∈ kinds, kind.holds v = true := by
  obtain ⟨covered, htype⟩ := passes_of_all h List.mem_cons_self
  exact (ensures_type kinds e scope covered v).holds htype.clean

theorem passes_of_anyOf (h : (checkKeyword e scope covered (.anyOf schemas) v).Passes) :
    ∃ schema ∈ schemas, (check e scope schema v).Passes := by
  rw [checkKeyword] at h
  induction schemas with
  | nil =>
    rw [anyAccepts] at h
    cases h.clean
  | cons first rest ih =>
    rw [anyAccepts, Report.violations?] at h
    cases hfault : (check e scope first v).fault with
    | some fault =>
      rw [hfault] at h
      cases h.fault
    | none =>
      rw [hfault] at h
      cases hviolations : (check e scope first v).violations with
      | nil => exact ⟨first, List.mem_cons_self, hfault, hviolations⟩
      | cons violation more =>
        rw [hviolations] at h
        obtain ⟨schema, hschema, hpasses⟩ := ih h
        exact ⟨schema, List.mem_cons_of_mem _ hschema, hpasses⟩

theorem passes_of_allOf (h : (checkKeyword e scope covered (.allOf schemas) v).Passes)
    {schema : Schema} (hmem : schema ∈ schemas) : (check e scope schema v).Passes := by
  rw [checkKeyword] at h
  induction schemas with
  | nil => cases hmem
  | cons first rest ih =>
    rw [checkAll, Report.passes_andThen_iff] at h
    rcases List.mem_cons.mp hmem with rfl | hmem
    · exact h.1
    · exact ih h.2 hmem

theorem passes_of_conditional {test yes no : Schema}
    (h : (checkKeyword e scope covered (.conditional test yes no) v).Passes)
    (htest : (check e scope test v).Passes) : (check e scope yes v).Passes := by
  have haccepted : (check e scope test v).isClean = .ok true := by
    rw [Report.isClean, htest.clean, htest.fault]
    rfl
  rwa [checkKeyword, haccepted, Report.ofAnswer, if_pos rfl] at h

theorem passes_of_properties
    (h : (checkKeyword e scope covered (.properties fields) (.map entries)).Passes)
    {schema : Schema} (hmem : (key, schema) ∈ fields) (hx : entries.find? key = some x) :
    (check e scope schema x).Passes := by
  rw [checkKeyword] at h
  induction fields with
  | nil => cases hmem
  | cons first rest ih =>
    rw [checkFields, Report.passes_andThen_iff] at h
    rcases List.mem_cons.mp hmem with rfl | hmem
    · have hpart : (Step.key (.str key), x) ∈ fieldPart key (.map entries) := by
        rw [fieldPart_map, hx]
        exact List.mem_singleton.mpr rfl
      exact (Report.passes_under_iff _).mp (Report.passes_ofParts_iff.mp h.1 _ hpart)
    · exact ih h.2 hmem

theorem passes_of_items
    (h : (checkKeyword e scope covered (.items 0 (.all keywords)) (.list vs)).Passes)
    (hx : x ∈ vs) : (check e scope (.all keywords) x).Passes := by
  rw [checkKeyword_items] at h
  rw [← map_itemParts vs] at hx
  obtain ⟨part, hpart, rfl⟩ := List.mem_map.mp hx
  exact (Report.passes_under_iff _).mp (Report.passes_ofParts_iff.mp h part hpart)

end FlowTemplate.Schema
