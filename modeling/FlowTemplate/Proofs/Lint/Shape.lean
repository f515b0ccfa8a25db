import FlowTemplate.Document.Value
import FlowTemplate.Lint.Shape
import FlowTemplate.Proofs.Number.Whole
import FlowTemplate.Proofs.Schema.Decides
/-!
# What the schemas of the linter decide

Each schema of the linter decides one of the properties that a well-formed definition is made of.
The schemas of a definition and of a state are put together from them, field by field.
-/

/-! ## Well-formed definitions

What a definition has to be, said without schemas: which fields it and its states have and what may
stand under them, that its start and the targets of its states' transitions are states of it, that
each state goes on or ends, and that the definitions nested in it are well formed in turn. Fields
that are not named may hold anything. A whole number may be written as a double without a fraction.
-/

namespace FlowTemplate.Lint

/-! ### Values -/

def IsText (v : Value) : Prop := ∃ s, v = .str s

def IsName (v : Value) : Prop := ∃ s, v = .str s ∧ s ≠ ""

def IsOneOf (names : List String) (v : Value) : Prop := ∃ s ∈ names, v = .str s

def IsTruth (v : Value) : Prop := ∃ b, v = .bool b

def IsMapping (v : Value) : Prop := ∃ entries, v = .map entries

/-- A text, or an intrinsic that yields one. -/
def IsTextOrMapping (v : Value) : Prop := IsText v ∨ IsMapping v

/-- A path into the data of a run; null leaves the data out. -/
def IsPath (v : Value) : Prop := IsText v ∨ v = .null

/-- A value that is a number. -/
def IsNumber (v : Value) (x : Quantity) : Prop := ∃ a, v = .atom a ∧ a.number? = some x

/-- A whole number that is not too small. -/
def IsCount (least : Int) (v : Value) : Prop :=
  ∃ x i, IsNumber v x ∧ x.eq (.ofInt i) = true ∧ least ≤ i

/-- A number that is not less than one. -/
def IsRate (v : Value) : Prop := ∃ x, IsNumber v x ∧ x.lt (.ofInt 1) = false

/-- A number of seconds, or an intrinsic that yields one. -/
def IsSeconds (v : Value) : Prop := IsCount 0 v ∨ IsMapping v

def IsListOf (p : Value → Prop) (v : Value) : Prop := ∃ items, v = .list items ∧ ∀ w ∈ items, p w

def IsNonEmptyListOf (p : Value → Prop) (v : Value) : Prop :=
  ∃ items, v = .list items ∧ items ≠ [] ∧ ∀ w ∈ items, p w

/-- A mapping that is not empty. -/
def IsNonEmptyMapping (v : Value) : Prop := ∃ entries, v = .map entries ∧ entries ≠ []

/-! ### Fields -/

/-- What may stand under some names. -/
abbrev Rules := List (String × (Value → Prop))

/-- Some names are there, and what stands under a name follows its rule. -/
structure HasFields (needed : List String) (rules : Rules) (fields : Entries) : Prop where
  needed : ∀ name ∈ needed, fields.contains name = true
  rules : ∀ rule ∈ rules, ∀ v, fields.find? rule.1 = some v → rule.2 v

def IsRecord (needed : List String) (rules : Rules) (v : Value) : Prop :=
  ∃ fields, v = .map fields ∧ HasFields needed rules fields

def IsErrorNames : Value → Prop := IsNonEmptyListOf IsText

def IsRetrier : Value → Prop :=
  IsRecord ["ErrorEquals"] [
    ("ErrorEquals", IsErrorNames),
    ("IntervalSeconds", IsCount 1),
    ("MaxAttempts", IsCount 0),
    ("BackoffRate", IsRate)]

def IsCatcher : Value → Prop :=
  IsRecord ["ErrorEquals", "Next"] [
    ("ErrorEquals", IsErrorNames), ("Next", IsText), ("ResultPath", IsPath)]

def IsChoiceRule : Value → Prop := IsRecord ["Next"] [("Next", IsText)]

/-- The fields of a definition. -/
def DefinitionFields : Entries → Prop :=
  HasFields ["StartAt", "States"] [
    ("Comment", IsText),
    ("StartAt", IsName),
    ("States", IsNonEmptyMapping),
    ("Version", IsText),
    ("TimeoutSeconds", IsCount 0)]

/-- The rules for the fields that states of all types may have. -/
def commonRules : Rules := [
  ("Type", IsOneOf ["Task", "Pass", "Choice", "Wait", "Succeed", "Fail", "Parallel", "Map"]),
  ("Comment", IsText),
  ("Next", IsName),
  ("End", IsTruth),
  ("InputPath", IsPath),
  ("OutputPath", IsPath),
  ("ResultPath", IsPath),
  ("Parameters", IsMapping),
  ("ResultSelector", IsMapping),
  ("Retry", IsListOf IsRetrier),
  ("Catch", IsListOf IsCatcher),
  ("TimeoutSeconds", IsSeconds),
  ("HeartbeatSeconds", IsSeconds)]

/-- The fields that states of all types have. -/
def CommonFields : Entries → Prop := HasFields ["Type"] commonRules

/-- The fields that states of one type have of their own. -/
def OwnFields (fields : Entries) : (type : String) → Prop
  | "Task" => HasFields ["Resource"] [("Resource", IsTextOrMapping)] fields
  | "Choice" =>
    HasFields ["Choices"] [("Choices", IsNonEmptyListOf IsChoiceRule), ("Default", IsText)] fields
  | "Wait" =>
    HasFields [] [
      ("Seconds", IsSeconds),
      ("Timestamp", IsText),
      ("SecondsPath", IsText),
      ("TimestampPath", IsText)] fields ∧
    Schema.ExactlyOne [
      fields.contains "Seconds" = true,
      fields.contains "Timestamp" = true,
      fields.contains "SecondsPath" = true,
      fields.contains "TimestampPath" = true]
  | "Fail" => HasFields [] [("Error", IsText), ("Cause", IsText)] fields
  | "Parallel" => HasFields ["Branches"] [("Branches", IsNonEmptyListOf IsMapping)] fields
  | "Map" =>
    HasFields [] [
      ("Iterator", IsMapping),
      ("ItemProcessor", IsMapping),
      ("MaxConcurrency", IsCount 0)] fields ∧
    (fields.contains "Iterator" = true ∨ fields.contains "ItemProcessor" = true)
  | _ => True

/-! ### States and definitions -/

/-- A state goes on by `Next` or ends, unless its type decides that. -/
def Continues (fields : Entries) (type : String) : Prop :=
  if type = "Choice" ∨ type = "Succeed" ∨ type = "Fail" then
    fields.contains "Next" = false ∧ fields.contains "End" = false
  else
    Schema.ExactlyOne [
      fields.contains "Next" = true, fields.find? "End" = some (.bool true)]

/-- A transition of a state of some type leads to a target. -/
inductive LeadsTo (fields : Entries) (type : String) : (target : String) → Prop
  | next {target : String} : fields.find? "Next" = some (.str target) → LeadsTo fields type target
  | default {target : String} : type = "Choice" → fields.find? "Default" = some (.str target) →
      LeadsTo fields type target
  | choice {rules : List Value} {rule : Entries} {target : String} : type = "Choice" →
      fields.find? "Choices" = some (.list rules) → .map rule ∈ rules →
      rule.find? "Next" = some (.str target) → LeadsTo fields type target
  | catcher {catchers : List Value} {catcher : Entries} {target : String} :
      fields.find? "Catch" = some (.list catchers) → .map catcher ∈ catchers →
      catcher.find? "Next" = some (.str target) → LeadsTo fields type target

/-- A definition is nested in a state: as a branch of a `Parallel` state, or as what a `Map` state
does for each item, where `ItemProcessor` comes before `Iterator`. -/
inductive Nests (fields : Entries) (type : String) : Value → Prop
  | branch {branches : List Value} {v : Value} : type = "Parallel" →
      fields.find? "Branches" = some (.list branches) → v ∈ branches → Nests fields type v
  | processor {v : Value} : type = "Map" → fields.find? "ItemProcessor" = some v →
      Nests fields type v
  | iterator {v : Value} : type = "Map" → fields.find? "ItemProcessor" = none →
      fields.find? "Iterator" = some v → Nests fields type v

mutual

/-- A well-formed definition. -/
inductive WellFormed : Value → Prop
  | definition {fields states : Entries} {start : String} (shape : DefinitionFields fields)
      (startAt : fields.find? "StartAt" = some (.str start))
      (declares : fields.find? "States" = some (.map states))
      (starts : states.contains start = true)
      (each : ∀ entry ∈ states, WellFormedState states entry.2) :
      WellFormed (.map fields)

/-- A well-formed state of a definition that declares some states. -/
inductive WellFormedState : (states : Entries) → Value → Prop
  | state {states fields : Entries} {type : String}
      (ofType : fields.find? "Type" = some (.str type))
      (common : CommonFields fields) (own : OwnFields fields type)
      (continues : Continues fields type)
      (targets : ∀ target, LeadsTo fields type target → states.contains target = true)
      (nested : ∀ v, Nests fields type v → WellFormed v) :
      WellFormedState states (.map fields)

end

open Schema

/-! ## What the schemas of values decide -/

attribute [local simp] Kind.holds Value.bare

theorem decides_ofKind {kind : Kind} {p : Value → Prop}
    (hatom : ∀ a, kind.holds (.atom a) = true ↔ p (.atom a))
    (hlist : ∀ items, kind.holds (.list items) = true ↔ p (.list items))
    (hmap : ∀ entries, kind.holds (.map entries) = true ↔ p (.map entries)) :
    Decides (.ofKind kind) p :=
  (decides_all (.cons (decides_type [kind]) .nil)).congr fun v hv => by
    simp only [List.mem_singleton, forall_eq, exists_eq_left]
    cases v, hv using Value.tree_cases with
    | atom a hv => exact hatom a
    | list items hv => exact hlist items
    | map entries hv => exact hmap entries

theorem decides_text : Decides (.ofKind .string) IsText :=
  decides_ofKind (fun a => by cases a <;> simp [IsText])
    (by simp [IsText]) (by simp [IsText])

theorem decides_truth : Decides (.ofKind .boolean) IsTruth :=
  decides_ofKind (fun a => by cases a <;> simp [IsTruth])
    (by simp [IsTruth]) (by simp [IsTruth])

theorem decides_mapping : Decides (.ofKind .object) IsMapping :=
  decides_ofKind (fun a => by cases a <;> simp [IsMapping])
    (by simp [IsMapping]) (by simp [IsMapping])

theorem decides_either {schemas : List Schema} {ps : List (Value → Prop)}
    (h : List.Forall₂ Decides schemas ps) : Decides (.either schemas) fun v => ∃ p ∈ ps, p v :=
  (decides_all (.cons (decides_anyOf h) .nil)).congr fun v _ => by
    rw [List.forall_mem_singleton]

theorem decides_textOrIntrinsic : Decides textOrIntrinsic IsTextOrMapping :=
  (decides_either (.cons decides_text (.cons decides_mapping .nil))).congr fun v _ => by
    simp [IsTextOrMapping]

theorem decides_path : Decides path IsPath :=
  (decides_all (.cons (decides_type [.string, .null]) .nil)).congr fun v hv => by
    cases v, hv using Value.tree_cases with
    | atom a hv => cases a <;> simp [IsPath, IsText]
    | list items hv => simp [IsPath, IsText]
    | map entries hv => simp [IsPath, IsText]

theorem numberOf?_iff {v : Value} (hv : v.isTree = true) (x : Quantity) :
    numberOf? v = some x ↔ IsNumber v x := by
  rw [numberOf?, Value.bare_of_isTree hv]
  cases v <;> simp [IsNumber]

theorem integer_holds_iff {v : Value} (hv : v.isTree = true) : Kind.integer.holds v = true ↔
    ∃ x i, IsNumber v x ∧ x.eq (.ofInt i) = true := by
  cases v, hv using Value.tree_cases with
  | atom a hv =>
    cases a with
    | int i =>
      refine iff_of_true rfl ⟨.ofInt i, i, ⟨_, rfl, rfl⟩, (Quantity.eq_ofInt i i).mpr rfl⟩
    | float x =>
      refine (Binary64.isInteger_iff x).trans ?_
      simp [IsNumber, Atom.number?]
    | _ => simp [IsNumber, Atom.number?]
  | list items hv => simp [IsNumber]
  | map entries hv => simp [IsNumber]

theorem number_holds_iff {v : Value} (hv : v.isTree = true) :
    Kind.number.holds v = true ↔ ∃ x, IsNumber v x := by
  cases v, hv using Value.tree_cases with
  | atom a hv => cases a <;> simp [IsNumber, Atom.number?]
  | list items hv => simp [IsNumber]
  | map entries hv => simp [IsNumber]

theorem IsNumber.unique {v : Value} {x y : Quantity} (hx : IsNumber v x) (hy : IsNumber v y) :
    x = y := by
  obtain ⟨a, rfl, hx⟩ := hx
  obtain ⟨b, hb, hy⟩ := hy
  obtain rfl := Value.atom.inj hb
  exact Option.some.inj (hx.symm.trans hy)

theorem decides_count (least : Int) : Decides (count least) (IsCount least) :=
  (decides_all (.cons (decides_type [.integer]) (.cons (decides_minimum least) .nil))).congr
    fun v hv => by
      simp only [List.mem_cons, List.not_mem_nil, or_false, forall_eq_or_imp, forall_eq,
        exists_eq_left, integer_holds_iff hv, numberOf?_iff hv]
      constructor
      · rintro ⟨⟨x, i, hx, hi⟩, hleast⟩
        refine ⟨x, i, hx, hi, Int.not_lt.mp fun hlt => ?_⟩
        have hless := (Quantity.lt_ofInt_iff hi least).mpr hlt
        rw [hleast x hx] at hless
        cases hless
      · rintro ⟨x, i, hx, hi, hleast⟩
        refine ⟨⟨x, i, hx, hi⟩, fun y hy => ?_⟩
        obtain rfl := hx.unique hy
        rw [← Bool.not_eq_true, Quantity.lt_ofInt_iff hi]
        omega

theorem decides_rate : Decides (.all [.type [.number], .minimum (.int 1)]) IsRate :=
  (decides_all (.cons (decides_type [.number]) (.cons (decides_minimum 1) .nil))).congr
    fun v hv => by
      simp only [List.mem_cons, List.not_mem_nil, or_false, forall_eq_or_imp, forall_eq,
        exists_eq_left, number_holds_iff hv, numberOf?_iff hv]
      constructor
      · rintro ⟨⟨x, hx⟩, hleast⟩
        exact ⟨x, hx, hleast x hx⟩
      · rintro ⟨x, hx, hleast⟩
        refine ⟨⟨x, hx⟩, fun y hy => ?_⟩
        obtain rfl := hx.unique hy
        exact hleast

theorem decides_seconds : Decides seconds IsSeconds :=
  (decides_either (.cons (decides_count 0) (.cons decides_mapping .nil))).congr fun v _ => by
    simp [IsSeconds]

theorem decides_oneOfTexts (names : List String) :
    Decides (.all [.enum (names.map .str)]) (IsOneOf names) :=
  (decides_all (.cons (decides_enum names) .nil)).congr fun v _ => by simp [IsOneOf]

theorem one_le_size_iff (s : String) : 1 ≤ Text.size s ↔ s ≠ "" := by
  have hcodes (chars : List Char) : Text.codes chars = [] ↔ chars = [] := by
    cases chars with
    | nil => simp [Text.codes]
    | cons c rest =>
      cases rest with
      | nil => simp [Text.codes]
      | cons d rest =>
        rw [Text.codes]
        split <;> simp
  rw [Text.size, Nat.one_le_iff_ne_zero, ne_eq, List.length_eq_zero_iff, hcodes,
    String.toList_eq_nil_iff]

theorem decides_name : Decides (.all [.type [.string], .minLength 1]) IsName :=
  (decides_all (.cons (decides_type [.string]) (.cons (decides_minLength 1) .nil))).congr
    fun v hv => by
      cases v, hv using Value.tree_cases with
      | atom a hv => cases a <;> simp [IsName, one_le_size_iff]
      | list items hv => simp [IsName]
      | map entries hv => simp [IsName]

/-! ## Lists and mappings -/

variable {p : Value → Prop} {keywords : List Keyword}

theorem decides_listOf (h : Decides (.all keywords) p) :
    Decides (.all [.type [.array], .items 0 (.all keywords)]) (IsListOf p) :=
  (decides_array (.cons (decides_items h) .nil)).congr fun v _ => by
    simp only [List.forall_mem_singleton, IsListOf]

theorem decides_nonEmptyListOf (h : Decides (.all keywords) p) :
    Decides (.all [.type [.array], .items 0 (.all keywords), .minItems 1]) (IsNonEmptyListOf p) :=
  (decides_array (.cons (decides_items h) (.cons (decides_minItems 1) .nil))).congr fun v _ => by
    simp only [List.mem_cons, List.not_mem_nil, or_false, forall_eq_or_imp, forall_eq,
      IsNonEmptyListOf, Nat.succ_le_iff, List.length_pos_iff, and_comm]

theorem decides_nonEmptyMapping :
    Decides (.all [.type [.object], .minProperties 1]) IsNonEmptyMapping :=
  (decides_object (.cons (decides_minProperties 1) .nil)).congr fun v _ => by
    simp only [List.forall_mem_singleton, IsNonEmptyMapping, Nat.succ_le_iff, List.length_pos_iff]

variable {fields : List (String × Schema)} {rules : Rules}

/-- What is needed is there and follows its rule. -/
theorem HasFields.find? {needed : List String} {rules : Rules} {entries : Entries}
    (h : HasFields needed rules entries) {name : String} {p : Value → Prop}
    (hneeded : name ∈ needed) (hrule : (name, p) ∈ rules) :
    ∃ v, entries.find? name = some v ∧ p v := by
  obtain ⟨v, hv⟩ := Option.isSome_iff_exists.mp (h.needed name hneeded)
  exact ⟨v, hv, h.rules _ hrule v hv⟩

/-- Fields and the names that are needed, without a word on what has them. -/
theorem decides_ofFields (h : List.Forall₂ FieldDecides fields rules) (needed : List String) :
    Decides (.all [.properties fields, .required needed])
      (OnMapping (HasFields needed rules)) :=
  (decides_all (.cons (decides_properties h) (.cons (decides_required needed) .nil))).congr
    fun v _ => by
      simp only [List.mem_cons, List.not_mem_nil, or_false, forall_eq_or_imp, forall_eq]
      exact ⟨fun h entries he => ⟨h.2 entries he, h.1 entries he⟩,
        fun h => ⟨fun entries he => (h entries he).rules, fun entries he => (h entries he).needed⟩⟩

theorem isRecord_iff {v : Value} (hv : v.isTree = true) (needed : List String) (rules : Rules) :
    IsRecord needed rules v ↔ Kind.object.holds v = true ∧
      OnMapping (fun entries => ∀ rule ∈ rules, ∀ w, entries.find? rule.1 = some w → rule.2 w) v ∧
      OnMapping (fun entries => ∀ name ∈ needed, entries.contains name = true) v := by
  constructor
  · rintro ⟨entries, rfl, h⟩
    exact ⟨rfl, (onMapping_map _ entries).mpr h.rules, (onMapping_map _ entries).mpr h.needed⟩
  · rintro ⟨hkind, hrules, hneeded⟩
    cases v, hv using Value.tree_cases with
    | atom a hv => cases a <;> cases hkind
    | list items hv => cases hkind
    | map entries hv => exact ⟨entries, rfl, hneeded entries rfl, hrules entries rfl⟩

theorem decides_record (h : List.Forall₂ FieldDecides fields rules) (needed : List String) :
    Decides (.all [.type [.object], .properties fields, .required needed])
      (IsRecord needed rules) :=
  (decides_object (.cons (decides_properties h) (.cons (decides_required needed) .nil))).congr
    fun v _ => by
      simp only [List.mem_cons, List.not_mem_nil, or_false, forall_eq_or_imp, forall_eq]
      exact exists_congr fun entries => and_congr_right fun _ =>
        ⟨fun h => ⟨h.2, h.1⟩, fun h => ⟨h.rules, h.needed⟩⟩

theorem decides_errorNames : Decides errorNames IsErrorNames :=
  decides_nonEmptyListOf decides_text

theorem decides_retrier : Decides retrier IsRetrier :=
  decides_record (.cons (decides_errorNames.field _) (.cons ((decides_count 1).field _)
    (.cons ((decides_count 0).field _) (.cons (decides_rate.field _) .nil)))) ["ErrorEquals"]

theorem decides_catcher : Decides catcher IsCatcher :=
  decides_record (.cons (decides_errorNames.field _) (.cons (decides_text.field _)
    (.cons (decides_path.field _) .nil))) ["ErrorEquals", "Next"]

theorem decides_choiceRule : Decides choiceRule IsChoiceRule :=
  decides_record (.cons (decides_text.field _) .nil) ["Next"]

/-! ## Definitions -/

theorem decides_definitionShape : Decides definitionShape fun v =>
    ∃ fields, v = .map fields ∧ DefinitionFields fields :=
  decides_record (.cons (decides_text.field _) (.cons (decides_name.field _)
    (.cons (decides_nonEmptyMapping.field _) (.cons (decides_text.field _)
      (.cons ((decides_count 0).field _) .nil))))) ["StartAt", "States"]

/-! ## States -/

/-- The value is of a type, if it is a mapping. -/
def HasType (type : String) : Value → Prop :=
  OnMapping fun entries => entries.find? "Type" = some (.str type)

theorem decides_isText (s : String) : Decides (.all [.const (.str s)]) fun v => v = .str s :=
  (decides_all (.cons (decides_const s) .nil)).congr fun v _ => by rw [List.forall_mem_singleton]

theorem hasFields_type_iff (type : String) (entries : Entries) :
    HasFields ["Type"] [("Type", fun v => v = .str type)] entries ↔
      entries.find? "Type" = some (.str type) := by
  constructor
  · intro h
    obtain ⟨v, hv, rfl⟩ := h.find? List.mem_cons_self List.mem_cons_self
    exact hv
  · intro h
    refine ⟨fun name hname => ?_, fun rule hrule v hv => ?_⟩
    · rw [List.mem_singleton.mp hname, Entries.contains, h]
      rfl
    · rw [List.mem_singleton.mp hrule] at hv ⊢
      exact Option.some.inj (hv.symm.trans h)

theorem decides_whenType (type : String) (h : Decides (.all keywords) p) :
    Decides (whenType type keywords) fun v => HasType type v → p v := by
  have htype : Decides (.all [.properties [("Type", .all [.const (.str type)])],
      .required ["Type"]]) (HasType type) :=
    (decides_ofFields (.cons ((decides_isText type).field _) .nil) ["Type"]).congr fun v _ =>
      OnMapping.congr (hasFields_type_iff type) v
  exact (decides_all (.cons (decides_conditional htype h) .nil)).congr fun v _ => by
    rw [List.forall_mem_singleton]

/-- The value has the fields that states of a type have of their own, if it is a mapping. -/
def MeetsOwn (type : String) : Value → Prop := OnMapping fun entries => OwnFields entries type

theorem decides_task : Decides (.all task) (MeetsOwn "Task") :=
  decides_ofFields (.cons (decides_textOrIntrinsic.field _) .nil) ["Resource"]

theorem decides_choice : Decides (.all choice) (MeetsOwn "Choice") :=
  decides_ofFields (.cons ((decides_nonEmptyListOf decides_choiceRule).field _)
    (.cons (decides_text.field _) .nil)) ["Choices"]

theorem decides_parallel : Decides (.all parallel) (MeetsOwn "Parallel") :=
  decides_ofFields (.cons ((decides_nonEmptyListOf decides_mapping).field _) .nil) ["Branches"]

theorem hasFields_nil_iff (entries : Entries) :
    HasFields [] rules entries ↔
      ∀ rule ∈ rules, ∀ v, entries.find? rule.1 = some v → rule.2 v :=
  ⟨fun h => h.rules, fun h => ⟨fun _ hname => absurd hname List.not_mem_nil, h⟩⟩

/-- Fields of which none is needed, together with one more keyword. -/
theorem decides_fieldsAnd (h : List.Forall₂ FieldDecides fields rules) {keyword : Keyword}
    (hkeyword : KeywordDecides keyword p) :
    Decides (.all [.properties fields, keyword]) fun v => OnMapping (HasFields [] rules) v ∧ p v :=
  (decides_all (.cons (decides_properties h) (.cons hkeyword .nil))).congr fun v _ => by
    simp only [OnMapping.congr hasFields_nil_iff, List.mem_cons, List.not_mem_nil, or_false,
      forall_eq_or_imp, forall_eq]

theorem decides_fail : Decides (.all fail) (MeetsOwn "Fail") :=
  (decides_all (.cons (decides_properties (.cons (decides_text.field _)
    (.cons (decides_text.field _) .nil))) .nil)).congr fun v _ => by
      rw [List.forall_mem_singleton]
      exact OnMapping.congr (fun entries => (hasFields_nil_iff entries).symm) v

/-- The value holds a name, if it is a mapping. -/
def Holds (name : String) : Value → Prop := OnMapping fun entries => entries.contains name = true

theorem decides_required_one (name : String) : Decides (.all [.required [name]]) (Holds name) :=
  (decides_all (.cons (decides_required [name]) .nil)).congr fun v _ => by
    simp only [List.mem_singleton, forall_eq, Holds]

theorem decides_holding (name : String) : AlternativeDecides (holding name) (Holds name) :=
  decides_required_one name

/-- What the keywords of a wait ask for. What is no mapping holds all the names, which is too
many. -/
def Waits (v : Value) : Prop :=
  OnMapping (HasFields [] [
    ("Seconds", IsSeconds), ("Timestamp", IsText), ("SecondsPath", IsText),
    ("TimestampPath", IsText)]) v ∧
  ExactlyOne [Holds "Seconds" v, Holds "Timestamp" v, Holds "SecondsPath" v,
    Holds "TimestampPath" v]

theorem decides_wait : Decides (.all wait) Waits :=
  decides_fieldsAnd
    (.cons (decides_seconds.field _) (.cons (decides_text.field _) (.cons (decides_text.field _)
      (.cons (decides_text.field _) .nil))))
    (decides_oneOf (.cons (decides_holding "Seconds") (.cons (decides_holding "Timestamp")
      (.cons (decides_holding "SecondsPath") (.cons (decides_holding "TimestampPath") .nil)))))

theorem waits_map (entries : Entries) : Waits (.map entries) ↔ OwnFields entries "Wait" := by
  simp only [Waits, Holds, onMapping_map, OwnFields]

theorem decides_mapOver : Decides (.all mapOver) (MeetsOwn "Map") :=
  (decides_fieldsAnd
    (.cons (decides_mapping.field "Iterator") (.cons (decides_mapping.field "ItemProcessor")
      (.cons ((decides_count 0).field "MaxConcurrency") .nil)))
    (decides_anyOf (.cons (decides_required_one "Iterator")
      (.cons (decides_required_one "ItemProcessor") .nil)))).congr fun v hv => by
    cases v, hv using Value.tree_cases with
    | map entries hv =>
      simp only [MeetsOwn, Holds, OwnFields, List.mem_cons, List.not_mem_nil, or_false,
        exists_eq_or_imp, exists_eq_left, onMapping_map]
    | atom a hv => exact iff_of_true ⟨onMapping_atom _ a, _, List.mem_cons_self,
        onMapping_atom _ a⟩ (onMapping_atom _ a)
    | list items hv => exact iff_of_true ⟨onMapping_list _ items, _, List.mem_cons_self,
        onMapping_list _ items⟩ (onMapping_list _ items)

theorem decides_commonFields : List.Forall₂ FieldDecides commonFields commonRules :=
  .cons ((decides_oneOfTexts stateTypes).field _) <| .cons (decides_text.field _) <|
  .cons (decides_name.field _) <| .cons (decides_truth.field _) <|
  .cons (decides_path.field _) <| .cons (decides_path.field _) <| .cons (decides_path.field _) <|
  .cons (decides_mapping.field _) <| .cons (decides_mapping.field _) <|
  .cons ((decides_listOf decides_retrier).field _) <|
  .cons ((decides_listOf decides_catcher).field _) <|
  .cons (decides_seconds.field _) <| .cons (decides_seconds.field _) .nil

/-- Six types have fields of their own; the other two ask for nothing. -/
theorem ownFields_iff (entries : Entries) (type : String) : OwnFields entries type ↔
    (type = "Task" → OwnFields entries "Task") ∧ (type = "Choice" → OwnFields entries "Choice") ∧
    (type = "Wait" → OwnFields entries "Wait") ∧ (type = "Fail" → OwnFields entries "Fail") ∧
    (type = "Parallel" → OwnFields entries "Parallel") ∧
    (type = "Map" → OwnFields entries "Map") := by
  constructor
  · intro h
    refine ⟨?_, ?_, ?_, ?_, ?_, ?_⟩ <;> exact fun htype => htype ▸ h
  · rintro ⟨htask, hchoice, hwait, hfail, hparallel, hmap⟩
    unfold OwnFields
    split
    · exact htask rfl
    · exact hchoice rfl
    · exact hwait rfl
    · exact hfail rfl
    · exact hparallel rfl
    · exact hmap rfl
    · trivial

theorem CommonFields.type {fields : Entries} (h : CommonFields fields) :
    ∃ type, fields.find? "Type" = some (.str type) := by
  obtain ⟨v, hv, type, -, rfl⟩ := h.find? List.mem_cons_self List.mem_cons_self
  exact ⟨type, hv⟩

/-- A state of some type meets each condition on the types if it has the fields of its own. -/
theorem whenTypes_iff {fields : Entries} {type : String}
    (htype : fields.find? "Type" = some (.str type)) :
    ((HasType "Task" (.map fields) → MeetsOwn "Task" (.map fields)) ∧
      (HasType "Choice" (.map fields) → MeetsOwn "Choice" (.map fields)) ∧
      (HasType "Wait" (.map fields) → Waits (.map fields)) ∧
      (HasType "Fail" (.map fields) → MeetsOwn "Fail" (.map fields)) ∧
      (HasType "Parallel" (.map fields) → MeetsOwn "Parallel" (.map fields)) ∧
      (HasType "Map" (.map fields) → MeetsOwn "Map" (.map fields))) ↔
    OwnFields fields type := by
  have hother (other : String) : HasType other (.map fields) ↔ type = other := by
    rw [HasType, onMapping_map, htype]
    simp
  simp only [hother, MeetsOwn, onMapping_map, waits_map, ownFields_iff fields type]

theorem decides_stateShape : Decides stateShape fun v => ∃ (fields : Entries) (type : String),
    v = .map fields ∧ fields.find? "Type" = some (.str type) ∧ CommonFields fields ∧
      OwnFields fields type :=
  (decides_all (.cons (decides_type [.object]) (.cons (decides_properties decides_commonFields)
    (.cons (decides_required ["Type"]) (.cons (decides_allOf
      (.cons (decides_whenType "Task" decides_task)
      (.cons (decides_whenType "Choice" decides_choice)
      (.cons (decides_whenType "Wait" decides_wait)
      (.cons (decides_whenType "Fail" decides_fail)
      (.cons (decides_whenType "Parallel" decides_parallel)
      (.cons (decides_whenType "Map" decides_mapOver) .nil)))))))
    .nil))))).congr fun v hv => by
    have hrecord := isRecord_iff hv ["Type"] commonRules
    simp only [List.mem_cons, List.not_mem_nil, or_false, forall_eq_or_imp, forall_eq,
      exists_eq_left] at hrecord ⊢
    constructor
    · rintro ⟨hkind, hrules, hneeded, hown⟩
      obtain ⟨fields, rfl, hcommon⟩ := hrecord.mpr ⟨hkind, hrules, hneeded⟩
      obtain ⟨type, htype⟩ := CommonFields.type hcommon
      exact ⟨fields, type, rfl, htype, hcommon, (whenTypes_iff htype).mp hown⟩
    · rintro ⟨fields, type, rfl, htype, hcommon, hown⟩
      obtain ⟨hkind, hrules, hneeded⟩ := hrecord.mp ⟨fields, rfl, hcommon⟩
      exact ⟨hkind, hrules, hneeded, (whenTypes_iff htype).mpr hown⟩

end FlowTemplate.Lint
