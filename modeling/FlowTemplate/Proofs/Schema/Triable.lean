import FlowTemplate.Proofs.Schema.Realm
import FlowTemplate.Proofs.Schema.Trial
/-!
# Schemas that can be tried

Whatever document is read as a schema, its keywords break off for reasons of their own only. So a
value that is held against a document of a library is never the reason to say that a document is no
schema.
-/

namespace FlowTemplate.Schema

open FlowTemplate.Computation

/-! ## Lists of schemas -/

theorem areTriable_iff {keywords : List Keyword} :
    areTriable keywords = true ↔ ∀ keyword ∈ keywords, keywordIsTriable keyword = true := by
  induction keywords with
  | nil => exact iff_of_true rfl fun _ h => absurd h List.not_mem_nil
  | cons keyword rest ih => rw [areTriable, Bool.and_eq_true, ih, List.forall_mem_cons]

theorem fieldsAreTriable_iff {fields : List (String × Schema)} :
    fieldsAreTriable fields = true ↔ ∀ field ∈ fields, isTriable field.2 = true := by
  induction fields with
  | nil => exact iff_of_true rfl fun _ h => absurd h List.not_mem_nil
  | cons field rest ih => rw [fieldsAreTriable, Bool.and_eq_true, ih, List.forall_mem_cons]

theorem schemasAreTriable_iff {schemas : List Schema} :
    schemasAreTriable schemas = true ↔ ∀ schema ∈ schemas, isTriable schema = true := by
  induction schemas with
  | nil => exact iff_of_true rfl fun _ h => absurd h List.not_mem_nil
  | cons schema rest ih => rw [schemasAreTriable, Bool.and_eq_true, ih, List.forall_mem_cons]

theorem alternativesAreTriable_iff {alternatives : List (Value × Schema)} :
    alternativesAreTriable alternatives = true ↔
      ∀ alternative ∈ alternatives, isTriable alternative.2 = true := by
  induction alternatives with
  | nil => exact iff_of_true rfl fun _ h => absurd h List.not_mem_nil
  | cons alternative rest ih =>
    rw [alternativesAreTriable, Bool.and_eq_true, ih, List.forall_mem_cons]

/-! ## Keywords -/

theorem isTriable_bare {schema : Schema} (h : isTriable schema = true) :
    isTriable schema.bare = true := by
  cases schema <;> exact h

theorem isTriable_failing {fault : Fault} (h : fault ≠ .notSchema) :
    isTriable (failing fault) = true := by
  simp [failing, isTriable, areTriable, keywordIsTriable, h]

theorem isTriable_ofKind (kind : Kind) : isTriable (.ofKind kind) = true := rfl

theorem areTriable_brokenFor (kind : Kind) {fault : Fault} (h : fault ≠ .notSchema) :
    areTriable (brokenFor kind fault) = true := by
  simp [brokenFor, isTriable_ofKind, areTriable, keywordIsTriable, h]

theorem isTriable_misread (v : Value) : isTriable (misread v) = true := by
  unfold misread
  split
  · split <;> rfl
  · split <;> exact isTriable_failing Fault.noConfusion
  · split <;> exact isTriable_failing Fault.noConfusion
  · exact isTriable_failing Fault.noConfusion

theorem fieldsAreTriable_alternatives (d : Dialect) (documents : List Value) {schemas : List Schema}
    (h : schemasAreTriable schemas = true) :
    fieldsAreTriable (alternatives d documents schemas) = true := by
  rw [fieldsAreTriable_iff, alternatives, List.forall_mem_map]
  rintro ⟨document, schema⟩ hmem
  dsimp only
  split
  · dsimp only
    split
    · rfl
    · split
      · exact isTriable_ofKind _
      · exact isTriable_failing Fault.noConfusion
  · exact schemasAreTriable_iff.mp h schema (List.of_mem_zip hmem).2
  · exact isTriable_failing Fault.noConfusion

theorem fieldsAreTriable_disallowed (d : Dialect) (documents : List Value) {schemas : List Schema}
    (h : schemasAreTriable schemas = true) :
    fieldsAreTriable (disallowed d documents schemas) = true := by
  rw [fieldsAreTriable_iff, disallowed, List.forall_mem_map]
  rintro ⟨document, alternative⟩ hmem
  have halternative := fieldsAreTriable_iff.mp (fieldsAreTriable_alternatives d documents h)
    alternative (List.of_mem_zip hmem).2
  simp [isTriable, areTriable, keywordIsTriable, fieldsAreTriable, halternative]

theorem keywordIsTriable_typeKeyword (d : Dialect) (v : Value) :
    keywordIsTriable (typeKeyword d v) = true := by
  unfold typeKeyword
  split
  · split
    · rfl
    · exact fieldsAreTriable_alternatives d _ rfl
  · split
    · rfl
    · refine fieldsAreTriable_alternatives d _ (schemasAreTriable_iff.mpr ?_)
      exact List.forall_mem_map.mpr fun _ _ => isTriable_failing Fault.noConfusion
  · rfl

theorem areTriable_patternKeyword (v : Value) : areTriable (patternKeyword v) = true := by
  unfold patternKeyword
  split
  · split
    · rfl
    · exact areTriable_brokenFor _ Fault.noConfusion
  · exact areTriable_brokenFor _ Fault.noConfusion

theorem areTriable_boundKeyword (d : Dialect) (entries : Entries) (flag : String) (v : Value)
    {inclusive exclusive : Atom → Keyword} (hinclusive : ∀ a, keywordIsTriable (inclusive a) = true)
    (hexclusive : ∀ a, keywordIsTriable (exclusive a) = true) :
    areTriable (boundKeyword d entries flag v inclusive exclusive) = true := by
  unfold boundKeyword
  split
  · exact areTriable_brokenFor _ Fault.noConfusion
  · rw [areTriable_iff, List.forall_mem_singleton]
    split
    · exact hexclusive _
    · exact hinclusive _

theorem areTriable_countKeyword (kind : Kind) (v : Value) {keyword : Nat → Keyword}
    (h : ∀ n, keywordIsTriable (keyword n) = true) :
    areTriable (countKeyword kind v keyword) = true := by
  unfold countKeyword
  split
  · exact areTriable_iff.mpr (List.forall_mem_singleton.mpr (h _))
  · exact areTriable_brokenFor _ Fault.noConfusion

theorem areTriable_plainKeywords (d : Dialect) (entries : Entries) (key : String) (v : Value) :
    areTriable (plainKeywords d entries key v) = true := by
  unfold plainKeywords
  split
  -- Bounds and counts are one rule each; most of the other keywords stand alone.
  all_goals first
    | rfl
    | exact areTriable_boundKeyword d _ _ v (fun _ => rfl) fun _ => rfl
    | exact areTriable_countKeyword _ v fun _ => rfl
    | exact areTriable_patternKeyword v
    | (split <;> first | rfl | exact areTriable_brokenFor _ Fault.noConfusion)
    | skip
  · exact areTriable_iff.mpr (List.forall_mem_singleton.mpr (keywordIsTriable_typeKeyword d v))
  · refine areTriable_iff.mpr (List.forall_mem_singleton.mpr ?_)
    exact fieldsAreTriable_disallowed d _ (schemasAreTriable_iff.mpr
      (List.forall_mem_singleton.mpr (isTriable_failing Fault.noConfusion)))
  · split
    · refine areTriable_iff.mpr fun keyword hmem => ?_
      obtain ⟨_, -, hname⟩ := List.mem_filterMap.mp hmem
      obtain ⟨name, -, rfl⟩ := Option.map_eq_some_iff.mp hname
      rfl
    · exact areTriable_brokenFor _ Fault.noConfusion

/-- Whether the schemas of a clause can be tried. -/
def Clause.isTriable : Clause → Bool
  | .plain _ => true
  | .one _ schema => Schema.isTriable schema
  | .many _ schemas => schemasAreTriable schemas
  | .named fields => fields.all fun (_, _, schema) => Schema.isTriable schema

/-- Clauses whose schemas can be tried. -/
def ClausesTriable (clauses : List (String × Clause)) : Prop :=
  ∀ clause ∈ clauses, clause.2.isTriable = true

theorem isTriable_schemaUnder {clauses : List (String × Clause)} (h : ClausesTriable clauses)
    (key : String) : isTriable (schemaUnder clauses key) = true := by
  unfold schemaUnder
  split
  · rename_i document schema hlookup
    obtain ⟨before, after, heq, -⟩ := List.lookup_eq_some_iff.mp hlookup
    exact h (key, .one document schema) (heq ▸ List.mem_append_right before List.mem_cons_self)
  · rfl

theorem keywordIsTriable_additionalKeyword (entries : Entries) {schema : Schema}
    (h : isTriable schema = true) :
    keywordIsTriable (additionalKeyword entries schema) = true := by
  unfold additionalKeyword
  dsimp only
  split
  · split
    · exact h
    · split
      · exact h
      · rfl
  · exact h

theorem areTriable_schemaKeywords (d : Dialect) (entries : Entries)
    {clauses : List (String × Clause)} (hclauses : ClausesTriable clauses) (key : String)
    (document : Value) {schema : Schema} (h : isTriable schema = true) :
    areTriable (schemaKeywords d entries clauses key document schema) = true := by
  have hbare := isTriable_bare h
  unfold schemaKeywords
  split
  · split <;> simp [areTriable, keywordIsTriable, h]
  · split
    · simp [areTriable, keywordIsTriable, h]
    · exact areTriable_brokenFor _ Fault.noConfusion
    · rfl
  · split <;> simp [areTriable, keywordIsTriable, hbare]
  · simp [areTriable, keywordIsTriable_additionalKeyword entries h]
  · simp [areTriable, keywordIsTriable, h]
  · simp [areTriable, keywordIsTriable, hbare]
  · simp [areTriable, keywordIsTriable, hbare, isTriable_schemaUnder hclauses]
  · simp [areTriable, keywordIsTriable, schemasAreTriable, h]
  · simp [areTriable, keywordIsTriable, hbare]
  · simp [areTriable, keywordIsTriable, h]
  · rfl

theorem areTriable_schemasKeywords (d : Dialect) (key : String) (documents : List Value)
    {schemas : List Schema} (h : schemasAreTriable schemas = true) :
    areTriable (schemasKeywords d key documents schemas) = true := by
  have hzip : alternativesAreTriable (documents.zip schemas) = true :=
    alternativesAreTriable_iff.mpr fun alternative hmem =>
      schemasAreTriable_iff.mp h _ (List.of_mem_zip hmem).2
  unfold schemasKeywords
  split <;> simp [areTriable, keywordIsTriable, h, hzip, fieldsAreTriable_alternatives d _ h,
    fieldsAreTriable_disallowed d _ h]

theorem areTriable_fieldsKeywords (d : Dialect) (key : String)
    {fields : List (String × Value × Schema)}
    (h : ∀ field ∈ fields, isTriable field.2.2 = true) :
    areTriable (fieldsKeywords d key fields) = true := by
  unfold fieldsKeywords
  split
  · rw [areTriable, Bool.and_eq_true]
    refine ⟨fieldsAreTriable_iff.mpr (List.forall_mem_map.mpr h), ?_⟩
    split <;> rfl
  · refine areTriable_iff.mpr (List.forall_mem_map.mpr fun field hfield => ?_)
    dsimp only [fieldsLikeKeyword]
    split
    · exact h field hfield
    · rfl
  · exact areTriable_iff.mpr (List.forall_mem_map.mpr h)
  · refine areTriable_iff.mpr (List.forall_mem_map.mpr fun field hfield => ?_)
    dsimp only [dependencyKeyword]
    split
    · rfl
    · split
      · rfl
      · exact h field hfield
    · exact h field hfield
  · rfl

theorem areTriable_keywordsOf (d : Dialect) (entries : Entries)
    {clauses : List (String × Clause)} (hclauses : ClausesTriable clauses) (key : String)
    {clause : Clause} (h : clause.isTriable = true) :
    areTriable (keywordsOf d entries clauses key clause) = true := by
  cases clause with
  | plain v =>
    rw [keywordsOf]
    split
    · exact areTriable_plainKeywords d entries key v
    · rfl
  | one document schema => exact areTriable_schemaKeywords d entries hclauses key document h
  | many documents schemas => exact areTriable_schemasKeywords d key documents h
  | named fields => exact areTriable_fieldsKeywords d key (List.all_eq_true.mp h)

theorem areTriable_link (d : Dialect) (entries : Entries) {clauses : List (String × Clause)}
    (h : ClausesTriable clauses) : areTriable (link d entries clauses) = true := by
  refine areTriable_iff.mpr fun keyword hmem => ?_
  rw [link] at hmem
  obtain ⟨⟨key, clause⟩, hclause, hkeyword⟩ := List.mem_flatMap.mp hmem
  refine areTriable_iff.mp (areTriable_keywordsOf d entries h key (h (key, clause) ?_)) _ hkeyword
  dsimp only at hclause
  split at hclause
  · split at hclause
    · exact hclause
    · exact (List.mem_filter.mp hclause).1
  · exact hclause

theorem spares_dialectOf (d : Dialect) (entries : Entries) : Spares (dialectOf d entries) := by
  unfold dialectOf
  split
  · exact spares_ok d
  · split
    · exact spares_ok _
    · exact spares_error Fault.noConfusion
  · exact spares_ite (spares_ok d) (spares_error Fault.noConfusion)
  · exact spares_error Fault.noConfusion

theorem isTriable_build (d : Dialect) (entries : Entries)
    {clausesIn : Dialect → List (String × Clause)} (h : ∀ own, ClausesTriable (clausesIn own)) :
    isTriable (build d entries clausesIn) = true := by
  unfold build
  split
  · rename_i fault hfault
    exact isTriable_failing ((spares_dialectOf d entries).ne_of_eq hfault)
  · rename_i own howns
    have hlink := areTriable_link own entries (h own)
    dsimp only
    split
    · exact hlink
    · exact hlink

mutual

/-- Whatever a document is, no keyword of it stands for a document that is no schema. -/
theorem isTriable_read (d : Dialect) : (v : Value) → isTriable (read d v) = true
  | .map entries => by
    rw [read]
    exact isTriable_build d entries fun own => clausesTriable own entries
  | .atom _ | .list _ | .tuple _ | .set _ | .anchored .. | .again _ => by
    rw [read]
    · exact isTriable_misread _
    · simp

theorem clausesTriable (d : Dialect) : (entries : List (Atom × Value)) →
    ClausesTriable (clauses d entries)
  | [] => fun _ h => absurd h List.not_mem_nil
  | (.str key, v) :: rest => by
    rw [clauses]
    exact List.forall_mem_cons.mpr ⟨isTriable_clause d _ v, clausesTriable d rest⟩
  | (.null, _) :: rest | (.bool _, _) :: rest | (.int _, _) :: rest | (.float _, _) :: rest
  | (.bytes _, _) :: rest | (.time _, _) :: rest => by
    rw [clauses]
    · exact clausesTriable d rest
    · simp

theorem isTriable_clause (d : Dialect) (role : Option Role) : (v : Value) →
    (clause d role v).isTriable = true
  | .map entries => by
    rw [clause.eq_def]
    dsimp only
    split
    · rfl
    · exact List.all_eq_true.mpr (isTriable_fields d entries)
    · exact List.all_eq_true.mpr (isTriable_fields d entries)
    · exact isTriable_build d entries fun own => clausesTriable own entries
  | .list items => by
    rw [clause.eq_def]
    dsimp only
    split
    · rfl
    · rfl
    · rfl
    · exact schemasAreTriable_schemas d items
  | .atom (.bool b) => by
    rw [clause.eq_def]
    dsimp only
    split
    · rfl
    · rfl
    · rfl
    · rfl
    · cases b <;> rfl
  | .atom .null | .atom (.int _) | .atom (.float _) | .atom (.str _) | .atom (.bytes _)
  | .atom (.time _) | .tuple _ | .set _ | .anchored .. | .again _ => by
    rw [clause]
    · rfl
    all_goals simp

theorem schemasAreTriable_schemas (d : Dialect) : (items : List Value) →
    schemasAreTriable (schemas d items) = true
  | [] => by rw [schemas]; rfl
  | v :: rest => by
    rw [schemas, schemasAreTriable, isTriable_read d v, schemasAreTriable_schemas d rest]
    rfl

theorem isTriable_fields (d : Dialect) : (entries : List (Atom × Value)) →
    ∀ field ∈ fields d entries, isTriable field.2.2 = true
  | [] => fun _ h => absurd h List.not_mem_nil
  | (.str key, v) :: rest => by
    rw [fields]
    exact List.forall_mem_cons.mpr ⟨isTriable_read d v, isTriable_fields d rest⟩
  | (.null, _) :: rest | (.bool _, _) :: rest | (.int _, _) :: rest | (.float _, _) :: rest
  | (.bytes _, _) :: rest | (.time _, _) :: rest => by
    rw [fields]
    · exact isTriable_fields d rest
    · simp

end

/-! ## References -/

namespace Library

theorem spares_follow (s : List Char) (v : Value) : Spares (Segment.follow s v) := by
  have hposition : Spares (Segment.follow.position s) := by
    unfold Segment.follow.position
    split
    · exact spares_ok _
    · exact spares_error Fault.noConfusion
  unfold Segment.follow
  split
  · refine hposition.bind fun i => ?_
    split
    · exact spares_ok _
    · exact spares_error Fault.noConfusion
  · refine hposition.bind fun i => ?_
    split
    · exact spares_ok _
    · exact spares_error Fault.noConfusion
  · dsimp only
    split
    · exact spares_ok _
    · exact spares_error Fault.noConfusion
  · exact spares_error Fault.noConfusion

theorem spares_walk (d : Dialect) (way : List (List Char)) (v : Value) (since : List Segment)
    (scope : Scope) : Spares (walk d way v since scope) := by
  induction way generalizing v since scope with
  | nil => exact spares_ok _
  | cons s rest ih =>
    rw [walk]
    refine (spares_follow s v).bind fun step => ?_
    dsimp only
    split
    · exact ih step.2 _ _
    · exact ih step.2 _ _

theorem spares_fragmentTarget (library : Library) (scope : Scope) (address : String) (r : Resource)
    (fragment : String) : Spares (library.fragmentTarget scope address r fragment) := by
  unfold fragmentTarget
  refine spares_ite (spares_walk _ _ _ _ _) (spares_ite (spares_ok _) ?_)
  split
  · exact spares_error Fault.noConfusion
  · exact spares_ite (spares_ok _) (spares_ok _)

theorem spares_lookUp (library : Library) (scope : Scope) (reference : String) :
    Spares (library.lookUp scope reference) := by
  have hplace : Spares (place scope.base reference) := by
    refine spares_ite (spares_ok _) ?_
    split
    · exact spares_ok _
    · exact spares_error Fault.noConfusion
  rw [lookUp_eq]
  refine hplace.bind fun ⟨address, fragment⟩ => ?_
  rw [landing]
  split
  · exact spares_fragmentTarget library _ address _ fragment
  · exact spares_error Fault.noConfusion

theorem spares_stepOut (library : Library) (scope : Scope) (found : Target) (outer : List String) :
    Spares (library.stepOut scope found outer) := by
  induction outer generalizing found with
  | nil => exact spares_ok _
  | cons base outer ih =>
    rw [stepOut]
    exact (spares_lookUp library scope base).bind fun next => spares_ite (ih next) (spares_ok _)

theorem spares_target (library : Library) (scope : Scope) (link : Link) :
    Spares (library.target scope link) := by
  unfold target
  split
  · exact spares_lookUp library scope _
  · exact (spares_lookUp library scope "#").bind fun found =>
      spares_ite (spares_stepOut library scope found _) (spares_ok _)

theorem spares_asCheck (link : Link) {α : Type} {x : Except Fault α} (h : Spares x) :
    Spares (x.mapError (asCheck link)) := by
  cases x with
  | ok a => exact spares_ok a
  | error fault =>
    refine spares_error fun heq => ?_
    unfold asCheck at heq
    split at heq
    · split at heq <;> cases heq
    · exact h.ne_of_eq rfl heq

theorem spare_surroundings (library : Library) (checksPatterns : Bool) (depth : Nat) :
    (library.surroundings checksPatterns depth).Spare := by
  induction depth with
  | zero =>
    exact ⟨fun _ _ _ => Report.spares_broken Fault.noConfusion,
      fun _ _ _ => spares_error Fault.noConfusion⟩
  | succ depth ih =>
    have hread (link : Link) (target : Target) :
        isTriable (read link.dialect target.document).bare = true :=
      isTriable_bare (isTriable_read _ _)
    constructor
    · intro scope link v
      exact Report.spares_ofAnswer (spares_asCheck link (spares_target library scope link))
        fun target => spares_check ih _ _ (hread link target) v
    · intro scope link v
      exact (spares_target library scope link).bind fun target =>
        spares_covered ih _ _ (hread link target) v

/-- Holding a value against a document never ends with the verdict that a document is no schema. -/
theorem spares_libraryCheck (library : Library) (checksPatterns : Bool) (r : Resource) (v : Value) :
    (library.check checksPatterns r v).Spares :=
  spares_check (spare_surroundings _ _ _) _ _ (isTriable_bare (isTriable_read _ _)) v

end Library

end FlowTemplate.Schema
