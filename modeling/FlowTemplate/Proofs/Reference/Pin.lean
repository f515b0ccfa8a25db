import FlowTemplate.Proofs.Computation
import FlowTemplate.Proofs.Document.Plain
import FlowTemplate.Reference
/-!
# What pinning reads of a template

To pin a reference, two questions are asked of the resources of a template: whether a logical ID
stands for a function, and which version is the first for a function. An entry that is neither a
function nor a version can be put under a key that is no function's and no version's without
changing any answer. A reference cannot be pinned exactly if it is one to a function that no version
names.
-/

namespace FlowTemplate

/-- The entries of the mapping under a key; none if there is no such mapping. -/
def Entries.under (entries : Entries) (key : String) : Entries :=
  match entries.find? key with
  | some (.map found) => found
  | _ => []

/-- Whether a key has a mapping under it or is missing. -/
def Entries.MapsOrLacks (entries : Entries) (key : String) : Prop :=
  ∀ v, entries.find? key = some v → ∃ found, v = .map found

namespace Reference

theorem hasType_map (type : String) (entries : Entries) :
    hasType type (.map entries) = (entries.find? "Type" == some (.str type)) := rfl

/-- The logical ID is that of no function and of no version. -/
def IsFree (resources : Entries) (logicalId : String) : Prop :=
  ∀ resource, (.str logicalId, resource) ∈ resources →
    hasType functionType resource = false ∧ hasType versionType resource = false

/-- Both answer the same when a reference is pinned. -/
structure PinsAlike (resources resources' : Entries) : Prop where
  functions : ∀ target, (resources.find? target).any (hasType functionType) =
    (resources'.find? target).any (hasType functionType)
  versions : ∀ target, findVersion target resources = findVersion target resources'

theorem PinsAlike.refl (resources : Entries) : PinsAlike resources resources :=
  ⟨fun _ => rfl, fun _ => rfl⟩

theorem PinsAlike.trans {a b c : Entries} (h : PinsAlike a b) (h' : PinsAlike b c) :
    PinsAlike a c :=
  ⟨fun target => (h.functions target).trans (h'.functions target),
    fun target => (h.versions target).trans (h'.versions target)⟩

theorem resources_map {template : Entries} (h : template.MapsOrLacks "Resources") :
    resources (.map template) = .ok (.map (template.under "Resources")) := by
  have hfound : (Value.map template).fieldOrNull "Resources" =
      .ok ((template.find? "Resources").getD .null) := rfl
  rw [resources, hfound, Entries.under]
  cases hfind : template.find? "Resources" with
  | none => rfl
  | some v =>
    obtain ⟨found, rfl⟩ := h v hfind
    cases found <;> rfl

/-- Pinning depends on the two answers only. -/
theorem pin_congr {template template' : Entries} (h : template.MapsOrLacks "Resources")
    (h' : template'.MapsOrLacks "Resources")
    (halike : PinsAlike (template.under "Resources") (template'.under "Resources")) (v : Value) :
    pin (.map template) v = pin (.map template') v := by
  have htarget : functionTarget? (.map template) v = functionTarget? (.map template') v := by
    rw [functionTarget?, functionTarget?, resources_map h, resources_map h']
    split
    · rename_i target _
      have hfunction := halike.functions target
      simp only [bind, Except.bind, Value.field, Value.entries, Value.bare, Except.map]
      rw [hfunction]
    · rfl
  rw [pin, pin, htarget, resources_map h, resources_map h']
  rcases functionTarget? (.map template') v with m | _ | target
  · rfl
  · rfl
  · change ((findVersion target (template.under "Resources")).mapError PinFailure.misfit >>= _) =
      ((findVersion target (template'.under "Resources")).mapError PinFailure.misfit >>= _)
    rw [halike.versions target]

/-! ## New entries -/

variable {resources : Entries} {logicalId : String} {resource : Value}

theorem IsFree.tail {k : Atom} {w : Value} (h : IsFree ((k, w) :: resources) logicalId) :
    IsFree resources logicalId :=
  fun resource hresource => h resource (List.mem_cons_of_mem _ hresource)

theorem findVersion_cons_of_ne {k : Atom} {w : Value} (h : hasType versionType w = false)
    (target : String) (rest : Entries) :
    findVersion target ((k, w) :: rest) = findVersion target rest := by
  rw [findVersion, h]
  rfl

theorem findVersion_insert (hfree : IsFree resources logicalId)
    (hversion : hasType versionType resource = false) (target : String) :
    findVersion target (resources.insert (.str logicalId) resource) =
      findVersion target resources := by
  induction resources with
  | nil => exact findVersion_cons_of_ne hversion target []
  | cons entry rest ih =>
    obtain ⟨k, w⟩ := entry
    rw [Entries.insert_cons]
    by_cases hk : k = .str logicalId
    · subst hk
      have hw := (hfree w List.mem_cons_self).2
      rw [if_pos rfl, findVersion_cons_of_ne hversion, findVersion_cons_of_ne hw]
    · rw [if_neg hk, findVersion, findVersion, ih hfree.tail]

theorem pinsAlike_insert (hfree : IsFree resources logicalId)
    (hfunction : hasType functionType resource = false)
    (hversion : hasType versionType resource = false) :
    PinsAlike resources (resources.insert (.str logicalId) resource) := by
  refine ⟨fun target => ?_, fun target => (findVersion_insert hfree hversion target).symm⟩
  rw [Entries.find?_insert]
  by_cases htarget : target = logicalId
  · subst htarget
    rw [if_pos rfl, Option.any_some, hfunction]
    cases hfind : resources.find? target with
    | none => rfl
    | some w => exact (hfree w (Entries.mem_of_find? hfind)).1
  · rw [if_neg htarget]

theorem IsFree.insert {other : String} (hfree : IsFree resources other)
    (hfunction : hasType functionType resource = false)
    (hversion : hasType versionType resource = false) :
    IsFree (resources.insert (.str logicalId) resource) other := by
  intro found hfound
  rcases Entries.mem_insert hfound with h | h
  · rw [(Prod.mk.inj h).2]
    exact ⟨hfunction, hversion⟩
  · exact hfree found h

/-! ## References that cannot be pinned -/

open FlowTemplate.Computation

/-- What a resource says of the function it is a version of. -/
def functionName? (resource : Value) : Option Value :=
  ((resource.entries?.bind (Entries.find? · "Properties")).bind Value.entries?).bind
    (Entries.find? · "FunctionName")

/-- Whether a resource is a version of the function of a logical ID. -/
def isVersionOf (logicalId : String) (resource : Value) : Bool :=
  hasType versionType resource && (functionName? resource).any (namesFunction logicalId)

/-- The logical ID of the function that a value refers to directly. -/
def directFunction? (resources : Entries) (v : Value) : Option String :=
  match directTarget? v with
  | some (.atom (.str logicalId)) =>
    if (resources.find? logicalId).any (hasType functionType) then some logicalId else none
  | _ => none

/-- The logical ID of the function that a value refers to directly, if it has no version. -/
def unversioned? (resources : Entries) (v : Value) : Option String :=
  (directFunction? resources v).filter fun logicalId =>
    !resources.any fun entry => isVersionOf logicalId entry.2

/-- The properties of each version are a mapping or empty. -/
def HaveReadableVersions (resources : Entries) : Prop :=
  ∀ entry ∈ resources, hasType versionType entry.2 = true → ∀ properties,
    entry.2.entries?.bind (Entries.find? · "Properties") = some properties →
      properties.isEmpty = true ∨ properties.isMap = true

/-- A resource that is no version leaves the versions readable. -/
theorem HaveReadableVersions.insert (h : HaveReadableVersions resources)
    (hversion : hasType versionType resource = false) :
    HaveReadableVersions (resources.insert (.str logicalId) resource) := by
  rintro ⟨key, found⟩ hmem htype
  rcases Entries.mem_insert hmem with hnew | hold
  · obtain rfl : found = resource := (Prod.mk.inj hnew).2
    exact absurd htype (Bool.eq_false_iff.mp hversion)
  · exact h (key, found) hold htype

/-- The properties of a version that can be read either are empty or hold the name. -/
theorem findVersion_cons {key : Atom} {resource : Value}
    (hreadable : hasType versionType resource = true → ∀ properties,
      resource.entries?.bind (Entries.find? · "Properties") = some properties →
        properties.isEmpty = true ∨ properties.isMap = true)
    (logicalId : String) (rest : Entries) :
    findVersion logicalId ((key, resource) :: rest) =
      if isVersionOf logicalId resource then .ok (some key) else findVersion logicalId rest := by
  rw [findVersion, isVersionOf, functionName?]
  by_cases htype : hasType versionType resource = true
  · have hreadable := hreadable htype
    rw [if_pos htype, htype, Bool.true_and]
    rw [hasType] at htype
    cases hentries : resource.entries? with
    | none => rw [hentries] at htype; cases htype
    | some entries =>
      rw [hentries] at hreadable
      rw [Value.fieldOrNull_eq hentries, Option.bind_some]
      cases hfind : entries.find? "Properties" with
      | none => rfl
      | some properties =>
        rw [Option.bind_some]
        by_cases hempty : properties.isEmpty = true
        · have hnone : (properties.entries?.bind (Entries.find? · "FunctionName")) = none := by
            cases hinner : properties.entries? with
            | none => rfl
            | some inner => rw [Value.entries?_of_isEmpty properties hempty hinner]; rfl
          rw [hnone]
          exact if_pos hempty
        · obtain ⟨inner, hinner⟩ := Option.isSome_iff_exists.mp
            ((hreadable properties hfind).resolve_left hempty)
          refine (if_neg hempty).trans ?_
          rw [Option.getD_some, Value.fieldOrNull_eq hinner, hinner, Option.bind_some]
          cases inner.find? "FunctionName" <;> rfl
  · rw [if_neg htype, Bool.eq_false_iff.mpr htype]
    rfl

/-- A version is found exactly if there is one. -/
theorem findVersion_eq {resources : Entries} (hreadable : HaveReadableVersions resources)
    (logicalId : String) : ∃ found, findVersion logicalId resources = .ok found ∧
      found.isSome = resources.any fun entry => isVersionOf logicalId entry.2 := by
  induction resources with
  | nil => exact ⟨none, rfl, rfl⟩
  | cons entry rest ih =>
    obtain ⟨key, resource⟩ := entry
    obtain ⟨hhere, hrest⟩ := List.forall_mem_cons.mp hreadable
    obtain ⟨found, hfound, hsome⟩ := ih hrest
    rw [List.any_cons, ← hsome, findVersion_cons hhere]
    by_cases hversion : isVersionOf logicalId resource = true
    · rw [if_pos hversion, hversion]
      exact ⟨some key, rfl, rfl⟩
    · rw [if_neg hversion, Bool.eq_false_iff.mpr hversion, hfound]
      exact ⟨found, rfl, rfl⟩

theorem functionTarget?_map {template : Entries} (h : template.MapsOrLacks "Resources")
    (v : Value) :
    functionTarget? (.map template) v = .ok (directFunction? (template.under "Resources") v) := by
  rw [functionTarget?, directFunction?, resources_map h]
  rcases directTarget? v with _ | target
  · rfl
  · cases target with
    | atom a => cases a <;> rfl
    | _ => rfl

/-- Pinning fails for a function without a version and for nothing else. -/
theorem pin_failsAs {template : Entries} (h : template.MapsOrLacks "Resources")
    (hreadable : HaveReadableVersions (template.under "Resources")) (v : Value) :
    FailsAs ((unversioned? (template.under "Resources") v).map PinFailure.noVersion)
      (pin (.map template) v) := by
  rw [pin, functionTarget?_map h, unversioned?, resources_map h]
  cases directFunction? (template.under "Resources") v with
  | none => exact ⟨v, rfl⟩
  | some logicalId =>
    obtain ⟨found, hfound, hsome⟩ := findVersion_eq hreadable logicalId
    rw [Option.filter_some, ← hsome]
    change FailsAs _ ((findVersion logicalId (template.under "Resources")).mapError _ >>= _)
    rw [hfound]
    cases found with
    | none => rfl
    | some version => exact ⟨.single "Ref" (.atom version), rfl⟩

end Reference

end FlowTemplate
