import FlowTemplate.Proofs.Compile.ExactVersion
import FlowTemplate.Proofs.Reference.Resolve
import Mathlib.Logic.Relation
/-!
# Versions that are found

A direct reference to a function of the template is pinned to the first version that names the
function; there is no other way for it to fail than that no version does, and every other value
stays. The answer is final: a reference to a version is no reference to a function, so pinning it
again keeps it. It is also stable: resources that are added stand behind the version that was found,
and as long as the function and that version are not removed, what is removed is neither of them, so
the version is still the first.
-/

namespace FlowTemplate

namespace Reference

variable {template resources resources' : Entries} {v w resource : Value} {X Y V : String}
  {key : Atom}

/-! ## References, functions and versions -/

/-- A direct reference to what stands under a logical ID: to the thing itself or to its address. -/
inductive RefersTo (X : String) : Value → Prop
  | name : RefersTo X (.single "Ref" (.str X))
  | pair : RefersTo X (.single "Fn::GetAtt" (.list [.str X, .str "Arn"]))
  | dotted : '.' ∉ X.toList → RefersTo X (.single "Fn::GetAtt" (.str (X ++ "." ++ "Arn")))

def IsFunction (resources : Entries) (X : String) : Prop :=
  ∃ fields : Entries, resources.find? X = some (.map fields) ∧
    fields.find? "Type" = some (.str functionType)

/-- A version of the function with the logical ID. -/
def IsVersionFor (X : String) (resource : Value) : Prop :=
  ∃ fields properties : Entries, resource = .map fields ∧
    fields.find? "Type" = some (.str versionType) ∧
    fields.find? "Properties" = some (.map properties) ∧
    (properties.find? "FunctionName" = some (.str X) ∨
      properties.find? "FunctionName" = some (.single "Ref" (.str X)))

/-- In the order of the template no version of the function stands before this one. -/
def IsFirstVersion (resources : Entries) (X V : String) : Prop :=
  ∃ before resource after, resources = before ++ (.str V, resource) :: after ∧
    IsVersionFor X resource ∧ ∀ entry ∈ before, ¬ IsVersionFor X entry.2

/-- A mapping; the properties of a version are a mapping or null, if it has any. -/
def IsResource (resource : Value) : Prop :=
  ∃ fields : Entries, resource = .map fields ∧ (fields.find? "Type" = some (.str versionType) →
    ∀ found, fields.find? "Properties" = some found →
      found = .null ∨ ∃ properties, found = .map properties)

/-- Resources under logical IDs, each of which stands once. -/
structure IsSection (resources : Entries) : Prop where
  keys : resources.areDistinct = true
  each : ∀ entry ∈ resources, IsResource entry.2

theorem refersTo_iff : RefersTo X v ↔ directTarget? v = some (.str X) := by
  constructor
  · intro h
    cases h with
    | name => rfl
    | pair => rfl
    | dotted hdot =>
      have hparts : parts? (.str (X ++ "." ++ "Arn")) = some (.str X, .str "Arn") :=
        parts?_eq_some_iff.mpr (.inr ⟨_, _, rfl, rfl, hdot, .inl rfl⟩)
      rw [directTarget?, hparts]
      rfl
  · intro h
    rw [directTarget?.eq_def] at h
    split at h
    · split at h
      · rename_i argument target hparts
        obtain rfl := Option.some.inj h
        rcases parts?_eq_some_iff.mp hparts with rfl | ⟨s, rest, rfl, hrest, hdot, hsplit⟩
        · exact .pair
        · obtain rfl := Atom.str.inj (Value.atom.inj hrest)
          rcases hsplit with rfl | ⟨-, hempty⟩
          · exact .dotted hdot
          · exact absurd hempty (by decide)
      · cases h
    · obtain rfl := Option.some.inj h
      exact .name
    · cases h

theorem RefersTo.unique (hX : RefersTo X v) (hY : RefersTo Y v) : X = Y := by
  have hsome := (refersTo_iff.mp hX).symm.trans (refersTo_iff.mp hY)
  exact Atom.str.inj (Value.atom.inj (Option.some.inj hsome))

theorem hasType_map_iff {type : String} {fields : Entries} :
    hasType type (.map fields) = true ↔ fields.find? "Type" = some (.str type) := by
  rw [hasType_map, beq_iff_eq]

theorem IsFunction.any (h : IsFunction resources X) :
    (resources.find? X).any (hasType functionType) = true := by
  obtain ⟨fields, hfind, htype⟩ := h
  rw [hfind, Option.any_some]
  exact hasType_map_iff.mpr htype

theorem directFunction?_eq_some (hrefers : RefersTo X v) (hfunction : IsFunction resources X) :
    directFunction? resources v = some X := by
  rw [directFunction?, refersTo_iff.mp hrefers]
  exact if_pos hfunction.any

theorem directFunction?_eq_none (h : IsSection resources)
    (hnot : ∀ X, RefersTo X v → ¬ IsFunction resources X) : directFunction? resources v = none := by
  rw [directFunction?.eq_def]
  split
  · rename_i X htarget
    rw [if_neg]
    intro hany
    obtain ⟨resource, hfind, htype⟩ := (Option.any_eq_true ..).mp hany
    obtain ⟨fields, rfl, -⟩ := h.each _ (Entries.mem_of_find? hfind)
    exact hnot X (refersTo_iff.mpr htarget) ⟨fields, hfind, hasType_map_iff.mp htype⟩
  · rfl

theorem IsVersionFor.isVersionOf (h : IsVersionFor X resource) : isVersionOf X resource = true := by
  obtain ⟨fields, properties, rfl, htype, hproperties, hname⟩ := h
  have hname? : functionName? (.map fields) = properties.find? "FunctionName" := by
    change ((fields.find? "Properties").bind Value.entries?).bind _ = _
    rw [hproperties]
    rfl
  rw [Reference.isVersionOf, hasType_map_iff.mpr htype, hname?, Bool.true_and]
  rcases hname with hname | hname <;> simp [hname, namesFunction]

/-- A resource is a version of the function exactly if the search takes it for one. -/
theorem isVersionOf_iff (h : IsResource resource) :
    isVersionOf X resource = true ↔ IsVersionFor X resource := by
  refine ⟨fun hversion => ?_, IsVersionFor.isVersionOf⟩
  obtain ⟨fields, rfl, hproperties⟩ := h
  obtain ⟨htype, hname⟩ := Bool.and_eq_true_iff.mp hversion
  have htype := hasType_map_iff.mp htype
  have hname? : functionName? (.map fields) =
      ((fields.find? "Properties").bind Value.entries?).bind (Entries.find? · "FunctionName") := rfl
  rw [hname?] at hname
  cases hfind : fields.find? "Properties" with
  | none =>
    rw [hfind] at hname
    cases hname
  | some found =>
    rw [hfind] at hname
    rcases hproperties htype found hfind with rfl | ⟨properties, rfl⟩
    · cases hname
    · obtain ⟨name, hfound, hnames⟩ := (Option.any_eq_true ..).mp hname
      refine ⟨fields, properties, rfl, htype, hfind, ?_⟩
      rcases Bool.or_eq_true_iff.mp hnames with heq | heq
      · exact .inl (hfound.trans (congrArg some (beq_iff_eq.mp heq)))
      · exact .inr (hfound.trans (congrArg some (beq_iff_eq.mp heq)))

/-! ## The search -/

theorem IsResource.readable (h : IsResource resource) :
    hasType versionType resource = true → ∀ properties,
      resource.entries?.bind (Entries.find? · "Properties") = some properties →
        properties.isEmpty = true ∨ properties.isMap = true := by
  obtain ⟨fields, rfl, hproperties⟩ := h
  intro htype found hfind
  rcases hproperties (hasType_map_iff.mp htype) found hfind with rfl | ⟨properties, rfl⟩
  · exact .inl rfl
  · exact .inr rfl

/-- The search passes over everything that is no version of the function. -/
theorem findVersion_append {before : Entries}
    (h : ∀ entry ∈ before, IsResource entry.2 ∧ ¬ IsVersionFor X entry.2) (rest : Entries) :
    findVersion X (before ++ rest) = findVersion X rest := by
  induction before with
  | nil => rfl
  | cons entry before ih =>
    obtain ⟨key, resource⟩ := entry
    obtain ⟨⟨hresource, hversion⟩, hbefore⟩ := List.forall_mem_cons.mp h
    have hnot : ¬ isVersionOf X resource = true := mt (isVersionOf_iff hresource).mp hversion
    rw [List.cons_append, findVersion_cons hresource.readable, if_neg hnot, ih hbefore]

theorem findVersion_of_first {before after : Entries}
    (hbefore : ∀ entry ∈ before, IsResource entry.2 ∧ ¬ IsVersionFor X entry.2)
    (hresource : IsResource resource) (hversion : IsVersionFor X resource) :
    findVersion X (before ++ (key, resource) :: after) = .ok (some key) := by
  rw [findVersion_append hbefore, findVersion_cons hresource.readable, if_pos hversion.isVersionOf]

theorem findVersion_of_none (h : IsSection resources)
    (hnone : ∀ entry ∈ resources, ¬ IsVersionFor X entry.2) :
    findVersion X resources = .ok none := by
  have happend := findVersion_append (X := X)
    (fun entry hentry => ⟨h.each entry hentry, hnone entry hentry⟩) []
  rwa [List.append_nil] at happend

theorem exists_isFirstVersion (h : IsSection resources) {entry : Atom × Value}
    (hentry : entry ∈ resources) (hversion : IsVersionFor X entry.2) :
    ∃ V, IsFirstVersion resources X V := by
  classical
  have hsome :
      (List.find? (fun entry => decide (IsVersionFor X entry.2)) resources).isSome = true :=
    List.find?_isSome.mpr ⟨entry, hentry, decide_eq_true hversion⟩
  obtain ⟨first, hfirst⟩ := Option.isSome_iff_exists.mp hsome
  obtain ⟨hfound, before, after, hsplit, hbefore⟩ := List.find?_eq_some_iff_append.mp hfirst
  obtain ⟨key, resource⟩ := first
  have hkey : key ∈ resources.keys :=
    List.mem_map.mpr ⟨(key, resource), hsplit ▸ List.mem_append_cons_self, rfl⟩
  obtain ⟨V, rfl⟩ := (Entries.areDistinct_iff.mp h.keys).1 key hkey
  refine ⟨V, before, resource, after, hsplit, of_decide_eq_true hfound, ?_⟩
  intro entry hentry
  simpa using hbefore entry hentry

/-! ## What pinning comes to -/

theorem mapsOrLacks_of_find? (h : template.find? "Resources" = some (.map resources)) :
    template.MapsOrLacks "Resources" := by
  intro found hfound
  exact ⟨resources, Option.some.inj (hfound.symm.trans h)⟩

theorem pin_of_directFunction? (h : template.find? "Resources" = some (.map resources))
    (hdirect : directFunction? resources v = none) : pin (.map template) v = .ok v := by
  have hunder : template.under "Resources" = resources := by rw [Entries.under, h]
  rw [pin, functionTarget?_map (mapsOrLacks_of_find? h), hunder, hdirect]
  rfl

theorem pin_of_findVersion (h : template.find? "Resources" = some (.map resources))
    (hrefers : RefersTo X v) (hfunction : IsFunction resources X) {found : Option Atom}
    (hfind : findVersion X resources = .ok found) :
    pin (.map template) v =
      found.elim (.error (.noVersion X)) fun key => .ok (.single "Ref" (.atom key)) := by
  have hunder : template.under "Resources" = resources := by rw [Entries.under, h]
  have hmaps := mapsOrLacks_of_find? h
  rw [pin, functionTarget?_map hmaps, resources_map hmaps, hunder,
    directFunction?_eq_some hrefers hfunction]
  change ((findVersion X resources).mapError PinFailure.misfit >>= _) = _
  rw [hfind]
  cases found <;> rfl

/-- What keeps a reference to the function pinned to the version. -/
structure StaysPinned (X V : String) (resources : Entries) : Prop where
  function : IsFunction resources X
  version : ∃ before resource after, resources = before ++ (.str V, resource) :: after ∧
    IsResource resource ∧ IsVersionFor X resource ∧
    ∀ entry ∈ before, IsResource entry.2 ∧ ¬ IsVersionFor X entry.2

theorem StaysPinned.pin (h : StaysPinned X V resources)
    (htemplate : template.find? "Resources" = some (.map resources)) (hrefers : RefersTo X v) :
    Reference.pin (.map template) v = .ok (.single "Ref" (.str V)) := by
  obtain ⟨before, resource, after, hsplit, hresource, hversion, hbefore⟩ := h.version
  have hfind : findVersion X resources = .ok (some (.str V)) := by
    rw [hsplit]
    exact findVersion_of_first hbefore hresource hversion
  exact pin_of_findVersion htemplate hrefers h.function hfind

theorem IsFirstVersion.staysPinned (hfirst : IsFirstVersion resources X V)
    (hsection : IsSection resources) (hfunction : IsFunction resources X) :
    StaysPinned X V resources := by
  obtain ⟨before, resource, after, rfl, hversion, hbefore⟩ := hfirst
  refine ⟨hfunction, before, resource, after, rfl, ?_, hversion, fun entry hentry => ⟨?_, ?_⟩⟩
  · exact hsection.each (.str V, resource) List.mem_append_cons_self
  · exact hsection.each entry (List.mem_append_left _ hentry)
  · exact hbefore entry hentry

theorem pin_of_isFirstVersion (h : template.find? "Resources" = some (.map resources))
    (hsection : IsSection resources) (hrefers : RefersTo X v) (hfunction : IsFunction resources X)
    (hfirst : IsFirstVersion resources X V) :
    pin (.map template) v = .ok (.single "Ref" (.str V)) :=
  (hfirst.staysPinned hsection hfunction).pin h hrefers

theorem pin_of_noVersion (h : template.find? "Resources" = some (.map resources))
    (hsection : IsSection resources) (hrefers : RefersTo X v) (hfunction : IsFunction resources X)
    (hnone : ∀ entry ∈ resources, ¬ IsVersionFor X entry.2) :
    pin (.map template) v = .error (.noVersion X) :=
  pin_of_findVersion h hrefers hfunction (findVersion_of_none hsection hnone)

/-- The reference to a version is none to a function. -/
theorem not_isFunction_of_isFirstVersion (hsection : IsSection resources)
    (hfirst : IsFirstVersion resources X V) : ¬ IsFunction resources V := by
  rintro ⟨fields, hfind, hfunction⟩
  obtain ⟨before, resource, after, hsplit, ⟨_, _, rfl, hversion, -⟩, -⟩ := hfirst
  have hmem : (.str V, .map _) ∈ resources := hsplit ▸ List.mem_append_cons_self
  have hfound := Entries.find?_of_mem (Entries.areDistinct_iff.mp hsection.keys).2 hmem
  obtain rfl := Value.map.inj (Option.some.inj (hfind.symm.trans hfound))
  have htypes := Atom.str.inj (Value.atom.inj (Option.some.inj (hfunction.symm.trans hversion)))
  exact absurd htypes (by decide)

/-- What pinning a value among some resources comes to. -/
inductive PinsTo (resources : Entries) (v : Value) : Except PinFailure Value → Prop
  | kept : (∀ X, RefersTo X v → ¬ IsFunction resources X) → PinsTo resources v (.ok v)
  | version {X V : String} : RefersTo X v → IsFunction resources X → IsFirstVersion resources X V →
      PinsTo resources v (.ok (.single "Ref" (.str V)))
  | failed {X : String} : RefersTo X v → IsFunction resources X →
      (∀ entry ∈ resources, ¬ IsVersionFor X entry.2) → PinsTo resources v (.error (.noVersion X))

section

variable (htemplate : template.find? "Resources" = some (.map resources))
  (hsection : IsSection resources)
include htemplate hsection

theorem pinsTo_pin (v : Value) : PinsTo resources v (pin (.map template) v) := by
  by_cases hdirect : ∃ X, RefersTo X v ∧ IsFunction resources X
  · obtain ⟨X, hrefers, hfunction⟩ := hdirect
    by_cases hsome : ∃ entry ∈ resources, IsVersionFor X entry.2
    · obtain ⟨entry, hentry, hversion⟩ := hsome
      obtain ⟨V, hfirst⟩ := exists_isFirstVersion hsection hentry hversion
      rw [pin_of_isFirstVersion htemplate hsection hrefers hfunction hfirst]
      exact .version hrefers hfunction hfirst
    · have hnone : ∀ entry ∈ resources, ¬ IsVersionFor X entry.2 :=
        fun entry hentry hversion => hsome ⟨entry, hentry, hversion⟩
      rw [pin_of_noVersion htemplate hsection hrefers hfunction hnone]
      exact .failed hrefers hfunction hnone
  · have hnot : ∀ X, RefersTo X v → ¬ IsFunction resources X :=
      fun X hrefers hfunction => hdirect ⟨X, hrefers, hfunction⟩
    rw [pin_of_directFunction? htemplate (directFunction?_eq_none hsection hnot)]
    exact .kept hnot

theorem pin_eq_self_iff :
    pin (.map template) v = .ok v ↔ ∀ X, RefersTo X v → ¬ IsFunction resources X := by
  constructor
  · intro hpin X hrefers hfunction
    have hpins := pinsTo_pin htemplate hsection v
    rw [hpin] at hpins
    cases hpins with
    | kept hnot => exact hnot X hrefers hfunction
    | version hrefers' hfunction' hfirst =>
      obtain rfl := hrefers'.unique .name
      exact not_isFunction_of_isFirstVersion hsection hfirst hfunction'
  · intro hnot
    exact pin_of_directFunction? htemplate (directFunction?_eq_none hsection hnot)

theorem pin_eq_version_iff (hrefers : RefersTo X v) (hfunction : IsFunction resources X) :
    pin (.map template) v = .ok (.single "Ref" (.str V)) ↔ IsFirstVersion resources X V := by
  constructor
  · intro hpin
    have hpins := pinsTo_pin htemplate hsection v
    generalize hw : Value.single "Ref" (.str V) = w at hpin
    rw [hpin] at hpins
    cases hpins with
    | kept hnot => exact absurd hfunction (hnot X hrefers)
    | version hrefers' hfunction' hfirst =>
      obtain rfl := hrefers.unique hrefers'
      obtain rfl := Atom.str.inj (Value.atom.inj (Value.single_inj hw).2)
      exact hfirst
  · exact pin_of_isFirstVersion htemplate hsection hrefers hfunction

theorem pin_eq_error_iff {failure : PinFailure} : pin (.map template) v = .error failure ↔
    ∃ X, failure = .noVersion X ∧ RefersTo X v ∧ IsFunction resources X ∧
      ∀ entry ∈ resources, ¬ IsVersionFor X entry.2 := by
  constructor
  · intro hpin
    have hpins := pinsTo_pin htemplate hsection v
    rw [hpin] at hpins
    cases hpins with
    | failed hrefers hfunction hnone => exact ⟨_, rfl, hrefers, hfunction, hnone⟩
  · rintro ⟨X, rfl, hrefers, hfunction, hnone⟩
    exact pin_of_noVersion htemplate hsection hrefers hfunction hnone

/-- What has been pinned stays when it is pinned again. -/
theorem pin_of_pin (hpin : pin (.map template) v = .ok w) : pin (.map template) w = .ok w := by
  have hpins := pinsTo_pin htemplate hsection v
  rw [hpin] at hpins
  cases hpins with
  | kept => exact hpin
  | version hrefers hfunction hfirst =>
    refine (pin_eq_self_iff htemplate hsection).mpr fun Y hrefersY => ?_
    obtain rfl := hrefersY.unique .name
    exact not_isFunction_of_isFirstVersion hsection hfirst

end

/-! ## Templates that change -/

/-- One change to the resources that leaves two of them alone: a new resource, or one of the others
removed. -/
inductive Change (X V : String) (resources : Entries) : Entries → Prop
  | added (key : String) (resource : Value) : resources.find? key = none →
      Change X V resources (resources.insert (.str key) resource)
  | removed (key : String) : key ≠ X → key ≠ V → Change X V resources (resources.erase key)

theorem StaysPinned.change (h : StaysPinned X V resources)
    (hchange : Change X V resources resources') : StaysPinned X V resources' := by
  obtain ⟨fields, hfind, htype⟩ := h.function
  obtain ⟨before, resource, after, hsplit, hresource, hversion, hbefore⟩ := h.version
  cases hchange with
  | added key new hnew =>
    have hnotMem := Entries.find?_eq_none_iff.mp hnew
    have hne : X ≠ key := by
      rintro rfl
      rw [hfind] at hnew
      cases hnew
    refine ⟨⟨fields, ?_, htype⟩, before, resource, after ++ [(.str key, new)], ?_, hresource,
      hversion, hbefore⟩
    · rw [Entries.find?_insert, if_neg hne, hfind]
    · rw [Entries.insert_of_notMem hnotMem, hsplit, List.append_assoc, List.cons_append]
  | removed key hX hV =>
    refine ⟨⟨fields, ?_, htype⟩, Entries.erase before key, resource, Entries.erase after key, ?_,
      hresource, hversion, ?_⟩
    · rw [Entries.find?_erase hX.symm, hfind]
    · rw [hsplit, Entries.erase_append_cons hV.symm]
    · intro entry hentry
      exact hbefore entry (List.mem_filter.mp hentry).1

/-- By induction on the changes. -/
theorem StaysPinned.history (h : StaysPinned X V resources)
    (hhistory : Relation.ReflTransGen (Change X V) resources resources') :
    StaysPinned X V resources' := by
  induction hhistory with
  | refl => exact h
  | tail _ hchange ih => exact ih.change hchange

/-- Pinning a value in a template whose resources are mappings. The value stays exactly if it is no
direct reference to a function; otherwise it becomes a reference to the first version of the
function, and there is a failure exactly if there is none. What has been pinned stays when it is
pinned again, and a function that has been pinned to a version is pinned to it after any changes
that leave the two. -/
theorem pin_exactly (template resources : Entries)
    (htemplate : template.find? "Resources" = some (.map resources))
    (hsection : IsSection resources) (v : Value) :
    (pin (.map template) v = .ok v ↔ ∀ X, RefersTo X v → ¬ IsFunction resources X) ∧
      (∀ X, RefersTo X v → IsFunction resources X → ∀ V,
        pin (.map template) v = .ok (.single "Ref" (.str V)) ↔ IsFirstVersion resources X V) ∧
      (∀ failure, pin (.map template) v = .error failure ↔
        ∃ X, failure = .noVersion X ∧ RefersTo X v ∧ IsFunction resources X ∧
          ∀ entry ∈ resources, ¬ IsVersionFor X entry.2) ∧
      (∀ w, pin (.map template) v = .ok w → pin (.map template) w = .ok w) ∧
      ∀ X V, RefersTo X v → IsFunction resources X →
        pin (.map template) v = .ok (.single "Ref" (.str V)) →
        ∀ template' resources' : Entries, Relation.ReflTransGen (Change X V) resources resources' →
          template'.find? "Resources" = some (.map resources') →
          pin (.map template') v = .ok (.single "Ref" (.str V)) := by
  refine ⟨pin_eq_self_iff htemplate hsection,
    fun X hrefers hfunction V => pin_eq_version_iff htemplate hsection hrefers hfunction,
    fun failure => pin_eq_error_iff htemplate hsection,
    fun w => pin_of_pin htemplate hsection, ?_⟩
  intro X V hrefers hfunction hpin template' resources' hhistory htemplate'
  have hfirst := (pin_eq_version_iff htemplate hsection hrefers hfunction).mp hpin
  exact ((hfirst.staysPinned hsection hfunction).history hhistory).pin htemplate' hrefers

/-- A bucket is removed and a second version is added. -/
theorem pin_exactly_hello :
    let function : Value := .single "Type" (.str functionType)
    let version : Value := .object [("Type", .str versionType),
      ("Properties", .single "FunctionName" (.single "Ref" (.str "Hello")))]
    let bucket : Value := .single "Type" (.str "AWS::S3::Bucket")
    let resources : Entries :=
      [(.str "Bucket", bucket), (.str "Hello", function), (.str "HelloVersion", version)]
    let resources' : Entries :=
      [(.str "Hello", function), (.str "HelloVersion", version), (.str "Later", version)]
    let v : Value := .single "Fn::GetAtt" (.str "Hello.Arn")
    IsSection resources ∧ RefersTo "Hello" v ∧ IsFunction resources "Hello" ∧
      pin (.single "Resources" (.map resources)) v = .ok (.single "Ref" (.str "HelloVersion")) ∧
      Relation.ReflTransGen (Change "Hello" "HelloVersion") resources resources' ∧
      pin (.single "Resources" (.map resources')) v =
        .ok (.single "Ref" (.str "HelloVersion")) := by
  intro function version bucket resources resources' v
  have hsection : IsSection resources := by
    refine ⟨by decide, ?_⟩
    have hversion : ∀ found, Entries.find? [(.str "Type", .str versionType),
        (.str "Properties", .single "FunctionName" (.single "Ref" (.str "Hello")))] "Properties" =
          some found → found = .null ∨ ∃ properties, found = .map properties := by
      intro found hfound
      exact .inr ⟨_, (Option.some.inj hfound).symm⟩
    simp only [resources, List.forall_mem_cons]
    refine ⟨⟨_, rfl, ?_⟩, ⟨_, rfl, ?_⟩, ⟨_, rfl, fun _ => hversion⟩, by simp⟩
    · exact fun htype => absurd htype (by decide)
    · exact fun htype => absurd htype (by decide)
  have hrefers : RefersTo "Hello" v := .dotted (by decide)
  have hfunction : IsFunction resources "Hello" := ⟨_, rfl, rfl⟩
  have hpin : pin (.single "Resources" (.map resources)) v =
      .ok (.single "Ref" (.str "HelloVersion")) := rfl
  have hremoved : Change "Hello" "HelloVersion" resources (resources.erase "Bucket") :=
    .removed "Bucket" (by decide) (by decide)
  have hadded : Change "Hello" "HelloVersion" (resources.erase "Bucket") resources' :=
    .added "Later" version rfl
  have hhistory : Relation.ReflTransGen (Change "Hello" "HelloVersion") resources resources' :=
    .tail (.single hremoved) hadded
  obtain ⟨-, -, -, -, hstable⟩ :=
    pin_exactly [(.str "Resources", .map resources)] resources rfl hsection v
  exact ⟨hsection, hrefers, hfunction, hpin, hhistory,
    hstable "Hello" "HelloVersion" hrefers hfunction hpin _ resources' hhistory rfl⟩

end Reference

end FlowTemplate
