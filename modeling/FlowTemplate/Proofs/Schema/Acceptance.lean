import FlowTemplate.Proofs.Schema.Cache
import FlowTemplate.Proofs.Schema.Realm
/-!
# Which documents are schemas

A document is a schema if the standard schema of its dialect has nothing against it. The standard
schemas of each dialect are a closed realm, so the order of the keys in a document does not matter.
-/

namespace FlowTemplate.Schema

open FlowTemplate.Computation

/-- The document in front of a library is found at its address. -/
theorem Library.resource?_withRoot (library : Library) (r : Resource) :
    (library.withRoot r).resource? (rootAddress r) = some r :=
  List.lookup_cons_self

namespace Standard

/-- The vocabularies that the standard schema of a dialect is put together from. -/
def vocabularyAddresses : Dialect → List String
  | .draft2019 => ["core", "applicator", "validation", "meta-data", "format", "content"].map
      fun name => Draft2019.address ("meta/" ++ name)
  | .draft2020 => Draft2020.vocabularyNames.map fun name => Draft2020.address ("meta/" ++ name)
  | _ => []

/-- The references in the standard schema of a dialect. -/
def outerReferences : Dialect → List (Option String)
  | .draft3 => [some "#"]
  | .draft4 => [some "#", some "#/definitions/positiveInteger",
      some "#/definitions/positiveIntegerDefault0", some "#/definitions/schemaArray",
      some "#/definitions/stringArray", some "#/definitions/simpleTypes"]
  | .draft6 | .draft7 => [some "#", some "#/definitions/nonNegativeInteger",
      some "#/definitions/nonNegativeIntegerDefault0", some "#/definitions/schemaArray",
      some "#/definitions/stringArray", some "#/definitions/simpleTypes"]
  | .draft2019 => [none, some "meta/core", some "meta/applicator", some "meta/validation",
      some "meta/meta-data", some "meta/format", some "meta/content",
      some "meta/validation#/$defs/stringArray"]
  | .draft2020 => [some "#meta", some "meta/core", some "meta/applicator", some "meta/unevaluated",
      some "meta/validation", some "meta/meta-data", some "meta/format-annotation",
      some "meta/content", some "meta/validation#/$defs/stringArray",
      some "meta/core#/$defs/anchorString", some "meta/core#/$defs/uriReferenceString"]

/-- The references in its vocabularies. -/
def innerReferences : Dialect → List (Option String)
  | .draft2019 => [none, some "#/$defs/schemaArray", some "#/$defs/simpleTypes",
      some "#/$defs/nonNegativeInteger", some "#/$defs/nonNegativeIntegerDefault0",
      some "#/$defs/stringArray"]
  | .draft2020 => [some "#meta", some "#/$defs/uriReferenceString", some "#/$defs/uriString",
      some "#/$defs/anchorString", some "#/$defs/schemaArray", some "#/$defs/simpleTypes",
      some "#/$defs/nonNegativeInteger", some "#/$defs/nonNegativeIntegerDefault0",
      some "#/$defs/stringArray"]
  | _ => []

/-- The standard schemas of a dialect. -/
def realm (d : Dialect) : Realm where
  dialect := d
  bases := d.address :: vocabularyAddresses d
  links base :=
    (if base = d.address then outerReferences d else innerReferences d).map fun target => ⟨d, target⟩

/-- The library in which a document is looked at as a schema of a dialect. -/
def libraryOf (d : Dialect) : Library := library.withRoot (resource d)

theorem isClosed_realm (d : Dialect) : (realm d).isClosed (libraryOf d) = true := by
  cases d <;> decide +kernel

/-- No reference leads out of the standard schemas of a dialect. -/
theorem closed_realm (d : Dialect) : (realm d).Closed (libraryOf d) :=
  Realm.closed_of_isClosed (isClosed_realm d)

theorem rootAddress_resource (d : Dialect) : Library.rootAddress (resource d) = d.address := by
  cases d <;> decide +kernel

theorem fits_document (d : Dialect) : (realm d).fits d.address (document d) = true := by
  obtain ⟨r, hr, hfits, -⟩ := (closed_realm d).resource d.address List.mem_cons_self
  rw [libraryOf, ← rootAddress_resource, Library.resource?_withRoot] at hr
  obtain rfl := Option.some.inj hr
  exact hfits

/-- What speaks against a document as a schema does not depend on the order of keys. -/
theorem ignoresOrder_check (P : String → Prop) (d : Dialect) : IgnoresOrder P (check d) := by
  have hscope : (realm d).Holds { base := Library.rootAddress (resource d) } :=
    ⟨rootAddress_resource d ▸ List.mem_cons_self, fun _ hbase => absurd hbase List.not_mem_nil⟩
  refine Schema.ignoresOrder_check
    ((closed_realm d).ignoreOrder_surroundings P true Library.depth _ hscope) _ ?_
  have hfits := fits_document d
  rw [← rootAddress_resource] at hfits
  exact hfits

end Standard

variable {P : String → Prop} {v w document : Value} {r : Resource}

/-! ## The dialect of a document -/

theorem sorted_eq_str_iff (h : v.IsJson P) (s : String) : sorted v = .str s ↔ v = .str s := by
  cases h <;> simp

theorem dialectOf_sorted (d : Dialect) {entries : Entries} (h : (Value.map entries).IsJson P) :
    dialectOf d entries.sorted = dialectOf d entries := by
  rw [dialectOf, dialectOf, Entries.find?_sorted h.nodup]
  cases hfind : Entries.find? entries "$schema" with
  | none => rfl
  | some found =>
    cases h.of_mem_map (Entries.mem_of_find? hfind) with
    | atom h => rfl
    | list h => rw [Option.map_some, sorted_list]
    | map hkeys htexts h => rw [Option.map_some, sorted_map]

theorem rootDialect_sorted (h : v.IsJson P) : rootDialect (sorted v) = rootDialect v := by
  cases h with
  | atom h => rfl
  | @list items h =>
    have hcontains : (items.map sorted).contains (.str "$schema") =
        items.contains (.str "$schema") := by
      rw [Bool.eq_iff_iff, List.contains_iff_mem, List.contains_iff_mem, List.mem_map]
      constructor
      · rintro ⟨item, hitem, hsorted⟩
        exact (sorted_eq_str_iff (h item hitem) _).mp hsorted ▸ hitem
      · exact fun hmem => ⟨_, hmem, rfl⟩
    rw [sorted_list, rootDialect, rootDialect, hcontains]
  | map hkeys htexts h =>
    rw [sorted_map, rootDialect, rootDialect]
    exact dialectOf_sorted .draft2020 (.map hkeys htexts h)

/-! ## Schemas -/

theorem isClean_eq_ok_true_iff {report : Report} : report.isClean = .ok true ↔ report.Passes := by
  rw [Report.isClean]
  cases hviolations : report.violations with
  | nil =>
    cases hfault : report.fault with
    | none => exact iff_of_true rfl ⟨hfault, hviolations⟩
    | some fault =>
      exact iff_of_false (fun h => by cases h) fun h => Option.some_ne_none _ (hfault ▸ h.fault)
  | cons violation rest =>
    exact iff_of_false (fun h => by cases h) fun h =>
      List.cons_ne_nil violation rest (hviolations ▸ h.clean)

/-- A document is a schema if its dialect can be told and the standard schema lets it pass. -/
theorem exists_resourceOf_iff : (∃ r, resourceOf document = .ok r) ↔
    ∃ d, rootDialect document = .ok d ∧ (Standard.check d document).Passes := by
  constructor
  · rintro ⟨r, hr⟩
    obtain ⟨d, hd, hrest⟩ := bind_eq_ok hr
    obtain ⟨accepted, haccepted, hlast⟩ := bind_eq_ok hrest
    refine ⟨d, hd, isClean_eq_ok_true_iff.mp ?_⟩
    cases accepted with
    | true => exact haccepted
    | false => cases hlast
  · rintro ⟨d, hd, hpasses⟩
    exact ⟨_, resourceOf_eq hd (isClean_eq_ok_true_iff.mpr hpasses)⟩

/-- Documents that differ in the order of keys only are both schemas, or none is. -/
theorem resourceOf_sorted (hv : v.IsJson P) (hw : w.IsJson P) (hsame : sorted v = sorted w) :
    (∃ r, resourceOf v = .ok r) ↔ ∃ r, resourceOf w = .ok r := by
  have hdialect : rootDialect v = rootDialect w := by
    rw [← rootDialect_sorted hv, hsame, rootDialect_sorted hw]
  rw [exists_resourceOf_iff, exists_resourceOf_iff, hdialect]
  refine exists_congr fun d => and_congr_right fun _ => ?_
  exact ((Standard.ignoresOrder_check P d).endsLike hv hw hsame).passes

end FlowTemplate.Schema
