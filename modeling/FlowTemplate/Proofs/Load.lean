import FlowTemplate.Proofs.Computation
import FlowTemplate.Proofs.Yaml.Readable
/-!
# Failures of loading

A file that cannot be read, holds no JSON or YAML, or holds a document of another form is reported.
Some failures are not: those of a path that is no path, of bytes that are not UTF-8, of JSON beyond
the limits of its reader, and of YAML that is not malformed and still has no value.
-/

namespace FlowTemplate

open FlowTemplate.Computation

namespace Yaml

/-- What can be wrong with a text that is not malformed. -/
inductive Cause (text : String) : Prop where
  /-- Nodes are nested deeper than they are read. -/
  | depth (count : Nat)
      (h : TokenStream.maxDepth <
        ((TokenStream.ofString text).tokens.take count).foldl TokenStream.depthAfter 0)
  /-- An escape names a code beyond the last one. -/
  | escape (fault : Fault) (hstream : (TokenStream.ofString text).fault = some fault)
      (hfault : fault = .unreadable ∨ fault = .hugeCode)
  /-- A scalar writes no value under its tag, a mapping stands for one that may write none, or the
  document holds itself and has merges or such mappings. -/
  | node (node : Node) (hnode : Node.ofTokens (TokenStream.ofString text) = .ok (some node))
      (hreadable : ∀ merges, node.everywhere (Node.isReadable merges) = false)

theorem TokenStream.exists_take_of_shallow {depth : Nat} {tokens : List Token}
    (h : (shallow depth tokens).2 = true) :
    ∃ count, maxDepth < (tokens.take count).foldl depthAfter depth := by
  induction tokens generalizing depth with
  | nil => cases h
  | cons t rest ih =>
    rw [shallow] at h
    dsimp only at h
    split at h
    · exact ⟨1, ‹_›⟩
    · obtain ⟨count, hcount⟩ := ih h
      exact ⟨count + 1, hcount⟩

/-- A text that is not malformed and has no value has one of the causes. -/
theorem cause_of_loadNumbered {text : String} {fault : Fault}
    (h : loadNumbered text = .error fault) (hfault : fault ≠ .malformed) : Cause text := by
  cases hdepth : (TokenStream.shallow 0 (TokenStream.ofString text).tokens).2 with
  | true =>
    obtain ⟨count, hcount⟩ := TokenStream.exists_take_of_shallow hdepth
    exact .depth count hcount
  | false =>
    have hwithin : (TokenStream.ofString text).withinDepth = TokenStream.ofString text := by
      unfold TokenStream.withinDepth
      split
      · rename_i heq
        rw [heq] at hdepth
        cases hdepth
      · rfl
    rw [loadNumbered, hwithin] at h
    cases hnode : Node.ofTokens (TokenStream.ofString text) with
    | error e =>
      rw [hnode] at h
      cases h
      have hstream := (Node.fault_of_ofTokens hnode).resolve_left hfault
      refine .escape fault hstream ?_
      have htext := TokenStream.isOfText_of_ofString hstream
      cases fault <;> simp_all [Fault.isOfText]
    | ok node? =>
      rw [hnode] at h
      cases node? with
      | none => cases h
      | some node =>
        refine .node node hnode fun merges => ?_
        cases hreadable : node.everywhere (Node.isReadable merges) with
        | false => rfl
        | true =>
          have hvalue : node.numberedValue = .error fault := h
          obtain ⟨trouble, htrouble, rfl⟩ := exists_of_mapError hvalue
          have hstart : Depth.IsSound {} := by
            intro entry hentry
            cases hentry
          have hsound := Node.isSound_valueAt {} hstart node hreadable
          exact absurd (hsound trouble htrouble) hfault

/-- With the numbers of containers or without them a text has the same fault. -/
theorem load_eq (text : String) : load text = (loadNumbered text).map Value.unrolled := by
  rw [load, loadNumbered]
  cases Node.ofTokens (TokenStream.ofString text).withinDepth with
  | error e => rfl
  | ok node? => cases node? <;> rfl

end Yaml

namespace Load

/-- Something fails in a way that an author is not told about. -/
def Escapes {α : Type} (x : Except LoadFailure α) : Prop :=
  ∃ e, x = .error e ∧ e.isReported = false

/-- A text with its line ends alike. -/
def unified (text : String) : String := String.ofList (Text.unifyLineEnds text.toList)

/-- What makes loading from a path fail in a way that an author is not told about. -/
inductive Escape (folder : Folder) (path : String) : Prop where
  /-- The path is no path. -/
  | path (e : PathFault) (hpath : Path.fault? path = some e)
  /-- The bytes are not UTF-8, and what could be read before that shows is not malformed. -/
  | bytes (data : List UInt8) (hpath : Path.fault? path = none)
      (hread : folder.read (Path.plain path) = .ok data) (htext : Text.ofBytes? data = none)
      (hbefore : isJson path = true ∨
        ∀ start, Text.takenBefore? Text.unifyLineEnds data = some start →
          Yaml.faultOfStart start ≠ .malformed)
  /-- The JSON has an integer with too many digits, or containers nested too deep. -/
  | json (data : List UInt8) (text : String) (excess : Json.Excess)
      (hpath : Path.fault? path = none) (hread : folder.read (Path.plain path) = .ok data)
      (htext : Text.ofBytes? data = some text) (hjson : isJson path = true)
      (hexcess : Json.excess? (unified text) = some excess)
  /-- The YAML is not malformed and has no value. -/
  | yaml (data : List UInt8) (text : String) (fault : Yaml.Fault)
      (hpath : Path.fault? path = none) (hread : folder.read (Path.plain path) = .ok data)
      (htext : Text.ofBytes? data = some text) (hjson : isJson path = false)
      (hload : Yaml.load (unified text) = .error fault) (hfault : fault ≠ .malformed)

theorem isReported_yamlFailure (path : String) (fault : Yaml.Fault) :
    (yamlFailure path fault).isReported = false ↔ fault ≠ .malformed := by
  cases fault <;> simp [yamlFailure, LoadFailure.isReported]

variable {folder : Folder} {path : String}

theorem escapes_error (e : LoadFailure) {α : Type} :
    Escapes (.error e : Except LoadFailure α) ↔ e.isReported = false := by
  constructor
  · rintro ⟨e', he, h⟩
    cases he
    exact h
  · exact fun h => ⟨e, rfl, h⟩

theorem escapes_ok {α : Type} (a : α) : ¬ Escapes (.ok a : Except LoadFailure α) := by
  rintro ⟨e, h, -⟩
  cases h

/-- What is made of a document by a step that reports its own failures. -/
theorem escapes_bind {α β : Type} {x : Except LoadFailure α} {f : α → Except LoadFailure β}
    (h : ∀ a e, f a = .error e → e.isReported = true) : Escapes (x >>= f) ↔ Escapes x := by
  cases x with
  | error e => exact (escapes_error e).trans (escapes_error e).symm
  | ok a =>
    refine iff_of_false ?_ (escapes_ok a)
    rintro ⟨e, he, hreported⟩
    rw [h a e he] at hreported
    cases hreported

theorem escapes_undecodable (data : List UInt8) :
    (undecodable path data).isReported = false ↔ (isJson path = true ∨
      ∀ start, Text.takenBefore? Text.unifyLineEnds data = some start →
        Yaml.faultOfStart start ≠ .malformed) := by
  unfold undecodable
  cases hjson : isJson path with
  | true => simp [LoadFailure.isReported]
  | false =>
    cases hbefore : Text.takenBefore? Text.unifyLineEnds data with
    | none => simp [LoadFailure.isReported]
    | some start => simpa using isReported_yamlFailure path (Yaml.faultOfStart start)

theorem escapes_parse_json (hjson : isJson path = true) (numbered : Bool) (text : String) :
    Escapes (parse numbered path text) ↔ ∃ excess, Json.excess? (unified text) = some excess := by
  unfold parse unified
  dsimp only
  rw [if_pos hjson]
  cases Json.excess? (String.ofList (Text.unifyLineEnds text.toList)) with
  | some e => exact iff_of_true ((escapes_error _).mpr rfl) ⟨e, rfl⟩
  | none =>
    refine iff_of_false ?_ (by simp)
    rintro ⟨e, he, hreported⟩
    obtain ⟨e', -, rfl⟩ := exists_of_mapError he
    cases hreported

theorem escapes_parse_yaml (hjson : isJson path = false) (numbered : Bool) (text : String) :
    Escapes (parse numbered path text) ↔
      ∃ fault, Yaml.load (unified text) = .error fault ∧ fault ≠ .malformed := by
  have hparse : parse numbered path text =
      (if numbered then Yaml.loadNumbered (unified text) else Yaml.load (unified text)).mapError
        (yamlFailure path) := if_neg (by simp [hjson])
  have hsame (fault : Yaml.Fault) :
      (if numbered then Yaml.loadNumbered (unified text) else Yaml.load (unified text)) =
        .error fault ↔ Yaml.load (unified text) = .error fault := by
    cases numbered with
    | false => exact Iff.rfl
    | true =>
      rw [Yaml.load_eq]
      cases Yaml.loadNumbered (unified text) <;> simp [Except.map]
  rw [hparse]
  constructor
  · rintro ⟨e, he, hreported⟩
    obtain ⟨fault, hfault, rfl⟩ := exists_of_mapError he
    exact ⟨fault, (hsame fault).mp hfault, (isReported_yamlFailure path fault).mp hreported⟩
  · rintro ⟨fault, hload, hfault⟩
    rw [(hsame fault).mpr hload]
    exact (escapes_error _).mpr ((isReported_yamlFailure path fault).mpr hfault)

/-! ## What is at a path -/

theorem document_of_fault {e : PathFault} (hpath : Path.fault? path = some e) (numbered : Bool) :
    document numbered folder path = .error (.badPath e) := by
  rw [document, hpath]
  rfl

theorem document_of_failure {e : PathFailure} (hpath : Path.fault? path = none)
    (hread : folder.read (Path.plain path) = .error e) (numbered : Bool) :
    document numbered folder path = .error (.unreadable (Path.plain path) e) := by
  rw [document, hpath, hread]
  rfl

section

variable {data : List UInt8} (hpath : Path.fault? path = none)
  (hread : folder.read (Path.plain path) = .ok data)
include hpath hread

theorem document_of_read (numbered : Bool) : document numbered folder path =
    match Text.ofBytes? data with
    | none => .error (undecodable path data)
    | some text => parse numbered path text := by
  have hdata : (folder.read (Path.plain path)).mapError
      (LoadFailure.unreadable (Path.plain path)) = .ok data := by
    rw [hread, mapError_ok]
  rw [document, hpath, bind_of_ok hdata]
  cases Text.ofBytes? data <;> rfl

theorem document_of_bytes (htext : Text.ofBytes? data = none) (numbered : Bool) :
    document numbered folder path = .error (undecodable path data) := by
  rw [document_of_read hpath hread, htext]

theorem document_of_text {text : String} (htext : Text.ofBytes? data = some text)
    (numbered : Bool) : document numbered folder path = parse numbered path text := by
  rw [document_of_read hpath hread, htext]

end

theorem escapes_document (numbered : Bool) :
    Escapes (document numbered folder path) ↔ Escape folder path := by
  constructor
  · intro h
    cases hpath : Path.fault? path with
    | some e => exact .path e hpath
    | none =>
      cases hread : folder.read (Path.plain path) with
      | error e =>
        rw [document_of_failure hpath hread] at h
        cases (escapes_error _).mp h
      | ok data =>
        cases htext : Text.ofBytes? data with
        | none =>
          rw [document_of_bytes hpath hread htext] at h
          exact .bytes data hpath hread htext ((escapes_undecodable data).mp ((escapes_error _).mp h))
        | some text =>
          rw [document_of_text hpath hread htext] at h
          cases hjson : isJson path with
          | true =>
            obtain ⟨excess, hexcess⟩ := (escapes_parse_json hjson numbered text).mp h
            exact .json data text excess hpath hread htext hjson hexcess
          | false =>
            obtain ⟨fault, hload, hfault⟩ := (escapes_parse_yaml hjson numbered text).mp h
            exact .yaml data text fault hpath hread htext hjson hload hfault
  · intro h
    cases h with
    | path e hpath =>
      rw [document_of_fault hpath]
      exact (escapes_error _).mpr rfl
    | bytes data hpath hread htext hbefore =>
      rw [document_of_bytes hpath hread htext]
      exact (escapes_error _).mpr ((escapes_undecodable data).mpr hbefore)
    | json data text excess hpath hread htext hjson hexcess =>
      rw [document_of_text hpath hread htext]
      exact (escapes_parse_json hjson numbered text).mpr ⟨excess, hexcess⟩
    | yaml data text fault hpath hread htext hjson hload hfault =>
      rw [document_of_text hpath hread htext]
      exact (escapes_parse_yaml hjson numbered text).mpr ⟨fault, hload, hfault⟩

theorem escapes_service (path : String) : Escapes (service folder path) ↔ Escape folder path := by
  refine (escapes_bind fun v e he => ?_).trans (escapes_document false)
  obtain ⟨issues, -, rfl⟩ := exists_of_mapError he
  rfl

theorem escapes_template (shown : String → String) (path : String) :
    Escapes (template folder (some path) shown) ↔ Escape folder path := by
  refine (escapes_bind fun v e he => ?_).trans (escapes_document true)
  split at he
  · cases he
  · cases he
    rfl

/-- A service or a template fails to load in a way that an author is not told about exactly if its
path is no path, its bytes are not UTF-8 (and the YAML before that is not malformed), its JSON goes
beyond the limits of the reader, or its YAML has no value and is not malformed. In the last case
nodes are nested too deep, an escape is beyond the last code, a scalar writes no value, or a document
that holds itself has merges. Without a path there is always a template. -/
theorem escapes_iff (folder : Folder) (shown : String → String) :
    (∀ path, Escapes (service folder path) ↔ Escape folder path) ∧
      (∀ path, Escapes (template folder (some path) shown) ↔ Escape folder path) ∧
      (∃ v, template folder none shown = .ok v) ∧
      ∀ text fault, Yaml.load text = .error fault → fault ≠ .malformed → Yaml.Cause text := by
  refine ⟨escapes_service, escapes_template shown, ⟨_, rfl⟩, fun text fault hload hfault => ?_⟩
  refine Yaml.cause_of_loadNumbered ?_ hfault
  rw [Yaml.load_eq] at hload
  cases hnumbered : Yaml.loadNumbered text with
  | error e => rw [hnumbered] at hload; cases hload; rfl
  | ok v => rw [hnumbered] at hload; cases hload

/-- The text `a: !!int x`. -/
def mistaggedData : List UInt8 := [97, 58, 32, 33, 33, 105, 110, 116, 32, 120, 10]

open Yaml in
def mistaggedTokens : List Token :=
  [.blockMappingStart, .key, .scalar "a" true, .value, .tag ⟨some "!!", "int"⟩, .scalar "x" true,
    .blockEnd, .streamEnd]

/-- Whether what is read of the text is its mapping. -/
def isMistagged : Option Yaml.Node → Bool
  | some (.mapping .map [(.scalar .str "a", .scalar .int "x")]) => true
  | _ => false

open Yaml Node in
theorem numberedValue_mistagged :
    (mapping .map [(.scalar .str "a", .scalar .int "x")]).numberedValue = .error .unreadable := by
  have hatom : NodeTag.atom .int "x" = .error .unreadable := rfl
  have hkey (d : Depth) : valueAt d (.scalar .str "a") = .ok (.str "a") := valueAt_text d "a"
  have hvalue (d : Depth) : valueAt d (.scalar .int "x") = d.trouble .unreadable := by
    simp only [valueAt, hatom]
  simp only [numberedValue, valueAt, entriesAt, badMerge, mergedAt, ownAt, tag, hkey, hvalue]
  rfl

theorem numberedValue_of_isMistagged {node : Yaml.Node} (h : isMistagged (some node) = true) :
    node.numberedValue = .error .unreadable := by
  unfold isMistagged at h
  split at h
  · rename_i heq
    rw [Option.some.inj heq, numberedValue_mistagged]
  · cases h

theorem loadNumbered_mistagged : Yaml.loadNumbered "a: !!int x\n" = .error .unreadable := by
  have htokens : (Yaml.TokenStream.ofString "a: !!int x\n").tokens = mistaggedTokens := by
    decide +kernel
  have hfault : (Yaml.TokenStream.ofString "a: !!int x\n").fault = none := by decide +kernel
  have hstream : Yaml.TokenStream.ofString "a: !!int x\n" = ⟨mistaggedTokens, none⟩ := by
    rw [← htokens, ← hfault]
  have hcheck : okWith isMistagged
      (Yaml.Node.ofTokens (Yaml.TokenStream.withinDepth ⟨mistaggedTokens, none⟩)) = true := by
    decide +kernel
  obtain ⟨node?, hnode, hcheck⟩ := exists_of_okWith hcheck
  rw [Yaml.loadNumbered, hstream, bind_of_ok hnode]
  cases node? with
  | none => cases hcheck
  | some node => exact numberedValue_of_isMistagged hcheck

theorem load_mistagged : Yaml.load "a: !!int x\n" = .error .unreadable := by
  rw [Yaml.load_eq, loadNumbered_mistagged]
  rfl

theorem escape_mistagged : Escape ⟨[(["s.yml"], mistaggedData)], []⟩ "s.yml" := by
  have hread : okWith (· == mistaggedData)
      ((Folder.mk [(["s.yml"], mistaggedData)] []).read (Path.plain "s.yml")) = true := by
    decide +kernel
  obtain ⟨data, hread, hdata⟩ := exists_of_okWith hread
  have htext : Text.ofBytes? data = some "a: !!int x\n" := by
    rw [beq_iff_eq.mp hdata]
    decide +kernel
  have hunified : unified "a: !!int x\n" = "a: !!int x\n" := by decide +kernel
  have hload : Yaml.load (unified "a: !!int x\n") = .error .unreadable := by
    rw [hunified, load_mistagged]
  exact .yaml data _ .unreadable (by decide +kernel) hread htext (by decide +kernel) hload (by decide)

theorem escapes_iff_mistagged :
    Escapes (service ⟨[(["s.yml"], mistaggedData)], []⟩ "s.yml") ∧ Yaml.Cause "a: !!int x\n" := by
  obtain ⟨hservice, -, -, hcause⟩ := escapes_iff ⟨[(["s.yml"], mistaggedData)], []⟩ id
  exact ⟨(hservice "s.yml").mpr escape_mistagged, hcause _ .unreadable load_mistagged (by decide)⟩

/-- The author of a scalar that says it is an integer and is none is not told about it. -/
theorem not_reported_mistagged :
    ¬ ∀ folder path e, service folder path = .error e → e.isReported = true := by
  intro h
  obtain ⟨e, he, hreported⟩ := (escapes_service "s.yml").mpr escape_mistagged
  rw [h _ _ e he] at hreported
  cases hreported

end Load

end FlowTemplate
