import FlowTemplate.Proofs.Computation
import FlowTemplate.Proofs.Schema.KeyOrder
/-!
# Realms of a library

Which references are met when a value is held against a schema depends on the value. But from the
schemas at some addresses the references can lead to schemas at these addresses only. Such a realm of
a library is found by following each reference once from each address, however deep the references of
a check lead.
-/

namespace FlowTemplate

namespace Address

/-- Whether an address names its scheme and its host, has no fragment and is in its standard form. -/
def isAbsolute (s : String) : Bool :=
  !s.startsWith "#" && match ofChars? [] s.toList with
  | some a => !a.scheme.isEmpty && isIn a.scheme hostSchemes && !a.host.isEmpty &&
      a.toChars == s.toList && !s.toList.contains '#'
  | none => false

theorem startsWith_of_isAbsolute {s : String} (h : isAbsolute s = true) :
    s.startsWith "#" = false := by
  rw [isAbsolute, Bool.and_eq_true, Bool.not_eq_true'] at h
  exact h.1

/-- What names its scheme is read in the same way everywhere. -/
theorem takeScheme_eq {s : List Char} (h : (takeScheme [] s).1 ≠ []) (other : List Char) :
    takeScheme other s = takeScheme [] s := by
  unfold takeScheme at h ⊢
  split at h
  · split
    · rfl
    · rename_i hscheme
      rw [if_neg hscheme] at h
      exact absurd rfl h
  · exact absurd rfl h

theorem parts?_eq {s : List Char} {a : Address} (h : parts? [] s = some a) (hscheme : a.scheme ≠ [])
    (other : List Char) : parts? other s = some a := by
  rw [parts?] at h ⊢
  dsimp only at h ⊢
  generalize (s.dropWhile _).filter _ = s at h ⊢
  rw [takeScheme_eq ?_ other]
  · exact h
  · split at h
    · obtain rfl := Option.some.inj h
      exact hscheme
    · cases h

theorem ofChars?_eq {s : List Char} {a : Address} (h : ofChars? [] s = some a)
    (hscheme : a.scheme ≠ []) (other : List Char) : ofChars? other s = some a := by
  obtain ⟨b, hb, rfl⟩ := Option.map_eq_some_iff.mp h
  have hsame : b.scheme ≠ [] := by
    split at hscheme
    · exact hscheme
    · exact hscheme
  rw [ofChars?, parts?_eq hb hsame other]
  rfl

/-- An absolute address means itself wherever it stands. -/
theorem join?_of_isAbsolute {base s : String} (hbase : isAbsolute base = true)
    (h : isAbsolute s = true) : join? base s = some s := by
  obtain ⟨-, h⟩ := Bool.and_eq_true_iff.mp h
  obtain ⟨-, hbase⟩ := Bool.and_eq_true_iff.mp hbase
  cases hplace : ofChars? [] base.toList with
  | none => rw [hplace] at hbase; cases hbase
  | some place =>
    cases hs : ofChars? [] s.toList with
    | none => rw [hs] at h; cases h
    | some a =>
      rw [hs] at h
      simp only [Bool.and_eq_true, Bool.not_eq_true', List.isEmpty_eq_false_iff, beq_iff_eq] at h
      obtain ⟨⟨⟨⟨hscheme, hhost⟩, hnonempty⟩, hchars⟩, -⟩ := h
      rw [join?]
      split
      · rfl
      · split
        · rename_i hempty
          have : s = "" := by simpa using hempty
          subst this
          rw [show ofChars? [] "".toList = some {} from by decide] at hs
          obtain rfl := Option.some.inj hs
          exact absurd rfl hscheme
        · rw [hplace, Option.bind_eq_bind, Option.bind_some, ofChars?_eq hs hscheme, Option.bind_some]
          split
          · rfl
          · rw [complete, if_pos (by simp [hhost, hnonempty]), hchars, String.ofList_toList]
            rfl

theorem split?_of_isAbsolute {s : String} (h : isAbsolute s = true) : split? s = some (s, "") := by
  obtain ⟨-, h⟩ := Bool.and_eq_true_iff.mp h
  cases hs : ofChars? [] s.toList with
  | none => rw [hs] at h; cases h
  | some a =>
    rw [hs] at h
    simp only [Bool.and_eq_true, Bool.not_eq_true'] at h
    rw [split?, h.2]
    rfl

end Address

namespace Schema

open FlowTemplate.Computation

/-! ## Where references lead -/

namespace Library

/-- What a reference speaks of at a place: an address, and a fragment of the document there. -/
def place (base reference : String) : Except Fault (String × String) :=
  if reference.startsWith "#" then pure (base, (reference.drop 1).toString)
  else match (Address.join? base reference).bind Address.split? with
    | some split => pure split
    | none => throw .badText

/-- The way that a fragment writes. -/
def way (fragment : String) : List (List Char) :=
  Address.segments (Segment.percentDecoded (fragment.toList.drop 1))

/-- What a fragment of a document leads to. -/
def fragmentTarget (library : Library) (scope : Scope) (address : String) (r : Resource)
    (fragment : String) : Except Fault Target :=
  if fragment.startsWith "/" then walk r.dialect (way fragment) r.document [] scope
  else if fragment.isEmpty then return { document := r.document, scope }
  else match library.part? address fragment with
    | none => throw (.lost (.name (fragment.toList.contains '/')))
    | some part =>
      if part.late then
        let last := library.outermost fragment part scope.outer
        return {
          document := last.resource.document
          scope := match Resource.id? last.resource with
            | some id => scope.enter id
            | none => scope }
      else return { document := part.resource.document, scope }

/-- What stands at a place. -/
def landing (library : Library) (scope : Scope) : String × String → Except Fault Target
  | (address, fragment) => match library.resource? address with
    | some r => library.fragmentTarget (scope.moved address) address r fragment
    | none => throw (.lost .address)

theorem lookUp_eq (library : Library) (scope : Scope) (reference : String) :
    library.lookUp scope reference = place scope.base reference >>= library.landing scope := by
  rw [lookUp, place]
  by_cases hhere : reference.startsWith "#" = true
  · rw [if_pos hhere, if_pos hhere, pure_bind, pure_bind, landing]
    dsimp only
    cases library.resource? scope.base <;> rfl
  · rw [if_neg hhere, if_neg hhere]
    cases (Address.join? scope.base reference).bind Address.split? with
    | none => rfl
    | some split =>
      obtain ⟨address, fragment⟩ := split
      dsimp only
      rw [pure_bind, pure_bind, landing]
      cases library.resource? address <;> rfl

/-- Where a way leads, and the addresses of the schemas that it enters. -/
def course (d : Dialect) :
    List (List Char) → Value → List Segment → Except Fault (Value × List String)
  | [], v, _ => .ok (v, [])
  | s :: rest, v, since => do
    let (segment, v) ← Segment.follow s v
    let since := since ++ [segment]
    match if Segment.leadToSchema d v since then Resource.id? ⟨v, d⟩ else none with
    | some id => (course d rest v []).map fun (w, ids) => (w, id :: ids)
    | none => course d rest v since

/-- A way leads to the same place from everywhere. -/
theorem walk_eq (d : Dialect) (way : List (List Char)) (v : Value) (since : List Segment)
    (scope : Scope) : walk d way v since scope =
      (course d way v since).map fun (w, ids) => ⟨w, ids.foldl Scope.enter scope⟩ := by
  induction way generalizing v since scope with
  | nil => rfl
  | cons s rest ih =>
    rw [walk, course]
    cases Segment.follow s v with
    | error fault => rfl
    | ok step =>
      obtain ⟨segment, w⟩ := step
      rw [bind_of_ok rfl, bind_of_ok rfl]
      dsimp only
      generalize (if Segment.leadToSchema d w (since ++ [segment]) then Resource.id? ⟨w, d⟩
        else none) = own
      cases own with
      | none => exact ih _ _ _
      | some id =>
        dsimp only
        rw [ih]
        cases course d rest w [] <;> rfl

end Library

/-! ## Realms -/

/-- Addresses, and the references that are met in the schemas at each of them. -/
structure Realm where
  dialect : Dialect
  bases : List String
  links : String → List Link

namespace Realm

/-- A place that was reached through schemas of the realm. -/
structure Holds (realm : Realm) (scope : Scope) : Prop where
  base : scope.base ∈ realm.bases
  outer : ∀ base ∈ scope.outer, base ∈ realm.bases

/-- Whether a document is a schema that the order of keys does not matter to, with the references that
are met at an address. -/
def fits (realm : Realm) (base : String) (v : Value) : Bool :=
  isSteady (realm.links base) (read realm.dialect v).bare

/-- The target is a schema of the realm. -/
structure Covers (realm : Realm) (target : Target) : Prop where
  scope : realm.Holds target.scope
  fits : realm.fits target.scope.base target.document = true

/-- Whether a part whose name is bound late is a schema of the realm with an address of its own. -/
def holdsPart (realm : Realm) (part : NamedPart) : Bool :=
  match Resource.id? part.resource with
  | none => false
  | some id => (realm.bases.find? (· == id)).any fun base => realm.fits base part.resource.document

/-- Whether a fragment leads to a schema of the realm, if it leads anywhere inside a document. -/
def holdsFragment (realm : Realm) (library : Library) (base : String) (r : Resource)
    (fragment : String) : Bool :=
  if fragment.startsWith "/" then
    match Library.course r.dialect (Library.way fragment) r.document [] with
    | .ok (v, ids) => ids.isEmpty && realm.fits base v
    | .error _ => true
  else fragment.isEmpty || match library.part? base fragment with
    | none => true
    | some part =>
      if part.late then
        realm.holdsPart part &&
          realm.bases.all fun other => (library.part? other fragment).all realm.holdsPart
      else realm.fits base part.resource.document

/-- Whether a reference leads to a schema of the realm, if it leads anywhere. -/
def holdsReference (realm : Realm) (library : Library) (base : String) (r : Resource)
    (reference : String) : Bool :=
  if reference.startsWith "#" then
    realm.holdsFragment library base r (reference.drop 1).toString
  else match (Address.join? base reference).bind Address.split? with
    | none => true
    | some (address, fragment) => (realm.bases.find? (· == address)).any fun other =>
      (library.resource? other).all fun found => realm.holdsFragment library other found fragment

/-- Whether the documents at the addresses are schemas of the realm, which no reference leaves. -/
def isClosed (realm : Realm) (library : Library) : Bool :=
  realm.bases.all fun base => Address.isAbsolute base && (library.resource? base).any fun r =>
    realm.fits base r.document && (realm.links base).all fun link =>
      link.dialect == realm.dialect && link.target.all (realm.holdsReference library base r)

/-- There is a schema of the realm at each of its addresses, and no reference leads out of the realm,
however often references are followed. -/
structure Closed (realm : Realm) (library : Library) : Prop where
  absolute : ∀ base ∈ realm.bases, Address.isAbsolute base = true
  resource : ∀ base ∈ realm.bases, ∃ r, library.resource? base = some r ∧
    realm.fits base r.document = true ∧ ∀ link ∈ realm.links base, link.dialect = realm.dialect ∧
      ∀ reference, link.target = some reference →
        realm.holdsReference library base r reference = true

variable {realm : Realm} {library : Library} {scope : Scope} {target : Target}
  {address fragment reference : String} {r : Resource} {part : NamedPart}

theorem closed_of_isClosed (h : realm.isClosed library = true) : realm.Closed library := by
  rw [isClosed] at h
  simp only [List.all_eq_true, Bool.and_eq_true, Option.any_eq_true, Option.all_eq_true,
    beq_iff_eq] at h
  exact ⟨fun base hmem => (h base hmem).1, fun base hmem => (h base hmem).2⟩

theorem mem_of_any_find? {bases : List String} {p : String → Bool}
    (h : (bases.find? (· == address)).any p = true) : address ∈ bases ∧ p address = true := by
  cases hfind : bases.find? (· == address) with
  | none => rw [hfind] at h; cases h
  | some base =>
    rw [hfind] at h
    have hsame := List.find?_some hfind
    obtain rfl := beq_iff_eq.mp hsame
    exact ⟨List.mem_of_find?_eq_some hfind, h⟩

/-! ## Places in a realm -/

theorem Holds.moved (h : realm.Holds scope) (haddress : address ∈ realm.bases) :
    realm.Holds (scope.moved address) := by
  rw [Scope.moved]
  split
  · exact ⟨haddress, List.forall_mem_cons.mpr ⟨h.base, h.outer⟩⟩
  · exact ⟨haddress, h.outer⟩

theorem base_moved (scope : Scope) (address : String) : (scope.moved address).base = address := by
  rw [Scope.moved]
  split <;> rfl

/-- Of parts of the realm the outermost one is a part of the realm. -/
theorem holdsPart_outermost (hpart : realm.holdsPart part = true) {outer : List String}
    (houter : ∀ base ∈ outer, (library.part? base fragment).all realm.holdsPart = true) :
    realm.holdsPart (library.outermost fragment part outer) = true := by
  induction outer generalizing part with
  | nil => exact hpart
  | cons base outer ih =>
    obtain ⟨hbase, houter⟩ := List.forall_mem_cons.mp houter
    rw [Library.outermost]
    cases hfound : library.part? base fragment with
    | none => exact ih hpart houter
    | some next =>
      rw [hfound] at hbase
      refine ih ?_ houter
      split
      · exact hbase
      · exact hpart

/-- A part of the realm is entered at its own address. -/
theorem Closed.covers_part (h : realm.Closed library) (hscope : realm.Holds scope)
    (hpart : realm.holdsPart part = true) : realm.Covers {
      document := part.resource.document
      scope := match Resource.id? part.resource with
        | some id => scope.enter id
        | none => scope } := by
  rw [holdsPart] at hpart
  cases hid : Resource.id? part.resource with
  | none => rw [hid] at hpart; cases hpart
  | some id =>
    rw [hid] at hpart
    obtain ⟨hmem, hfits⟩ := mem_of_any_find? hpart
    have hjoin := Address.join?_of_isAbsolute (h.absolute _ hscope.base) (h.absolute id hmem)
    dsimp only
    rw [Scope.enter, hjoin]
    exact ⟨hscope.moved hmem, by rw [base_moved]; exact hfits⟩

theorem Closed.covers_fragment (h : realm.Closed library) (hscope : realm.Holds scope)
    (hresource : library.resource? scope.base = some r)
    (hfragment : realm.holdsFragment library scope.base r fragment = true)
    (htarget : library.fragmentTarget scope scope.base r fragment = .ok target) :
    realm.Covers target := by
  rw [holdsFragment] at hfragment
  rw [Library.fragmentTarget] at htarget
  split at hfragment
  · rename_i hway
    rw [if_pos hway, Library.walk_eq] at htarget
    cases hcourse : Library.course r.dialect (Library.way fragment) r.document [] with
    | error fault => rw [hcourse] at htarget; cases htarget
    | ok course =>
      obtain ⟨v, ids⟩ := course
      rw [hcourse] at hfragment htarget
      obtain ⟨hids, hfits⟩ := Bool.and_eq_true_iff.mp hfragment
      obtain rfl := List.isEmpty_iff.mp hids
      obtain rfl := Except.ok.inj htarget
      exact ⟨hscope, hfits⟩
  · rename_i hway
    rw [if_neg hway] at htarget
    by_cases hwhole : fragment.isEmpty = true
    · rw [if_pos hwhole] at htarget
      obtain rfl := Except.ok.inj htarget
      obtain ⟨found, hfound, hfits, -⟩ := h.resource _ hscope.base
      obtain rfl := Option.some.inj (hfound.symm.trans hresource)
      exact ⟨hscope, hfits⟩
    · rw [if_neg hwhole] at htarget
      have hnamed := (Bool.or_eq_true_iff.mp hfragment).resolve_left hwhole
      cases hpart : library.part? scope.base fragment with
      | none => rw [hpart] at htarget; cases htarget
      | some part =>
        rw [hpart] at hnamed htarget
        dsimp only at hnamed htarget
        split at hnamed
        · rename_i hlate
          rw [if_pos hlate] at htarget
          obtain rfl := Except.ok.inj htarget
          obtain ⟨hfound, hparts⟩ := Bool.and_eq_true_iff.mp hnamed
          exact h.covers_part hscope (holdsPart_outermost hfound fun base hmem =>
            List.all_eq_true.mp hparts base (hscope.outer base hmem))
        · rename_i hlate
          rw [if_neg hlate] at htarget
          obtain rfl := Except.ok.inj htarget
          exact ⟨hscope, hnamed⟩

theorem Closed.covers_landing (h : realm.Closed library) (hscope : realm.Holds scope)
    (haddress : address ∈ realm.bases)
    (hfragment : ∀ r, library.resource? address = some r →
      realm.holdsFragment library address r fragment = true)
    (htarget : library.landing scope (address, fragment) = .ok target) : realm.Covers target := by
  obtain ⟨r, hresource, -⟩ := h.resource address haddress
  have hbase := base_moved scope address
  have hmoved := hscope.moved haddress
  have hholds := hfragment r hresource
  rw [Library.landing, hresource] at htarget
  dsimp only at htarget
  generalize scope.moved address = moved at hbase hmoved htarget
  subst hbase
  exact h.covers_fragment hmoved hresource hholds htarget

/-- The schemas at the addresses of a realm are schemas of the realm. -/
theorem Closed.covers_document (h : realm.Closed library) (hscope : realm.Holds scope)
    (haddress : address ∈ realm.bases)
    (htarget : library.landing scope (address, "") = .ok target) : realm.Covers target := by
  have hway : ("" : String).startsWith "/" = false := by decide
  refine h.covers_landing hscope haddress (fun r _ => ?_) htarget
  rw [holdsFragment, hway]
  rfl

theorem Closed.covers_lookUp (h : realm.Closed library) (hscope : realm.Holds scope)
    (hresource : library.resource? scope.base = some r)
    (hreference : realm.holdsReference library scope.base r reference = true)
    (htarget : library.lookUp scope reference = .ok target) : realm.Covers target := by
  rw [Library.lookUp_eq, Library.place] at htarget
  rw [holdsReference] at hreference
  by_cases hhere : reference.startsWith "#" = true
  · rw [if_pos hhere] at hreference htarget
    refine h.covers_landing hscope hscope.base (fun found hfound => ?_) htarget
    obtain rfl := Option.some.inj (hresource.symm.trans hfound)
    exact hreference
  · rw [if_neg hhere] at hreference htarget
    cases hplace : (Address.join? scope.base reference).bind Address.split? with
    | none => rw [hplace] at htarget; cases htarget
    | some place =>
      obtain ⟨address, fragment⟩ := place
      rw [hplace] at hreference htarget
      obtain ⟨haddress, hfound⟩ := mem_of_any_find? hreference
      exact h.covers_landing hscope haddress ((Option.all_eq_true _ _).mp hfound) htarget

/-- An address of the realm leads to its schema from everywhere. -/
theorem Closed.covers_base (h : realm.Closed library) (hscope : realm.Holds scope)
    (haddress : address ∈ realm.bases) (htarget : library.lookUp scope address = .ok target) :
    realm.Covers target := by
  have habsolute := h.absolute address haddress
  have hplace : Library.place scope.base address = .ok (address, "") := by
    rw [Library.place, Address.startsWith_of_isAbsolute habsolute,
      Address.join?_of_isAbsolute (h.absolute _ hscope.base) habsolute, Option.bind_some,
      Address.split?_of_isAbsolute habsolute]
    rfl
  rw [Library.lookUp_eq, hplace] at htarget
  exact h.covers_document hscope haddress htarget

theorem Closed.covers_root (h : realm.Closed library) (hscope : realm.Holds scope)
    (htarget : library.lookUp scope "#" = .ok target) : realm.Covers target := by
  have hplace : Library.place scope.base "#" = .ok (scope.base, "") := by
    have hhere : ("#" : String).startsWith "#" = true := by decide +kernel
    have hrest : (("#" : String).drop 1).toString = "" := by decide +kernel
    rw [Library.place, if_pos hhere, hrest]
    rfl
  rw [Library.lookUp_eq, hplace] at htarget
  exact h.covers_document hscope hscope.base htarget

theorem Closed.covers_stepOut (h : realm.Closed library) (hscope : realm.Holds scope)
    {found : Target} (hfound : realm.Covers found) {outer : List String}
    (houter : ∀ base ∈ outer, base ∈ realm.bases)
    (htarget : library.stepOut scope found outer = .ok target) : realm.Covers target := by
  induction outer generalizing found with
  | nil => exact Except.ok.inj htarget ▸ hfound
  | cons base outer ih =>
    obtain ⟨hbase, houter⟩ := List.forall_mem_cons.mp houter
    rw [Library.stepOut] at htarget
    obtain ⟨next, hnext, hlater⟩ := bind_eq_ok htarget
    split at hlater
    · exact ih (h.covers_base hscope hbase hnext) houter hlater
    · exact Except.ok.inj hlater ▸ hfound

/-- From a schema of a closed realm, references lead to schemas of the realm. -/
theorem Closed.covers_target (h : realm.Closed library) (hscope : realm.Holds scope)
    {link : Link} (hlink : link ∈ realm.links scope.base)
    (htarget : library.target scope link = .ok target) : realm.Covers target := by
  rw [Library.target] at htarget
  cases hreference : link.target with
  | some reference =>
    rw [hreference] at htarget
    obtain ⟨r, hresource, -, hlinks⟩ := h.resource _ hscope.base
    exact h.covers_lookUp hscope hresource ((hlinks link hlink).2 _ hreference) htarget
  | none =>
    rw [hreference] at htarget
    dsimp only at htarget
    rw [Library.lookUpOutermost] at htarget
    obtain ⟨found, hfound, hlater⟩ := bind_eq_ok htarget
    have hcovers := h.covers_root hscope hfound
    split at hlater
    · exact h.covers_stepOut hscope hcovers hscope.outer hlater
    · exact Except.ok.inj hlater ▸ hcovers

/-- However deep references are followed, what they lead to in a closed realm ignores the order of
keys. -/
theorem Closed.ignoreOrder_surroundings (h : realm.Closed library) (P : String → Prop)
    (checksPatterns : Bool) (depth : Nat) : ∀ scope, realm.Holds scope →
      (library.surroundings checksPatterns depth).IgnoreOrder P scope (realm.links scope.base) := by
  induction depth with
  | zero => exact fun scope hscope link hlink v hv => .refl _
  | succ depth ih =>
    intro scope hscope link hlink v hv
    rw [Library.surroundings]
    dsimp only
    cases htarget : library.target scope link with
    | error fault => exact .refl _
    | ok target =>
      have hcovers := h.covers_target hscope hlink htarget
      obtain ⟨r, -, -, hlinks⟩ := h.resource _ hscope.base
      rw [(hlinks link hlink).1]
      exact ignoresOrder_check (ih target.scope hcovers.scope) _ hcovers.fits v hv

end Realm

end Schema

end FlowTemplate
