import FlowTemplate.Proofs.Document.Position
import FlowTemplate.Reference
import Mathlib.Data.List.TakeWhile
/-!
# What resolving changes

Resolving goes through a value from the outside and stops at addresses, which are mappings with the
one key `Fn::GetAtt`. At the places that it reaches, references to declared functions become
references to the resources of the functions, and everything else keeps its kind, the number of its
parts and their keys. That determines the result. Where no reference to a declared function is
reached nothing changes; and if the logical IDs of the functions are no names of functions, the
result has no such reference any more and stays as it is when it is resolved again.
-/

namespace FlowTemplate

namespace Value

variable {v w : Value}

theorem keys_of_hull {entries others : Entries}
    (h : (Value.map entries).hull = (Value.map others).hull) :
    entries.map Prod.fst = others.map Prod.fst := by
  have hmaps := congrArg (List.map Prod.fst) (Value.map.inj h)
  rwa [List.map_map, List.map_map] at hmaps

/-- A value is known from its kind and keys and from its parts. -/
theorem eq_of_hull_of_parts (hhull : v.hull = w.hull) (hparts : v.parts = w.parts) :
    v = w := by
  cases v with
  | list items =>
    cases w with
    | list others => exact congrArg Value.list hparts
    | _ => cases hhull
  | map entries =>
    cases w with
    | map others =>
      have hentries := (List.zip_of_prod (keys_of_hull hhull) hparts).trans
        (List.zip_of_prod rfl rfl).symm
      exact congrArg Value.map hentries
    | _ => cases hhull
  | _ =>
    cases w with
    | list others => cases hhull
    | map others => cases hhull
    | _ => exact hhull

theorem length_parts_of_hull (h : v.hull = w.hull) :
    v.parts.length = w.parts.length := by
  cases v with
  | list items =>
    cases w with
    | list others =>
      have hlength := congrArg List.length (Value.list.inj h)
      rwa [List.length_map, List.length_map] at hlength
    | _ => cases h
  | map entries =>
    cases w with
    | map others =>
      have hlength := congrArg List.length (keys_of_hull h)
      rw [List.length_map, List.length_map] at hlength
      simpa [parts] using hlength
    | _ => cases h
  | _ =>
    cases w with
    | list others => cases h
    | map others => cases h
    | _ => rfl

theorem single_inj {key other : String} (h : single key v = single other w) :
    key = other ∧ v = w := by
  obtain ⟨hentry, -⟩ := List.cons.inj (Value.map.inj h)
  exact ⟨Atom.str.inj (Prod.mk.inj hentry).1, (Prod.mk.inj hentry).2⟩

/-- A mapping with one key comes from one with that key, if kind and keys are kept and the parts
are mapped. -/
theorem exists_single_of_hull {f : Value → Value} {key : String} {argument : Value}
    (hhull : (single key argument).hull = v.hull)
    (hparts : (single key argument).parts = v.parts.map f) :
    ∃ old, v = .single key old ∧ f old = argument := by
  cases v with
  | map entries =>
    have hkeys := keys_of_hull hhull
    have hvalues : [argument] = (entries.map Prod.snd).map f := hparts
    match entries, hkeys, hvalues with
    | [(k, old)], hkeys, hvalues =>
      obtain ⟨rfl, -⟩ := List.cons.inj hkeys
      exact ⟨old, rfl, (List.cons.inj hvalues).1.symm⟩
  | _ => cases hhull

end Value

namespace Reference

/-! ## The two spellings of an address -/

/-- A text is split at its first dot; one without a dot is all target. -/
def SplitsAtDot (s target property : String) : Prop :=
  '.' ∉ target.toList ∧ (s = target ++ "." ++ property ∨ s = target ∧ property = "")

theorem not_dot_of_notMem {cs : List Char} (h : '.' ∉ cs) : ∀ c ∈ cs, (c != '.') = true := by
  intro c hc
  rw [bne_iff_ne]
  rintro rfl
  exact h hc

theorem splitDot_append (cs rest : List Char) (h : '.' ∉ cs) :
    (cs ++ '.' :: rest).takeWhile (· != '.') = cs ∧
      ((cs ++ '.' :: rest).dropWhile (· != '.')).drop 1 = rest := by
  have hall := not_dot_of_notMem h
  rw [List.takeWhile_append_of_pos hall, List.dropWhile_append_of_pos hall]
  exact ⟨by simp, by simp⟩

theorem splitDot_of_notMem {cs : List Char} (h : '.' ∉ cs) :
    cs.takeWhile (· != '.') = cs ∧ (cs.dropWhile (· != '.')).drop 1 = [] := by
  have hall := not_dot_of_notMem h
  constructor
  · exact List.takeWhile_eq_self_iff.mpr hall
  · rw [List.dropWhile_eq_nil_iff.mpr hall, List.drop_nil]

theorem splitDot_eq_iff {s target property : String} :
    splitDot s = (target, property) ↔ SplitsAtDot s target property := by
  constructor
  · intro h
    obtain ⟨rfl, rfl⟩ := Prod.mk.inj h
    have htarget : '.' ∉ s.toList.takeWhile (· != '.') := by
      intro hmem
      have hdot := List.mem_takeWhile_imp hmem
      exact absurd hdot (by decide)
    have hwhole := List.takeWhile_append_dropWhile (p := (· != '.')) (l := s.toList)
    refine ⟨by rwa [String.toList_ofList], ?_⟩
    cases hrest : s.toList.dropWhile (· != '.') with
    | nil =>
      rw [hrest, List.append_nil] at hwhole
      exact .inr ⟨String.toList_injective (by rw [String.toList_ofList, hwhole]), rfl⟩
    | cons c rest =>
      have hdot : c = '.' := by
        have hhead := List.head_dropWhile_not (· != '.') (by rw [hrest]; exact List.cons_ne_nil _ _)
        simpa [hrest] using hhead
      rw [hrest, hdot] at hwhole
      refine .inl (String.toList_injective ?_)
      rw [String.toList_append, String.toList_append, String.toList_ofList, String.toList_ofList,
        List.drop_one, List.tail_cons, List.append_assoc]
      exact hwhole.symm.trans (by rw [String.toList_ofList]; rfl)
  · rintro ⟨htarget, rfl | ⟨rfl, rfl⟩⟩
    · obtain ⟨hbefore, hafter⟩ := splitDot_append target.toList property.toList htarget
      have hchars : (target ++ "." ++ property).toList =
          target.toList ++ '.' :: property.toList := by
        rw [String.toList_append, String.toList_append, List.append_assoc]
        rfl
      rw [splitDot, hchars, hbefore, hafter, String.ofList_toList, String.ofList_toList]
    · obtain ⟨hbefore, hafter⟩ := splitDot_of_notMem htarget
      rw [splitDot, hbefore, hafter, String.ofList_toList]

/-- Target and attribute stand in a pair, or in a text that is split. -/
theorem parts?_eq_some_iff {argument property : Value} {target : String} :
    parts? argument = some (.str target, property) ↔
      argument = .list [.str target, property] ∨
        ∃ s rest, argument = .str s ∧ property = .str rest ∧ SplitsAtDot s target rest := by
  constructor
  · intro h
    rw [parts?.eq_def] at h
    split at h
    · rename_i s
      obtain ⟨htarget, hproperty⟩ := Prod.mk.inj (Option.some.inj h)
      refine .inr ⟨s, (splitDot s).2, rfl, hproperty.symm, splitDot_eq_iff.mp ?_⟩
      exact Prod.ext (Atom.str.inj (Value.atom.inj htarget)) rfl
    · obtain ⟨rfl, rfl⟩ := Prod.mk.inj (Option.some.inj h)
      exact .inl rfl
    · cases h
  · rintro (rfl | ⟨s, rest, rfl, rfl, hsplit⟩)
    · rfl
    · rw [parts?, splitDot_eq_iff.mpr hsplit]

/-! ## References to declared functions -/

variable {functions : List String} {v w x y : Value} {position : Position}

/-- A reference to a declared function, and what it becomes: a reference to the resource of the
function. -/
inductive Localizes (functions : List String) : (reference resolved : Value) → Prop
  | name {f : String} : f ∈ functions →
      Localizes functions (.single "Ref" (.str f)) (.single "Ref" (.str (Naming.lambdaId f)))
  | pair {f : String} {property : Value} : f ∈ functions →
      Localizes functions (.single "Fn::GetAtt" (.list [.str f, property]))
        (.single "Fn::GetAtt" (.list [.str (Naming.lambdaId f), property]))
  | dotted {s f property : String} : f ∈ functions → SplitsAtDot s f property →
      Localizes functions (.single "Fn::GetAtt" (.str s))
        (.single "Fn::GetAtt" (.list [.str (Naming.lambdaId f), .str property]))

def IsLocal (functions : List String) (v : Value) : Prop := ∃ w, Localizes functions v w

/-- A mapping with the one key `Fn::GetAtt`. -/
def IsAddress (v : Value) : Prop := ∃ argument, v = .single "Fn::GetAtt" argument

theorem declared?_eq_some_iff {f : String} :
    declared? functions v = some f ↔ v = .str f ∧ f ∈ functions := by
  rw [declared?.eq_def]
  split
  · rename_i s
    by_cases hs : functions.contains s = true
    · rw [if_pos hs]
      constructor
      · rintro ⟨⟩
        exact ⟨rfl, List.contains_iff_mem.mp hs⟩
      · rintro ⟨⟨⟩, -⟩
        rfl
    · rw [if_neg hs]
      refine iff_of_false (fun h => by cases h) ?_
      rintro ⟨⟨⟩, hf⟩
      exact hs (List.contains_iff_mem.mpr hf)
  · rename_i hnot
    exact iff_of_false (fun h => by cases h) fun h => hnot f h.1

theorem localizes_ref_iff {argument : Value} :
    Localizes functions (.single "Ref" argument) w ↔
      ∃ f ∈ functions, argument = .str f ∧ w = .single "Ref" (.str (Naming.lambdaId f)) := by
  constructor
  · intro h
    generalize hv : Value.single "Ref" argument = v at h
    cases h with
    | name hf => exact ⟨_, hf, (Value.single_inj hv).2, rfl⟩
    | pair => exact absurd (Value.single_inj hv).1 (by decide)
    | dotted => exact absurd (Value.single_inj hv).1 (by decide)
  · rintro ⟨f, hf, rfl, rfl⟩
    exact .name hf

theorem localizes_address_iff {argument : Value} :
    Localizes functions (.single "Fn::GetAtt" argument) w ↔
      ∃ f property, f ∈ functions ∧ parts? argument = some (.str f, property) ∧
        w = getAtt (Naming.lambdaId f) property := by
  constructor
  · intro h
    generalize hv : Value.single "Fn::GetAtt" argument = v at h
    cases h with
    | name => exact absurd (Value.single_inj hv).1 (by decide)
    | pair hf =>
      obtain rfl := (Value.single_inj hv).2
      exact ⟨_, _, hf, rfl, rfl⟩
    | dotted hf hsplit =>
      obtain rfl := (Value.single_inj hv).2
      exact ⟨_, _, hf, parts?_eq_some_iff.mpr (.inr ⟨_, _, rfl, rfl, hsplit⟩), rfl⟩
  · rintro ⟨f, property, hf, hparts, rfl⟩
    rcases parts?_eq_some_iff.mp hparts with rfl | ⟨s, rest, rfl, rfl, hsplit⟩
    · exact .pair hf
    · exact .dotted hf hsplit

/-! ## One step of resolving -/

theorem resolveItems_eq (items : List Value) :
    resolveItems functions items = items.map (resolve functions) := by
  induction items with
  | nil => rfl
  | cons v rest ih => rw [resolveItems, ih, List.map_cons]

theorem resolveEntries_eq (entries : Entries) :
    resolveEntries functions entries = entries.map fun (k, v) => (k, resolve functions v) := by
  induction entries with
  | nil => rfl
  | cons entry rest ih => rw [resolveEntries, ih, List.map_cons]

/-- A reference to a declared function is resolved as a whole. -/
theorem resolve_of_localizes (h : Localizes functions v w) : resolve functions v = w := by
  cases h with
  | name hf => rw [resolve, declared?_eq_some_iff.mpr ⟨rfl, hf⟩]
  | pair hf =>
    rw [resolve, parts?]
    dsimp only
    rw [declared?_eq_some_iff.mpr ⟨rfl, hf⟩]
    rfl
  | dotted hf hsplit =>
    have hparts := parts?_eq_some_iff.mpr (.inr ⟨_, _, rfl, rfl, hsplit⟩)
    rw [resolve, hparts]
    dsimp only
    rw [declared?_eq_some_iff.mpr ⟨rfl, hf⟩]
    rfl

/-- An address of anything else stays as it is. -/
theorem resolve_of_isAddress (h : IsAddress v) (hforeign : ¬ IsLocal functions v) :
    resolve functions v = v := by
  obtain ⟨argument, rfl⟩ := h
  rw [resolve]
  cases hparts : parts? argument with
  | none => rfl
  | some found =>
    obtain ⟨target, property⟩ := found
    dsimp only
    cases hdeclared : declared? functions target with
    | none => rfl
    | some f =>
      obtain ⟨rfl, hf⟩ := declared?_eq_some_iff.mp hdeclared
      exact absurd ⟨_, localizes_address_iff.mpr ⟨f, property, hf, hparts, rfl⟩⟩ hforeign

/-- Any other value keeps its kind and its keys, and its parts are resolved. -/
theorem resolve_of_other (haddress : ¬ IsAddress v) (hforeign : ¬ IsLocal functions v) :
    (resolve functions v).hull = v.hull ∧
      (resolve functions v).parts = v.parts.map (resolve functions) := by
  rw [resolve.eq_def]
  split
  · rename_i items
    rw [resolveItems_eq]
    exact ⟨by rw [Value.hull, Value.hull, List.map_map]; rfl, rfl⟩
  · rename_i argument
    cases hdeclared : declared? functions argument with
    | none => exact ⟨rfl, rfl⟩
    | some f =>
      obtain ⟨rfl, hf⟩ := declared?_eq_some_iff.mp hdeclared
      exact absurd ⟨_, .name hf⟩ hforeign
  · rename_i argument
    exact absurd ⟨argument, rfl⟩ haddress
  · rename_i entries _ _
    rw [resolveEntries_eq]
    constructor
    · rw [Value.hull, Value.hull, List.map_map]
      rfl
    · rw [Value.parts, Value.parts, List.map_map, List.map_map]
      rfl
  · rename_i hlist _ _ hmap
    cases v with
    | list items => exact (hlist items rfl).elim
    | map entries => exact (hmap entries rfl).elim
    | _ => exact ⟨rfl, List.map_nil.symm⟩

/-! ## Places that are reached -/

/-- Nothing on the way to a place, the place itself left out, is such a value. -/
def NoneAbove (p : Value → Prop) (v : Value) (position : Position) : Prop :=
  ∀ above u, above <+: position → above ≠ position → v.part? above = some u → ¬ p u

/-- No address stands above the place, so that resolving comes to it. -/
abbrev IsReached : Value → Position → Prop := NoneAbove IsAddress

/-- No reference to a declared function stands above the place. -/
abbrev IsUncovered (functions : List String) : Value → Position → Prop :=
  NoneAbove (IsLocal functions)

theorem noneAbove_nil (p : Value → Prop) (v : Value) : NoneAbove p v [] :=
  fun _ _ habove hne => absurd (List.prefix_nil.mp habove) hne

theorem noneAbove_cons_iff {p : Value → Prop} {i : Nat} {inner : Position}
    (hx : v.parts[i]? = some x) :
    NoneAbove p v (i :: inner) ↔ ¬ p v ∧ NoneAbove p x inner := by
  constructor
  · intro h
    refine ⟨h [] v List.nil_prefix (List.cons_ne_nil i inner).symm rfl, ?_⟩
    intro above u habove hne hu
    refine h (i :: above) u (List.cons_prefix_cons.mpr ⟨rfl, habove⟩) (by simpa using hne) ?_
    exact Value.part?_cons_eq_some_iff.mpr ⟨x, hx, hu⟩
  · rintro ⟨hv, h⟩ above u habove hne hu
    cases above with
    | nil =>
      obtain rfl : v = u := Option.some.inj hu
      exact hv
    | cons j above =>
      obtain ⟨rfl, hprefix⟩ := List.cons_prefix_cons.mp habove
      obtain ⟨z, hz, hu⟩ := Value.part?_cons_eq_some_iff.mp hu
      obtain rfl : x = z := Option.some.inj (hx.symm.trans hz)
      exact h above u hprefix (by simpa using hne) hu

/-- A mapping does not stand in a reference by name, so a mapping that is reached is uncovered. -/
theorem isUncovered_of_isMap (hreached : IsReached v position) (hx : v.part? position = some x)
    (hmap : x.isMap = true) : IsUncovered functions v position := by
  induction position generalizing v with
  | nil => exact noneAbove_nil _ _
  | cons i inner ih =>
    obtain ⟨z, hz, hinner⟩ := Value.part?_cons_eq_some_iff.mp hx
    obtain ⟨haddress, hreached⟩ := (noneAbove_cons_iff hz).mp hreached
    refine (noneAbove_cons_iff hz).mpr ⟨fun ⟨y, hlocal⟩ => ?_, ih hreached hinner⟩
    cases hlocal with
    | @name f hf =>
      have hatom : z = .str f := List.mem_singleton.mp (List.mem_of_getElem? hz)
      rw [hatom] at hinner
      cases inner with
      | nil =>
        obtain rfl : .str f = x := Option.some.inj hinner
        exact Bool.false_ne_true hmap
      | cons j inner =>
        obtain ⟨_, hnone, -⟩ := Value.part?_cons_eq_some_iff.mp hinner
        cases hnone
    | pair => exact haddress ⟨_, rfl⟩
    | dotted => exact haddress ⟨_, rfl⟩

/-- By induction on the way to a place that is reached: what stands there afterwards is what stood
there, resolved. -/
theorem part?_resolve (hreached : IsReached v position)
    (huncovered : IsUncovered functions v position) (hx : v.part? position = some x) :
    (resolve functions v).part? position = some (resolve functions x) := by
  induction position generalizing v with
  | nil =>
    obtain rfl : v = x := Option.some.inj hx
    rfl
  | cons i inner ih =>
    obtain ⟨z, hz, hinner⟩ := Value.part?_cons_eq_some_iff.mp hx
    obtain ⟨haddress, hreached⟩ := (noneAbove_cons_iff hz).mp hreached
    obtain ⟨hforeign, huncovered⟩ := (noneAbove_cons_iff hz).mp huncovered
    have hparts := (resolve_of_other haddress hforeign).2
    refine Value.part?_cons_eq_some_iff.mpr ⟨resolve functions z, ?_, ih hreached huncovered hinner⟩
    rw [hparts, List.getElem?_map, hz]
    rfl

/-! ## Exactly these changes -/

/-- What has become of a value if exactly the references to declared functions that are reached have
been resolved. -/
structure IsResolved (functions : List String) (v w : Value) : Prop where
  declared : ∀ position x y, IsReached v position → v.part? position = some x →
    Localizes functions x y → w.part? position = some y
  /-- An address of anything else is the same, argument included. -/
  foreign : ∀ position x, IsReached v position → v.part? position = some x → IsAddress x →
    ¬ IsLocal functions x → w.part? position = some x
  /-- Everything else is of the same kind and has as many parts, under the same keys. -/
  kept : ∀ position x, IsReached v position → IsUncovered functions v position →
    v.part? position = some x → ¬ IsAddress x → ¬ IsLocal functions x →
    ∃ y, w.part? position = some y ∧ y.hull = x.hull

theorem Localizes.isMap (h : Localizes functions x y) : x.isMap = true := by
  cases h <;> rfl

theorem IsAddress.isMap (h : IsAddress x) : x.isMap = true := by
  obtain ⟨argument, rfl⟩ := h
  rfl

theorem isResolved_resolve (functions : List String) (v : Value) :
    IsResolved functions v (resolve functions v) where
  declared position x y hreached hx hlocal := by
    rw [part?_resolve hreached (isUncovered_of_isMap hreached hx hlocal.isMap) hx,
      resolve_of_localizes hlocal]
  foreign position x hreached hx haddress hforeign := by
    rw [part?_resolve hreached (isUncovered_of_isMap hreached hx haddress.isMap) hx,
      resolve_of_isAddress haddress hforeign]
  kept position x hreached huncovered hx haddress hforeign :=
    ⟨_, part?_resolve hreached huncovered hx, (resolve_of_other haddress hforeign).1⟩

/-- The changes in a value are the changes in its parts. -/
theorem IsResolved.of_parts {i : Nat} (h : IsResolved functions v w) (haddress : ¬ IsAddress v)
    (hforeign : ¬ IsLocal functions v) (hx : v.parts[i]? = some x)
    (hy : w.parts[i]? = some y) : IsResolved functions x y := by
  have hpart {u z : Value} {inner : Position} (hu : v.parts[i]? = some u)
      (hz : u.part? inner = some z) : v.part? (i :: inner) = some z :=
    Value.part?_cons_eq_some_iff.mpr ⟨u, hu, hz⟩
  have hpart' {z : Value} {inner : Position} (hz : w.part? (i :: inner) = some z) :
      y.part? inner = some z := by
    obtain ⟨u, hu, hz⟩ := Value.part?_cons_eq_some_iff.mp hz
    obtain rfl : y = u := Option.some.inj (hy.symm.trans hu)
    exact hz
  have hreach {inner : Position} (hinner : IsReached x inner) : IsReached v (i :: inner) :=
    (noneAbove_cons_iff hx).mpr ⟨haddress, hinner⟩
  refine ⟨fun position z z' hreached hz hlocal => ?_, fun position z hreached hz hz' hnot => ?_,
    fun position z hreached huncovered hz hz' hnot => ?_⟩
  · exact hpart' (h.declared _ _ _ (hreach hreached) (hpart hx hz) hlocal)
  · exact hpart' (h.foreign _ _ (hreach hreached) (hpart hx hz) hz' hnot)
  · have hcover : IsUncovered functions v (i :: position) :=
      (noneAbove_cons_iff hx).mpr ⟨hforeign, huncovered⟩
    obtain ⟨z', hfound, hhull⟩ := h.kept _ _ (hreach hreached) hcover (hpart hx hz) hz' hnot
    exact ⟨z', hpart' hfound, hhull⟩

/-- By induction on the value: the changes determine the result. -/
theorem eq_resolve_of_isResolved (h : IsResolved functions v w) : w = resolve functions v := by
  induction v using Value.parts_induction generalizing w with
  | h v ih =>
    by_cases hlocal : IsLocal functions v
    · obtain ⟨y, hlocal⟩ := hlocal
      have hw := h.declared [] v y (noneAbove_nil _ v) rfl hlocal
      rw [resolve_of_localizes hlocal]
      exact Option.some.inj hw
    · by_cases haddress : IsAddress v
      · have hw := h.foreign [] v (noneAbove_nil _ v) rfl haddress hlocal
        rw [resolve_of_isAddress haddress hlocal]
        exact Option.some.inj hw
      · obtain ⟨y, hy, hhull⟩ :=
          h.kept [] v (noneAbove_nil _ v) (noneAbove_nil _ v) rfl haddress hlocal
        obtain rfl : w = y := Option.some.inj hy
        obtain ⟨hhull', hparts⟩ := resolve_of_other haddress hlocal
        refine Value.eq_of_hull_of_parts (hhull.trans hhull'.symm) ?_
        rw [hparts]
        apply List.ext_getElem
        · rw [List.length_map]
          exact Value.length_parts_of_hull hhull
        · intro i hw hv
          rw [List.length_map] at hv
          have hinner := h.of_parts haddress hlocal (List.getElem?_eq_getElem hv)
            (List.getElem?_eq_getElem hw)
          rw [List.getElem_map]
          exact ih _ (List.getElem_mem hv) hinner

/-! ## Values that stay -/

/-- No reference to a declared function is reached. -/
def HasNoneDeclared (functions : List String) (v : Value) : Prop :=
  ∀ position x, IsReached v position → v.part? position = some x → ¬ IsLocal functions x

theorem resolve_of_hasNoneDeclared (h : HasNoneDeclared functions v) : resolve functions v = v := by
  induction v using Value.parts_induction with
  | h v ih =>
    have hforeign : ¬ IsLocal functions v := h [] v (noneAbove_nil _ v) rfl
    by_cases haddress : IsAddress v
    · exact resolve_of_isAddress haddress hforeign
    · obtain ⟨hhull, hparts⟩ := resolve_of_other haddress hforeign
      refine Value.eq_of_hull_of_parts hhull ?_
      rw [hparts]
      refine (List.map_congr_left fun x hx => ?_).trans (List.map_id _)
      refine ih x hx fun position z hreached hz => ?_
      obtain ⟨i, hi⟩ := List.mem_iff_getElem?.mp hx
      exact h (i :: position) z ((noneAbove_cons_iff hi).mpr ⟨haddress, hreached⟩)
        (Value.part?_cons_eq_some_iff.mpr ⟨x, hi, hz⟩)

/-- The logical IDs of the declared functions are no names of declared functions. -/
def KeepsApart (functions : List String) : Prop :=
  ∀ f ∈ functions, Naming.lambdaId f ∉ functions

/-- What a reference has become is none to a declared function. -/
theorem not_isLocal_of_localizes (hapart : KeepsApart functions) (h : Localizes functions v w) :
    ¬ IsLocal functions w := by
  have haddress {f : String} {property : Value} (hf : f ∈ functions) (y : Value) :
      ¬ Localizes functions (getAtt (Naming.lambdaId f) property) y := by
    intro hagain
    obtain ⟨g, _, hg, hparts, -⟩ := localizes_address_iff.mp hagain
    obtain ⟨hname, -⟩ := Prod.mk.inj (Option.some.inj hparts)
    obtain rfl := Atom.str.inj (Value.atom.inj hname)
    exact hapart f hf hg
  rintro ⟨y, hagain⟩
  cases h with
  | @name f hf =>
    obtain ⟨g, hg, hname, -⟩ := localizes_ref_iff.mp hagain
    obtain rfl := Atom.str.inj (Value.atom.inj hname)
    exact hapart f hf hg
  | pair hf => exact haddress hf y hagain
  | dotted hf => exact haddress hf y hagain

theorem resolve_resolved (hapart : KeepsApart functions) (h : Localizes functions v w) :
    resolve functions w = w := by
  have hforeign := not_isLocal_of_localizes hapart h
  cases h with
  | @name f hf =>
    have hother : ¬ IsAddress (.single "Ref" (.str (Naming.lambdaId f))) := by
      rintro ⟨argument, hargument⟩
      exact absurd (Value.single_inj hargument).1 (by decide)
    obtain ⟨hhull, hparts⟩ := resolve_of_other hother hforeign
    exact Value.eq_of_hull_of_parts hhull hparts
  | pair hf => exact resolve_of_isAddress ⟨_, rfl⟩ hforeign
  | dotted hf => exact resolve_of_isAddress ⟨_, rfl⟩ hforeign

theorem eq_atom_of_resolve {a : Atom} (h : resolve functions v = .atom a) : v = .atom a := by
  by_cases hlocal : IsLocal functions v
  · obtain ⟨y, hlocal⟩ := hlocal
    rw [resolve_of_localizes hlocal] at h
    cases hlocal <;> cases h
  · by_cases haddress : IsAddress v
    · rw [resolve_of_isAddress haddress hlocal] at h
      exact h
    · have hhull := (resolve_of_other haddress hlocal).1
      rw [h] at hhull
      cases v with
      | atom b => exact hhull.symm
      | _ => cases hhull

/-- A value that is none of the references does not become one when its parts are resolved. -/
theorem not_isLocal_resolve (haddress : ¬ IsAddress v) (hforeign : ¬ IsLocal functions v) :
    ¬ IsAddress (resolve functions v) ∧ ¬ IsLocal functions (resolve functions v) := by
  obtain ⟨hhull, hparts⟩ := resolve_of_other haddress hforeign
  have hsingle {key : String} {argument : Value} (h : resolve functions v = .single key argument) :
      ∃ old, v = .single key old ∧ resolve functions old = argument := by
    rw [h] at hhull hparts
    exact Value.exists_single_of_hull hhull hparts
  have haddress' : ¬ IsAddress (resolve functions v) := by
    rintro ⟨argument, h⟩
    obtain ⟨old, rfl, -⟩ := hsingle h
    exact haddress ⟨old, rfl⟩
  refine ⟨haddress', fun ⟨y, hlocal⟩ => ?_⟩
  generalize hw : resolve functions v = w at hlocal
  cases hlocal with
  | @name f hf =>
    obtain ⟨old, rfl, hold⟩ := hsingle hw
    exact hforeign ⟨_, localizes_ref_iff.mpr ⟨f, hf, eq_atom_of_resolve hold, rfl⟩⟩
  | pair => exact haddress' ⟨_, hw⟩
  | dotted => exact haddress' ⟨_, hw⟩

theorem resolve_resolve (hapart : KeepsApart functions) (v : Value) :
    resolve functions (resolve functions v) = resolve functions v := by
  induction v using Value.parts_induction with
  | h v ih =>
    by_cases hlocal : IsLocal functions v
    · obtain ⟨y, hlocal⟩ := hlocal
      rw [resolve_of_localizes hlocal, resolve_resolved hapart hlocal]
    · by_cases haddress : IsAddress v
      · rw [resolve_of_isAddress haddress hlocal, resolve_of_isAddress haddress hlocal]
      · obtain ⟨haddress', hlocal'⟩ := not_isLocal_resolve haddress hlocal
        obtain ⟨hhull, hparts⟩ := resolve_of_other haddress' hlocal'
        refine Value.eq_of_hull_of_parts hhull ?_
        rw [hparts, (resolve_of_other haddress hlocal).2, List.map_map]
        exact List.map_congr_left ih

/-- Resolving makes exactly these changes: it resolves the references to declared functions that it
reaches and nothing else. A value without such references stays as it is, and so does a value that
has been resolved. -/
theorem resolve_exactly (functions : List String) (hapart : KeepsApart functions) (v : Value) :
    (∀ w, w = resolve functions v ↔ IsResolved functions v w) ∧
      (HasNoneDeclared functions v → resolve functions v = v) ∧
      resolve functions (resolve functions v) = resolve functions v := by
  refine ⟨fun w => ⟨?_, eq_resolve_of_isResolved⟩, resolve_of_hasNoneDeclared,
    resolve_resolve hapart v⟩
  rintro rfl
  exact isResolved_resolve functions v

theorem resolve_exactly_hello : KeepsApart ["hello"] ∧
    IsResolved ["hello"]
      (.list [.single "Fn::GetAtt" (.str "hello.Arn"), .single "Ref" (.str "hello"), .str "hello"])
      (.list [.single "Fn::GetAtt" (.list [.str "HelloLambdaFunction", .str "Arn"]),
        .single "Ref" (.str "HelloLambdaFunction"), .str "hello"]) ∧
    HasNoneDeclared ["hello"]
      (.single "Fn::GetAtt" (.list [.str "Other", .single "Ref" (.str "hello")])) ∧
    resolve ["hello"] (.single "Fn::GetAtt" (.list [.str "Other", .single "Ref" (.str "hello")])) =
      .single "Fn::GetAtt" (.list [.str "Other", .single "Ref" (.str "hello")]) := by
  have hapart : KeepsApart ["hello"] := by
    intro f hf
    obtain rfl := List.mem_singleton.mp hf
    decide
  have hnone : HasNoneDeclared ["hello"]
      (.single "Fn::GetAtt" (.list [.str "Other", .single "Ref" (.str "hello")])) := by
    rintro position x hreached hx ⟨y, hlocal⟩
    cases position with
    | nil =>
      obtain rfl := Option.some.inj hx
      obtain ⟨f, _, hf, hparts, -⟩ := localizes_address_iff.mp hlocal
      obtain rfl := List.mem_singleton.mp hf
      obtain ⟨hname, -⟩ := Prod.mk.inj (Option.some.inj hparts)
      exact absurd hname (by decide)
    | cons i inner =>
      exact hreached [] _ List.nil_prefix (List.cons_ne_nil i inner).symm rfl ⟨_, rfl⟩
  exact ⟨hapart, ((resolve_exactly ["hello"] hapart _).1 _).mp (by decide), hnone,
    (resolve_exactly ["hello"] hapart _).2.1 hnone⟩

end Reference

end FlowTemplate
