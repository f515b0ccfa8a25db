import FlowTemplate.Proofs.Json.Limit
import FlowTemplate.Proofs.Json.Reread
/-!
# The keys in a JSON text

A key is a string with a colon behind it, whatever object it is in and however often the object has
it. So the keys of all objects in a text can be listed by going over its strings, without putting
any object together. In a printed value these are the keys of its mappings in their order, as texts.
-/

namespace FlowTemplate

namespace Json

/-- The string at the front of a text, if a colon stands behind it. -/
def keyAhead? (s : List Char) : Option String :=
  match s with
  | '"' :: rest => match readString rest with
    | .ok (key, rest) => if (skipBlanks rest).head? = some ':' then some key else none
    | .error _ => none
  | _ => none

/-- The keys in a text, from its start to its end. -/
def keysIn (s : List Char) : List String :=
  match s with
  | [] => []
  | '"' :: rest => (keyAhead? ('"' :: rest)).toList ++ keysIn (behindString rest)
  | _ :: rest => keysIn rest
termination_by s.length
decreasing_by
  · exact Nat.lt_succ_of_le (length_behindString_le rest)
  · exact Nat.lt_succ_self _

/-- What comes next, blanks apart, is no colon. -/
def NoColon (rest : List Char) : Prop := (skipBlanks rest).head? ≠ some ':'

theorem noColon_cons {c : Char} (hblank : isBlank c = false) (hcolon : c ≠ ':')
    (rest : List Char) : NoColon (c :: rest) := by
  rw [NoColon, skipBlanks_cons hblank, List.head?_cons]
  exact fun h => hcolon (Option.some.inj h)

theorem Blanks.noColon {blanks rest : List Char} (h : Blanks blanks) (hrest : NoColon rest) :
    NoColon (blanks ++ rest) := by
  rw [NoColon, skipBlanks_append h]
  exact hrest

/-! ## Pieces of a text -/

theorem keysIn_cons {c : Char} (hc : c ≠ '"') (rest : List Char) :
    keysIn (c :: rest) = keysIn rest := by
  rw [keysIn]
  exact hc

theorem keysIn_append {s : List Char} (h : ∀ c ∈ s, c ≠ '"') (rest : List Char) :
    keysIn (s ++ rest) = keysIn rest := by
  induction s with
  | nil => rfl
  | cons c s ih =>
    obtain ⟨hc, hs⟩ := List.forall_mem_cons.mp h
    rw [List.cons_append, keysIn_cons hc, ih hs]

theorem keysIn_blanks {blanks : List Char} (h : Blanks blanks) (rest : List Char) :
    keysIn (blanks ++ rest) = keysIn rest :=
  keysIn_append (fun c hc hquote => by
    have hblank := h c hc
    rw [hquote] at hblank
    cases hblank) rest

theorem keysIn_string {raw text : List Char} (body : Body raw text) (rest : List Char) :
    keysIn ('"' :: (raw ++ rest)) =
      (if (skipBlanks rest).head? = some ':' then [String.ofList text] else []) ++ keysIn rest := by
  rw [keysIn, keyAhead?, readString_body body, behindString_body body]
  dsimp only
  split <;> rfl

end Json

/-! ## The keys of a value -/

namespace Value

mutual

/-- The keys of the mappings in a value, as they are printed. -/
def printedKeys : Value → List String
  | .atom _ | .set _ | .again _ => []
  | .list items | .tuple items => itemsKeys items
  | .anchored _ v => printedKeys v
  | .map entries => entriesKeys entries

def itemsKeys : List Value → List String
  | [] => []
  | v :: rest => printedKeys v ++ itemsKeys rest

def entriesKeys : List (Atom × Value) → List String
  | [] => []
  | (k, v) :: rest => k.keyText :: (printedKeys v ++ entriesKeys rest)

end

end Value

namespace Json

variable {style : Style}

theorem noColon_close (style : Style) (depth : Nat) {c : Char} (hblank : isBlank c = false)
    (hcolon : c ≠ ':') (rest : List Char) : NoColon (lineBreak style depth ++ c :: rest) :=
  (blanks_lineBreak style depth).noColon (noColon_cons hblank hcolon rest)

theorem noColon_separator (style : Style) (depth : Nat) (rest : List Char) :
    NoColon (separator style depth ++ rest) := by
  obtain ⟨blanks, hseparator, -⟩ := separator_eq style depth
  rw [hseparator]
  exact noColon_cons rfl (by decide) _

theorem keysIn_separator (style : Style) (depth : Nat) (rest : List Char) :
    keysIn (separator style depth ++ rest) = keysIn rest := by
  obtain ⟨blanks, hseparator, hblanks⟩ := separator_eq style depth
  rw [hseparator, List.cons_append, keysIn_cons (by decide), keysIn_blanks hblanks]

theorem noColon_renderItems (style : Style) (depth : Nat) (items : List Value) {rest : List Char}
    (hrest : NoColon rest) : NoColon (renderItems style depth items ++ rest) := by
  cases items with
  | nil => exact hrest
  | cons v items =>
    rw [renderItems, List.append_assoc, List.append_assoc]
    exact noColon_separator style depth _

theorem noColon_renderEntries (style : Style) (depth : Nat) (entries : List (Atom × Value))
    {rest : List Char} (hrest : NoColon rest) :
    NoColon (renderEntries style depth entries ++ rest) := by
  cases entries with
  | nil => exact hrest
  | cons entry entries =>
    rw [renderEntries]
    simp only [List.append_assoc]
    exact noColon_separator style depth _

theorem keysIn_atom {a : Atom} (hjson : a.hasJson = true)
    (hprintable : ∀ s ∈ a.texts, IsPrintable style s) {rest : List Char} (hrest : NoColon rest) :
    keysIn (renderAtom style a ++ rest) = keysIn rest := by
  by_cases htext : ∃ s, a = .str s
  · obtain ⟨s, rfl⟩ := htext
    obtain ⟨raw, hquoted, hbody⟩ := exists_body_of_isPrintable (hprintable s List.mem_cons_self)
    rw [renderAtom, hquoted, List.cons_append, keysIn_string hbody, if_neg hrest]
    rfl
  · have hne : ∀ s, a ≠ .str s := fun s hs => htext ⟨s, hs⟩
    have hbare : renderAtom style a = bareAtom a := by
      cases a <;> first | rfl | exact absurd rfl (hne _)
    rw [hbare]
    exact keysIn_append (fun c hc => ((scalar_bareAtom hjson hne).unescaped c hc).1) rest

/-- Brackets hold no keys. -/
theorem keysIn_close (style : Style) (depth : Nat) {c : Char} (hc : c ≠ '"') (rest : List Char) :
    keysIn (lineBreak style depth ++ c :: rest) = keysIn rest := by
  rw [keysIn_blanks (blanks_lineBreak style depth), keysIn_cons hc]

theorem keysIn_list (style : Style) (depth : Nat) (items : List Value) (rest : List Char) :
    keysIn (render style depth (.list items) ++ rest) =
      keysIn (renderItems style (depth + 1) items ++ (lineBreak style depth ++ ']' :: rest)) := by
  cases items with
  | nil =>
    rw [render, renderItems, List.nil_append, keysIn_close style depth (by decide)]
    exact (keysIn_cons (by decide) _).trans (keysIn_cons (by decide) _)
  | cons v items =>
    simp only [render, renderItems, List.cons_append, List.append_assoc, List.nil_append]
    rw [keysIn_cons (by decide), keysIn_blanks (blanks_lineBreak style _), keysIn_separator]

theorem keysIn_map (style : Style) (depth : Nat) (entries : List (Atom × Value))
    (rest : List Char) : keysIn (render style depth (.map entries) ++ rest) =
      keysIn (renderEntries style (depth + 1) entries ++
        (lineBreak style depth ++ '\x7d' :: rest)) := by
  cases entries with
  | nil =>
    rw [render, renderEntries, List.nil_append, keysIn_close style depth (by decide)]
    exact (keysIn_cons (by decide) _).trans (keysIn_cons (by decide) _)
  | cons entry entries =>
    simp only [render, renderEntries, List.cons_append, List.append_assoc, List.nil_append]
    rw [keysIn_cons (by decide), keysIn_blanks (blanks_lineBreak style _), keysIn_separator]

theorem render_tuple (style : Style) (depth : Nat) (items : List Value) :
    render style depth (.tuple items) = render style depth (.list items) := by
  cases items <;> rfl

/-- A key is found where it is printed. -/
theorem keysIn_renderKey {k : Atom} (hjson : k.hasJson = true)
    (hprintable : ∀ s ∈ k.texts, IsPrintable style s) (rest : List Char) :
    keysIn (renderKey style k ++ (colon style ++ rest)) = k.keyText :: keysIn rest := by
  obtain ⟨raw, hkey, hbody⟩ := exists_body_of_renderKey hjson hprintable
  obtain ⟨blanks, hcolon, hblanks⟩ := colon_eq style
  have hhead : (skipBlanks (colon style ++ rest)).head? = some ':' := by
    rw [hcolon, List.cons_append, skipBlanks_cons rfl, List.head?_cons]
  rw [hkey, List.cons_append, keysIn_string hbody, if_pos hhead, String.ofList_toList, hcolon,
    List.cons_append, List.nil_append, List.cons_append, keysIn_cons (by decide),
    keysIn_blanks hblanks]

mutual

/-- The keys in the text of a value are those of its mappings. -/
theorem keysIn_render : (v : Value) → (around : List Nat) → v.jsonFault around = none →
    (∀ s ∈ Intrinsic.allTexts v, IsPrintable style s) → (depth : Nat) → {rest : List Char} →
    NoColon rest → keysIn (render style depth v ++ rest) = v.printedKeys ++ keysIn rest
  | .atom a, around, hjson, hprintable, depth, rest, hrest => by
    exact keysIn_atom (Value.jsonFault_atom_eq_none_iff.mp hjson) hprintable hrest
  | .list items, around, hjson, hprintable, depth, rest, hrest => by
    have hclose := noColon_close style depth (c := ']') rfl (by decide) rest
    rw [keysIn_list, keysIn_renderItems items around hjson hprintable (depth + 1) hclose,
      keysIn_close style depth (by decide), Value.printedKeys]
  | .tuple items, around, hjson, hprintable, depth, rest, hrest => by
    have hclose := noColon_close style depth (c := ']') rfl (by decide) rest
    rw [render_tuple, keysIn_list,
      keysIn_renderItems items around hjson hprintable (depth + 1) hclose,
      keysIn_close style depth (by decide), Value.printedKeys]
  | .set members, around, hjson, _, _, _, _ => by cases hjson
  | .again number, around, hjson, _, _, _, _ => by cases hjson
  | .anchored number v, around, hjson, hprintable, depth, rest, hrest => by
    exact keysIn_render v (number :: around) (Value.jsonFault_of_anchored hjson) hprintable depth
      hrest
  | .map entries, around, hjson, hprintable, depth, rest, hrest => by
    have hclose := noColon_close style depth (c := '\x7d') rfl (by decide) rest
    rw [keysIn_map, keysIn_renderEntries entries around hjson hprintable (depth + 1) hclose,
      keysIn_close style depth (by decide), Value.printedKeys]

theorem keysIn_renderItems : (items : List Value) → (around : List Nat) →
    Value.itemsFault around items = none →
    (∀ s ∈ Intrinsic.allTextsOfItems items, IsPrintable style s) → (depth : Nat) →
    {rest : List Char} → NoColon rest →
    keysIn (renderItems style depth items ++ rest) = Value.itemsKeys items ++ keysIn rest
  | [], _, _, _, _, _, _ => rfl
  | v :: items, around, hjson, hprintable, depth, rest, hrest => by
    obtain ⟨hv, hitems⟩ := Value.itemsFault_cons_eq_none_iff.mp hjson
    obtain ⟨hhere, hafter⟩ := List.forall_mem_append.mp hprintable
    rw [renderItems, List.append_assoc, List.append_assoc, keysIn_separator,
      keysIn_render v around hv hhere depth (noColon_renderItems style depth items hrest),
      keysIn_renderItems items around hitems hafter depth hrest, Value.itemsKeys,
      List.append_assoc]

theorem keysIn_renderEntries : (entries : List (Atom × Value)) → (around : List Nat) →
    Value.entriesFault around entries = none →
    (∀ s ∈ Intrinsic.allTextsOfEntries entries, IsPrintable style s) → (depth : Nat) →
    {rest : List Char} → NoColon rest →
    keysIn (renderEntries style depth entries ++ rest) = Value.entriesKeys entries ++ keysIn rest
  | [], _, _, _, _, _, _ => rfl
  | (k, v) :: entries, around, hjson, hprintable, depth, rest, hrest => by
    obtain ⟨hk, hv, hentries⟩ := Value.entriesFault_cons_eq_none_iff.mp hjson
    obtain ⟨hhere, hafter⟩ := List.forall_mem_append.mp hprintable
    obtain ⟨hkey, hvalue⟩ := List.forall_mem_append.mp hhere
    rw [renderEntries]
    simp only [List.append_assoc]
    rw [keysIn_separator, keysIn_renderKey hk hkey,
      keysIn_render v around hv hvalue depth (noColon_renderEntries style depth entries hrest),
      keysIn_renderEntries entries around hentries hafter depth hrest, Value.entriesKeys,
      List.cons_append, List.append_assoc]

end

/-- The keys in a whole text are those of the mappings in the value that it is the text of. -/
theorem keysIn_text (hstyle : style.asciiOnly = false) {v : Value} (h : v.jsonFault [] = none)
    (depth : Nat) : keysIn (render style depth v) = v.printedKeys := by
  have hnothing : NoColon [] := by simp [NoColon, skipBlanks]
  have hkeys := keysIn_render v [] h (fun s _ => isPrintable_of_wide hstyle s) depth hnothing
  rwa [List.append_nil, keysIn, List.append_nil] at hkeys

end Json

end FlowTemplate
