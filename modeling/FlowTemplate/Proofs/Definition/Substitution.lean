import FlowTemplate.Proofs.Definition.RoundTrip
import Mathlib.Data.List.Forall2
/-!
# Substitution in the text of a definition

When a template is deployed, the placeholders in the text of a definition give way to texts. This
works on characters and knows nothing of JSON. It does what it should all the same: when no text and
no key of the definition holds the two characters that open a placeholder, the only placeholders in
the text are those of the drawn names, and texts that need no escapes keep the text well formed. The
texts may hold anything else, placeholders included: what was put in is not looked at again.
-/

namespace FlowTemplate

namespace Intrinsic

mutual

/-- The keys of a tree that stand outside of its intrinsics. -/
def outerKeys : Value → List Atom
  | .list items => outerKeysOfItems items
  | .map entries => if isIntrinsic (.map entries) then [] else outerKeysOfEntries entries
  | _ => []

def outerKeysOfItems : List Value → List Atom
  | [] => []
  | v :: rest => outerKeys v ++ outerKeysOfItems rest

def outerKeysOfEntries : List (Atom × Value) → List Atom
  | [] => []
  | (k, v) :: rest => k :: outerKeys v ++ outerKeysOfEntries rest

end

end Intrinsic

namespace Substitution

/-- The text for the placeholder at the front of a text, and what stands behind the placeholder. -/
def leading? (text? : String → Option String) : List Char → Option (String × List Char)
  | '$' :: '\x7b' :: rest =>
    match rest.dropWhile (· != '\x7d') with
    | [] => none
    | _ :: after => (text? (String.ofList (rest.takeWhile (· != '\x7d')))).map (·, after)
  | _ => none

variable {text? : String → Option String}

theorem length_of_leading? {s after : List Char} {text : String}
    (h : leading? text? s = some (text, after)) : after.length + 2 < s.length := by
  unfold leading? at h
  split at h
  · rename_i rest
    have hlength := (List.dropWhile_sublist (· != '\x7d') (l := rest)).length_le
    split at h
    · cases h
    · rename_i hdrop
      obtain ⟨found, -, hfound⟩ := Option.map_eq_some_iff.mp h
      obtain ⟨-, rfl⟩ := Prod.mk.inj hfound
      rw [hdrop, List.length_cons] at hlength
      simp only [List.length_cons]
      omega
  · cases h

/-- A text with the placeholders of some names replaced, from left to right. A placeholder of any
other name stays as it is. -/
def replace (text? : String → Option String) : List Char → List Char
  | [] => []
  | c :: rest =>
    match _h : leading? text? (c :: rest) with
    | some (text, after) => text.toList ++ replace text? after
    | none => c :: replace text? rest
termination_by s => s.length
decreasing_by
  · have := length_of_leading? _h
    omega
  · exact Nat.lt_succ_self _

theorem replace_of_leading? {s after : List Char} {text : String}
    (h : leading? text? s = some (text, after)) :
    replace text? s = text.toList ++ replace text? after := by
  cases s with
  | nil => cases h
  | cons c rest =>
    rw [replace]
    split
    · simp_all
    · simp_all

theorem replace_cons {c : Char} {rest : List Char} (h : leading? text? (c :: rest) = none) :
    replace text? (c :: rest) = c :: replace text? rest := by
  rw [replace]
  split
  · simp_all
  · rfl

/-- A piece of a text gives way to another one, whatever stands behind it. -/
def Becomes (text? : String → Option String) (piece piece' : List Char) : Prop :=
  ∀ rest, replace text? (piece ++ rest) = piece' ++ replace text? rest

theorem Becomes.append {s s' t t' : List Char} (hs : Becomes text? s s')
    (ht : Becomes text? t t') : Becomes text? (s ++ t) (s' ++ t') := by
  intro rest
  rw [List.append_assoc, hs, ht, List.append_assoc]

theorem becomes_nil : Becomes text? [] [] := fun _ => rfl

theorem leading?_of_ne {c : Char} (h : c ≠ '$') (rest : List Char) :
    leading? text? (c :: rest) = none := by
  unfold leading?
  split
  · simp_all
  · rfl

/-- A dollar sign opens nothing when no brace stands behind it. -/
theorem leading?_dollar {rest : List Char} (h : rest.head? ≠ some '\x7b') :
    leading? text? ('$' :: rest) = none := by
  unfold leading?
  split
  · simp_all
  · rfl

/-- A piece without dollar signs stays. -/
theorem becomes_self {s : List Char} (h : '$' ∉ s) : Becomes text? s s := by
  intro rest
  induction s with
  | nil => rfl
  | cons c s ih =>
    have hc : '$' ≠ c := List.ne_of_not_mem_cons h
    have hs : '$' ∉ s := List.not_mem_of_not_mem_cons h
    rw [List.cons_append, replace_cons (leading?_of_ne hc.symm _), ih hs, List.cons_append]

/-! ## Texts in quotes -/

/-- A text that stands in quotes as it is. -/
def NeedsNoEscape (s : String) : Prop :=
  ∀ c ∈ s.toList, c ≠ '"' ∧ c ≠ '\\' ∧ 0x20 ≤ c.toNat

theorem escapedChar_of_plain {c : Char} (h : c ≠ '"' ∧ c ≠ '\\' ∧ 0x20 ≤ c.toNat) :
    Json.escapedChar c = [c] := by
  obtain ⟨hquote, hslash, hcontrol⟩ := h
  have hne (d : Char) (hd : d.toNat < 0x20) : c ≠ d := by
    rintro rfl
    omega
  have hcontrol : ¬ c.toNat < 0x20 := by omega
  simp [Json.escapedChar, hquote, hslash, hne '\n' (by decide), hne '\r' (by decide),
    hne '\t' (by decide), hne '\x08' (by decide), hne '\x0c' (by decide), hcontrol]

theorem quoted_of_needsNoEscape {s : String} (h : NeedsNoEscape s) :
    Json.quoted false s = '"' :: s.toList ++ ['"'] := by
  have hbody : s.toList.flatMap Json.escapedChar = s.toList := by
    unfold NeedsNoEscape at h
    generalize s.toList = chars at h
    induction chars with
    | nil => rfl
    | cons c rest ih =>
      obtain ⟨hc, hrest⟩ := List.forall_mem_cons.mp h
      rw [List.flatMap_cons, escapedChar_of_plain hc, ih hrest, List.singleton_append]
  simp [Json.quoted, hbody]

/-- A character is written as it is or as an escape, which holds no dollar sign. -/
theorem escapedChar_eq (c : Char) : Json.escapedChar c = [c] ∨
    (Json.escapedChar c).head? = some '\\' ∧ '$' ∉ Json.escapedChar c := by
  by_cases h : c ≠ '"' ∧ c ≠ '\\' ∧ 0x20 ≤ c.toNat
  · exact .inl (escapedChar_of_plain h)
  · refine .inr ?_
    have hcontrol : ∀ n < 0x20, (Json.escapedChar (Char.ofNat n)).head? = some '\\' ∧
        '$' ∉ Json.escapedChar (Char.ofNat n) := by decide +kernel
    by_cases hquote : c = '"'
    · subst hquote; decide
    by_cases hslash : c = '\\'
    · subst hslash; decide
    have hn : c.toNat < 0x20 := Nat.lt_of_not_le fun hn => h ⟨hquote, hslash, hn⟩
    simpa using hcontrol c.toNat hn

/-- The two characters that open a placeholder. -/
def opening : List Char := ['$', '\x7b']

/-- What stands between the quotes of a text that opens no placeholder opens none, whatever stands
behind the closing quote. -/
theorem becomes_escaped {s : List Char} (h : ¬ opening <:+: s) (rest : List Char) :
    replace text? (s.flatMap Json.escapedChar ++ '"' :: rest) =
      s.flatMap Json.escapedChar ++ replace text? ('"' :: rest) := by
  induction s with
  | nil => rfl
  | cons c s ih =>
    have hs : ¬ opening <:+: s := fun hs => h (hs.trans (List.suffix_cons c s).isInfix)
    rw [List.flatMap_cons, List.append_assoc, List.append_assoc]
    by_cases hc : c = '$'
    · subst hc
      have hnext : (s.flatMap Json.escapedChar ++ '"' :: rest).head? ≠ some '\x7b' := by
        cases s with
        | nil => simp
        | cons d s =>
          have hd : d ≠ '\x7b' := by
            rintro rfl
            exact h (List.prefix_append opening s).isInfix
          rcases escapedChar_eq d with hself | ⟨hescape, -⟩
          · simpa [hself] using hd
          · simp [List.flatMap_cons, List.head?_append, hescape]
      rw [show Json.escapedChar '$' = ['$'] by decide, List.singleton_append, List.singleton_append,
        replace_cons (leading?_dollar hnext), ih hs]
    · have hdollar : '$' ∉ Json.escapedChar c := by
        rcases escapedChar_eq c with hself | ⟨-, hescape⟩
        · simpa [hself] using Ne.symm hc
        · exact hescape
      rw [becomes_self hdollar, ih hs]

/-- A text that opens no placeholder stays, its quotes included. -/
theorem becomes_quoted {s : String} (h : ¬ opening <:+: s.toList) :
    Becomes text? (Json.quoted false s) (Json.quoted false s) := by
  intro rest
  have hbody : replace text? (s.toList.flatMap Json.escapedChar ++ '"' :: rest) = _ :=
    becomes_escaped h rest
  rw [replace_cons (leading?_of_ne (by decide) rest)] at hbody
  simp only [Json.quoted, Bool.false_eq_true, if_false, List.cons_append, List.append_assoc,
    List.nil_append]
  rw [replace_cons (leading?_of_ne (by decide) _), hbody]

theorem ne_of_isAlphanum {c : Char} (h : c.isAlphanum = true) :
    (c ≠ '"' ∧ c ≠ '\\' ∧ 0x20 ≤ c.toNat) ∧ c ≠ '\x7d' := by
  have hcontrol : ∀ n < 0x20, (Char.ofNat n).isAlphanum = false := by decide
  refine ⟨⟨?_, ?_, Nat.le_of_not_lt fun hn => ?_⟩, ?_⟩
  · rintro rfl; cases h
  · rintro rfl; cases h
  · have hnot := hcontrol c.toNat hn
    rw [Char.ofNat_toNat, h] at hnot
    cases hnot
  · rintro rfl; cases h

theorem needsNoEscape_placeholder {name : String} (h : ∀ c ∈ name.toList, c.isAlphanum = true) :
    NeedsNoEscape (Intrinsic.placeholder name) := by
  intro c hc
  simp only [Intrinsic.placeholder, String.toList_append, List.mem_append] at hc
  rcases hc with (hc | hc) | hc
  · obtain rfl | rfl : c = '$' ∨ c = '\x7b' := by simpa using hc
    · decide
    · decide
  · exact (ne_of_isAlphanum (h c hc)).1
  · obtain rfl : c = '\x7d' := by simpa using hc
    decide

/-- The placeholder of a name is found at the front of a text, up to its closing brace. -/
theorem leading?_placeholder {name text : String} (hname : ∀ c ∈ name.toList, c.isAlphanum = true)
    (htext : text? name = some text) (rest : List Char) :
    leading? text? ((Intrinsic.placeholder name).toList ++ rest) = some (text, rest) := by
  have hbraces : ∀ c ∈ name.toList, (c != '\x7d') = true := fun c hc =>
    bne_iff_ne.mpr (ne_of_isAlphanum (hname c hc)).2
  have hlist : (Intrinsic.placeholder name).toList ++ rest =
      '$' :: '\x7b' :: (name.toList ++ '\x7d' :: rest) := by
    simp [Intrinsic.placeholder]
  rw [hlist, leading?, List.dropWhile_append_of_pos hbraces, List.takeWhile_append_of_pos hbraces]
  simp [htext]

/-- The placeholder of a name, in quotes, gives way to the text for the name in quotes. -/
theorem becomes_placeholder {name text : String} (hname : ∀ c ∈ name.toList, c.isAlphanum = true)
    (htext : text? name = some text) (hbare : NeedsNoEscape text) :
    Becomes text? (Json.quoted false (Intrinsic.placeholder name)) (Json.quoted false text) := by
  intro rest
  have hlead := leading?_placeholder hname htext ('"' :: rest)
  rw [quoted_of_needsNoEscape (needsNoEscape_placeholder hname), quoted_of_needsNoEscape hbare]
  simp only [List.cons_append, List.append_assoc, List.nil_append]
  rw [replace_cons (leading?_of_ne (by decide) _), replace_of_leading? hlead,
    replace_cons (leading?_of_ne (by decide) rest)]

/-! ## Trees -/

open Intrinsic

variable {style : Json.Style} {value : String → String}

/-- The name is one that a text without escapes can be put in for. -/
structure Stands (text? : String → Option String) (value : String → String) (name : String) :
    Prop where
  isAlphanum : ∀ c ∈ name.toList, c.isAlphanum = true
  found : text? name = some (value name)
  needsNoEscape : NeedsNoEscape (value name)

/-- The values that are put in for names. -/
def texts (value : String → String) (names : List String) : List Value :=
  names.map fun name => .str (value name)

theorem dollar_notMem_lineBreak (style : Json.Style) (depth : Nat) :
    '$' ∉ Json.lineBreak style depth := by
  unfold Json.lineBreak
  split
  · exact List.not_mem_nil
  · simp [List.mem_replicate]

theorem dollar_notMem_separator (style : Json.Style) (depth : Nat) :
    '$' ∉ Json.separator style depth := by
  unfold Json.separator
  split
  · split <;> decide
  · exact fun h => dollar_notMem_lineBreak style depth (by simpa using h)

theorem dollar_notMem_colon (style : Json.Style) : '$' ∉ Json.colon style := by
  unfold Json.colon
  split <;> decide

theorem dollar_notMem_integer (i : Int) : '$' ∉ Json.integer i := by
  intro h
  have hdigits : '$' ∈ Nat.toDigits 10 i.natAbs := by
    unfold Json.integer at h
    split at h
    · exact List.mem_of_ne_of_mem (by decide) h
    · exact h
  cases Nat.isDigit_of_mem_toDigits (by omega) (by omega) hdigits

theorem becomes_bracket {c : Char} (hc : c ≠ '$') (depth : Nat) :
    Becomes text? (c :: Json.lineBreak style depth) (c :: Json.lineBreak style depth) := by
  refine becomes_self fun h => ?_
  rcases List.mem_cons.mp h with h | h
  · exact hc h.symm
  · exact dollar_notMem_lineBreak style depth h

theorem becomes_atom (hstyle : style.asciiOnly = false) {a : Atom}
    (hplain : (Value.atom a).isPlain = true) (hfree : ∀ t, a = .str t → ¬ opening <:+: t.toList) :
    Becomes text? (Json.renderAtom style a) (Json.renderAtom style a) := by
  cases a with
  | null => exact becomes_self (s := "null".toList) (by decide)
  | bool b =>
    cases b
    · exact becomes_self (s := "false".toList) (by decide)
    · exact becomes_self (s := "true".toList) (by decide)
  | int i => exact becomes_self (dollar_notMem_integer i)
  | str s =>
    rw [Json.renderAtom, hstyle]
    exact becomes_quoted (hfree s rfl)
  | float x => simp [Value.isPlain] at hplain
  | bytes data => simp [Value.isPlain] at hplain
  | time t => simp [Value.isPlain] at hplain

/-- The text of a value gives way to the text of another one, however deep it stands. -/
def Turns (text? : String → Option String) (style : Json.Style) (v v' : Value) : Prop :=
  ∀ depth, Becomes text? (Json.render style depth v) (Json.render style depth v')

/-- The text of an entry keeps its key while the text of its value gives way to another one. -/
structure EntryTurns (text? : String → Option String) (style : Json.Style)
    (entry entry' : Atom × Value) : Prop where
  keeps : Becomes text? (Json.renderKey style entry.1) (Json.renderKey style entry'.1)
  turns : Turns text? style entry.2 entry'.2

theorem becomes_items {items items' : List Value}
    (h : List.Forall₂ (Turns text? style) items items') (depth : Nat) :
    Becomes text? (Json.renderItems style depth items) (Json.renderItems style depth items') := by
  induction h with
  | nil => exact becomes_nil
  | cons hv _ ih =>
    rw [Json.renderItems, Json.renderItems]
    exact ((becomes_self (dollar_notMem_separator style depth)).append (hv depth)).append ih

theorem turns_list {items items' : List Value}
    (h : List.Forall₂ (Turns text? style) items items') :
    Turns text? style (.list items) (.list items') := by
  intro depth
  cases h with
  | nil => exact becomes_self (s := ['[', ']']) (by decide)
  | cons hv hrest =>
    have hopen : Becomes text? ('[' :: Json.lineBreak style (depth + 1)) _ :=
      becomes_bracket (by decide) (depth + 1)
    have hbreak : Becomes text? _ _ := becomes_self (dollar_notMem_lineBreak style depth)
    have hclose : Becomes text? [']'] [']'] := becomes_self (by decide)
    rw [Json.render, Json.render]
    exact (((hopen.append (hv _)).append (becomes_items hrest _)).append hbreak).append hclose

theorem becomes_entries {entries entries' : Entries}
    (h : List.Forall₂ (EntryTurns text? style) entries entries') (depth : Nat) :
    Becomes text? (Json.renderEntries style depth entries)
      (Json.renderEntries style depth entries') := by
  induction h with
  | nil => exact becomes_nil
  | cons he _ ih =>
    have hseparator : Becomes text? _ _ := becomes_self (dollar_notMem_separator style depth)
    have hcolon : Becomes text? _ _ := becomes_self (dollar_notMem_colon style)
    rw [Json.renderEntries, Json.renderEntries]
    exact (((hseparator.append he.keeps).append hcolon).append (he.turns depth)).append ih

theorem turns_map {entries entries' : Entries}
    (h : List.Forall₂ (EntryTurns text? style) entries entries') :
    Turns text? style (.map entries) (.map entries') := by
  intro depth
  cases h with
  | nil => exact becomes_self (s := ['\x7b', '\x7d']) (by decide)
  | cons he hrest =>
    have hopen : Becomes text? ('\x7b' :: Json.lineBreak style (depth + 1)) _ :=
      becomes_bracket (by decide) (depth + 1)
    have hcolon : Becomes text? _ _ := becomes_self (dollar_notMem_colon style)
    have hbreak : Becomes text? _ _ := becomes_self (dollar_notMem_lineBreak style depth)
    have hclose : Becomes text? ['\x7d'] ['\x7d'] := becomes_self (by decide)
    rw [Json.render, Json.render]
    exact (((((hopen.append he.keeps).append hcolon).append (he.turns _)).append
      (becomes_entries hrest _)).append hbreak).append hclose

mutual

/-- Substitution in the text of a tree puts the texts for the names into the tree. -/
theorem turns_fill (hstyle : style.asciiOnly = false) : (v : Value) → (names : List String) →
    v.isPlain = true → names.length = (outermost v).length →
    (∀ name ∈ names, Stands text? value name) →
    (∀ t, t ∈ outerTexts v ∨ .str t ∈ outerKeys v → ¬ opening <:+: t.toList) →
    Turns text? style (fill v (placeholders names)) (fill v (texts value names))
  | .atom a, _, hplain, _, _, hfree => by
    intro depth
    change Becomes text? (Json.renderAtom style a) (Json.renderAtom style a)
    refine becomes_atom hstyle hplain fun t ht => ?_
    subst ht
    exact hfree t (.inl (by simp [outerTexts]))
  | .tuple _, _, hplain, _, _, _ | .set _, _, hplain, _, _, _
  | .anchored .., _, hplain, _, _, _ | .again _, _, hplain, _, _, _ => by
    simp [Value.isPlain] at hplain
  | .list items, names, hplain, hlength, hnames, hfree => by
    rw [fill, fill]
    exact turns_list (turns_fillItems hstyle items names hplain hlength hnames hfree)
  | .map entries, names, hplain, hlength, hnames, hfree => by
    rw [Value.isPlain, Bool.and_eq_true] at hplain
    rw [outermost] at hlength
    rw [outerTexts, outerKeys] at hfree
    rw [fill, fill]
    by_cases h : isIntrinsic (.map entries) = true
    · rw [if_pos h] at hlength
      obtain ⟨name, rfl⟩ := List.length_eq_one_iff.mp hlength
      obtain ⟨hname, hfound, hbare⟩ := hnames name List.mem_cons_self
      rw [if_pos h, if_pos h]
      intro depth
      change Becomes text? (Json.quoted style.asciiOnly (placeholder name))
        (Json.quoted style.asciiOnly (value name))
      rw [hstyle]
      exact becomes_placeholder hname hfound hbare
    · rw [if_neg h] at hlength hfree
      rw [if_neg h] at hfree
      rw [if_neg h, if_neg h]
      exact turns_map (turns_fillEntries hstyle entries names
        (Entries.areDistinct_iff.mp hplain.1).1 hplain.2 hlength hnames hfree)

theorem turns_fillItems (hstyle : style.asciiOnly = false) : (items : List Value) →
    (names : List String) → Value.plainItems items = true →
    names.length = (outermostItems items).length → (∀ name ∈ names, Stands text? value name) →
    (∀ t, t ∈ outerTextsOfItems items ∨ .str t ∈ outerKeysOfItems items →
      ¬ opening <:+: t.toList) →
    List.Forall₂ (Turns text? style) (fillItems items (placeholders names))
      (fillItems items (texts value names))
  | [], _, _, _, _, _ => .nil
  | v :: rest, names, hplain, hlength, hnames, hfree => by
    rw [Value.plainItems, Bool.and_eq_true] at hplain
    rw [outermostItems, List.length_append] at hlength
    simp only [outerTextsOfItems, outerKeysOfItems, List.mem_append] at hfree
    have hv := turns_fill hstyle v (names.take (outermost v).length) hplain.1 (by simp; omega)
      (fun name hname => hnames name (List.mem_of_mem_take hname))
      fun t ht => hfree t (ht.imp .inl .inl)
    have hrest := turns_fillItems hstyle rest (names.drop (outermost v).length) hplain.2
      (by simp; omega) (fun name hname => hnames name (List.mem_of_mem_drop hname))
      fun t ht => hfree t (ht.imp .inr .inr)
    rw [placeholders, texts, List.map_take, List.map_take] at hv
    rw [placeholders, texts, List.map_drop, List.map_drop] at hrest
    exact .cons hv hrest

theorem turns_fillEntries (hstyle : style.asciiOnly = false) : (entries : Entries) →
    (names : List String) → (∀ k ∈ Entries.keys entries, ∃ s, k = .str s) →
    Value.plainEntries entries = true → names.length = (outermostEntries entries).length →
    (∀ name ∈ names, Stands text? value name) →
    (∀ t, t ∈ outerTextsOfEntries entries ∨ .str t ∈ outerKeysOfEntries entries →
      ¬ opening <:+: t.toList) →
    List.Forall₂ (EntryTurns text? style) (fillEntries entries (placeholders names))
      (fillEntries entries (texts value names))
  | [], _, _, _, _, _, _ => .nil
  | (k, v) :: rest, names, hkeys, hplain, hlength, hnames, hfree => by
    rw [Value.plainEntries, Bool.and_eq_true] at hplain
    rw [outermostEntries, List.length_append] at hlength
    simp only [outerTextsOfEntries, outerKeysOfEntries, List.cons_append, List.mem_cons,
      List.mem_append] at hfree
    obtain ⟨s, rfl⟩ := hkeys k List.mem_cons_self
    have hkey : Becomes text? (Json.renderKey style (.str s)) (Json.renderKey style (.str s)) := by
      rw [Json.renderKey, hstyle]
      exact becomes_quoted (hfree s (.inr (.inl rfl)))
    have hv := turns_fill hstyle v (names.take (outermost v).length) hplain.1 (by simp; omega)
      (fun name hname => hnames name (List.mem_of_mem_take hname))
      fun t ht => hfree t (ht.imp .inl fun hk => .inr (.inl hk))
    have hrest := turns_fillEntries hstyle rest (names.drop (outermost v).length)
      (fun k hk => hkeys k (List.mem_cons_of_mem _ hk)) hplain.2
      (by simp; omega) (fun name hname => hnames name (List.mem_of_mem_drop hname))
      fun t ht => hfree t (ht.imp .inr fun hk => .inr (.inr hk))
    rw [placeholders, texts, List.map_take, List.map_take] at hv
    rw [placeholders, texts, List.map_drop, List.map_drop] at hrest
    exact .cons ⟨hkey, hv⟩ hrest

end

end Substitution

namespace DefinitionString

open Intrinsic Substitution

variable {σ ε : Type}

/-- The text that a definition string stands for once every parameter has a text. -/
def deployed (value : String → String) : DefinitionString → String
  | .plain text => text
  | .substitution text parameters =>
    String.ofList (replace
      (fun name => if parameters.contains name then some (value name) else none) text.toList)

theorem replace_textWith {text? : String → Option String} {value : String → String}
    {style : Json.Style} (hstyle : style.asciiOnly = false) {tree : Value}
    (hplain : tree.isPlain = true) {names : List String}
    (hlength : names.length = (outermost tree).length)
    (hnames : ∀ name ∈ names, Stands text? value name)
    (hfree : ∀ t, t ∈ outerTexts tree ∨ .str t ∈ outerKeys tree → ¬ opening <:+: t.toList) :
    replace text? (textWith style tree names).toList =
      Json.render style 0 (fill tree (texts value names)) := by
  have hturns := turns_fill hstyle tree names hplain hlength hnames hfree 0 []
  rw [List.append_nil, replace, List.append_nil] at hturns
  rw [textWith, String.toList_ofList, hturns]

/-- The text of a definition is read back after substitution as the definition in which each
outermost intrinsic has given way to the text for its own parameter. -/
theorem parse_deployed (indent : Option Int) (next : Generator σ ε) (s : σ)
    (resolve : Value → Value) {entries : Entries} (hplain : (Value.map entries).isPlain = true)
    (hfree : ∀ t, t ∈ outerTexts (.map entries) ∨ .str t ∈ outerKeys (.map entries) →
      ¬ opening <:+: t.toList)
    (hfresh : next.IsFresh s)
    (hnames : ∀ names s', next.Issues s names s' →
      ∀ name ∈ names, ∀ c ∈ name.toList, c.isAlphanum = true)
    {text : String} {parameters : Entries} {s' : σ}
    (hbuild : (build (.indented indent) next resolve (.map entries)).run s =
      (.ok (.substitution text parameters), s'))
    (value : String → String)
    (hvalue : ∀ name, parameters.contains name = true → NeedsNoEscape (value name)) :
    ∃ names, next.Issues s names s' ∧ names.length = (outermost (.map entries)).length ∧
      parameters = parametersWith resolve (.map entries) names ∧
      Json.parse (deployed value (.substitution text parameters)) =
        .ok (fill (.map entries) (texts value names)) := by
  rw [run_build _ next resolve hplain] at hbuild
  rcases hdraws : (draws next (outermost (.map entries)).length).run s with ⟨e | names, s₁⟩
  · rw [hdraws] at hbuild
    cases hbuild
  · have hissues := issues_of_draws hdraws
    have hlength := length_of_draws hdraws
    rw [hdraws] at hbuild
    obtain ⟨hdrawn, rfl⟩ := Prod.mk.inj hbuild
    have hne : names ≠ [] := by
      rintro rfl
      cases hdrawn
    rw [drawn, if_neg hne, ofPairs_parametersWith resolve _ (hfresh names s₁ hissues) hlength]
      at hdrawn
    obtain ⟨rfl, rfl⟩ := DefinitionString.substitution.inj (Except.ok.inj hdrawn)
    refine ⟨names, hissues, hlength, rfl, ?_⟩
    have hstands : ∀ name ∈ names, Stands (fun name =>
        if (parametersWith resolve (.map entries) names).contains name then some (value name)
        else none) value name := by
      intro name hname
      have hcontains := (contains_parametersWith resolve hlength name).mpr hname
      exact ⟨hnames names s₁ hissues name hname, if_pos hcontains, hvalue name hcontains⟩
    rw [deployed, replace_textWith rfl hplain hlength hstands hfree]
    refine Json.parse_render rfl (isPlain_fill _ _ hplain fun w hw => ?_)
    obtain ⟨name, -, rfl⟩ := List.mem_map.mp hw
    rfl

/-- The text for a reference may look like a placeholder itself. -/
theorem parse_deployed_reference :
    ∃ text parameters s',
      (build (.indented none) Counter.next id
          (.map [(.str "A", .single "Ref" (.str "X")), (.str "B", .str "$C")])).run
          (.create 10 Counter.defaultHead) = (.ok (.substitution text parameters), s') ∧
      Json.parse (deployed (fun _ => "$\x7bA\x7d") (.substitution text parameters)) =
        .ok (.map [(.str "A", .str "$\x7bA\x7d"), (.str "B", .str "$C")]) := by
  have hplain : (Value.map [(.str "A", .single "Ref" (.str "X")), (.str "B", .str "$C")]).isPlain =
      true := by decide
  have hfree (t : String) (ht : t ∈ ["$C"] ∨ Atom.str t ∈ [.str "A", .str "B"]) :
      ¬ opening <:+: t.toList := by
    simp only [List.mem_cons, List.not_mem_nil, or_false, Atom.str.injEq] at ht
    rcases ht with rfl | rfl | rfl <;> simp [opening, List.infix_cons_iff]
  have hhead : ∀ x ∈ (Counter.create 10 Counter.defaultHead).head.toList, x.isAlphanum = true :=
    List.all_eq_true.mp (by decide +kernel)
  have hbuild := run_build (.indented none) Counter.next id hplain
    (.create 10 Counter.defaultHead)
  rw [Counter.run_draws_next, if_pos (by decide +kernel)] at hbuild
  refine ⟨_, _, _, hbuild, ?_⟩
  obtain ⟨names, -, hlength, -, hparse⟩ := parse_deployed none Counter.next _ id hplain hfree
    (Counter.isFresh_next _) (fun _ _ => Counter.isAlphanum_of_issues hhead) hbuild
    (fun _ => "$\x7bA\x7d") fun _ _ => by simp [NeedsNoEscape]
  obtain ⟨name, rfl⟩ := List.length_eq_one_iff.mp hlength
  exact hparse

end DefinitionString

end FlowTemplate
