import FlowTemplate.Proofs.Definition.Substitution
import FlowTemplate.Proofs.Document.Position
import Mathlib.Data.List.TakeWhile
/-!
# Placeholders that a text shows

A placeholder in a text is found by looking at its characters, so whatever an author writes in the
same form is found too. The placeholders of a definition's text are those of its parameters, each in
one place, as long as no text and no key of the definition opens one. Nothing in the compilation sees
to that: the last theorem has a definition whose own texts are taken for placeholders, one of them
for that of a parameter.
-/

namespace FlowTemplate

namespace Intrinsic

mutual

/-- The texts and keys of a value that stand outside of the intrinsics that are taken out of it.
Tuples are not looked into. -/
def ownTexts : Value → List String
  | .list items => ownTextsOfItems items
  | .map entries => if isIntrinsic (.map entries) then [] else ownTextsOfEntries entries
  | v => allTexts v

def ownTextsOfItems : List Value → List String
  | [] => []
  | v :: rest => ownTexts v ++ ownTextsOfItems rest

def ownTextsOfEntries : List (Atom × Value) → List String
  | [] => []
  | (k, v) :: rest => k.texts ++ ownTexts v ++ ownTextsOfEntries rest

end

end Intrinsic

namespace Substitution

open Intrinsic

/-- A character of a name. -/
def isNameChar (c : Char) : Bool := c != '\x7b' && c != '\x7d'

/-- A name that a placeholder can have: at least one character, and no brace. -/
def IsName (name : String) : Prop := name.toList ≠ [] ∧ ∀ c ∈ name.toList, isNameChar c = true

/-- The name in the placeholder at the front of a text. -/
def nameAhead? : List Char → Option String
  | '$' :: '\x7b' :: rest =>
    if rest.takeWhile isNameChar ≠ [] ∧ (rest.dropWhile isNameChar).head? = some '\x7d' then
      some (String.ofList (rest.takeWhile isNameChar))
    else none
  | _ => none

/-- The names in the placeholders of a text, one for each place. -/
def mentions : List Char → List String
  | [] => []
  | c :: rest => (nameAhead? (c :: rest)).toList ++ mentions rest

theorem nameAhead?_of_ne {c : Char} (h : c ≠ '$') (rest : List Char) :
    nameAhead? (c :: rest) = none := by
  unfold nameAhead?
  split
  · simp_all
  · rfl

theorem nameAhead?_dollar {rest : List Char} (h : rest.head? ≠ some '\x7b') :
    nameAhead? ('$' :: rest) = none := by
  unfold nameAhead?
  split
  · simp_all
  · rfl

theorem toList_placeholder (name : String) :
    (placeholder name).toList = '$' :: '\x7b' :: (name.toList ++ ['\x7d']) := by
  simp [placeholder]

/-- The placeholder of a name is found at the front of a text, whatever stands behind it. -/
theorem nameAhead?_placeholder {name : String} (h : IsName name) (rest : List Char) :
    nameAhead? ((placeholder name).toList ++ rest) = some name := by
  obtain ⟨hne, hchars⟩ := h
  have htake : (name.toList ++ '\x7d' :: rest).takeWhile isNameChar = name.toList := by
    rw [List.takeWhile_append_of_pos hchars]
    simp [isNameChar]
  have hdrop : (name.toList ++ '\x7d' :: rest).dropWhile isNameChar = '\x7d' :: rest := by
    rw [List.dropWhile_append_of_pos hchars]
    simp [isNameChar]
  have hlist : (placeholder name).toList ++ rest =
      '$' :: '\x7b' :: (name.toList ++ '\x7d' :: rest) := by
    simp [toList_placeholder]
  rw [hlist, nameAhead?, htake, hdrop, if_pos ⟨hne, rfl⟩, String.ofList_toList]

/-- What is found at the front of a text is the placeholder of a name. -/
theorem eq_placeholder_of_nameAhead? {s : List Char} {name : String}
    (h : nameAhead? s = some name) : IsName name ∧ (placeholder name).toList <+: s := by
  unfold nameAhead? at h
  split at h
  · rename_i rest
    split at h
    · rename_i hname
      obtain ⟨hne, hclose⟩ := hname
      obtain rfl := Option.some.inj h
      have hsplit : rest = rest.takeWhile isNameChar ++ rest.dropWhile isNameChar :=
        (List.takeWhile_append_dropWhile).symm
      obtain ⟨after, hafter⟩ : ∃ after, rest.dropWhile isNameChar = '\x7d' :: after :=
        List.head?_eq_some_iff.mp hclose
      refine ⟨⟨by rwa [String.toList_ofList], fun c hc => ?_⟩, after, ?_⟩
      · rw [String.toList_ofList] at hc
        exact (List.mem_takeWhile_imp hc)
      · rw [hafter] at hsplit
        simp only [toList_placeholder, String.toList_ofList, List.cons_append, List.append_assoc,
          List.nil_append, ← hsplit]
    · cases h
  · cases h

/-- The names that are found are those whose placeholder stands somewhere in the text. -/
theorem mem_mentions_iff (name : String) (s : List Char) :
    name ∈ mentions s ↔ IsName name ∧ (placeholder name).toList <:+: s := by
  induction s with
  | nil =>
    rw [mentions, toList_placeholder]
    simp
  | cons c rest ih =>
    rw [mentions, List.mem_append, ih, Option.mem_toList]
    constructor
    · rintro (hhere | ⟨hname, hrest⟩)
      · obtain ⟨hname, hahead⟩ := eq_placeholder_of_nameAhead? hhere
        exact ⟨hname, hahead.isInfix⟩
      · exact ⟨hname, hrest.trans (List.suffix_cons c rest).isInfix⟩
    · rintro ⟨hname, hinfix⟩
      rcases List.infix_cons_iff.mp hinfix with ⟨after, hahead⟩ | hrest
      · left
        rw [← hahead]
        exact nameAhead?_placeholder hname after
      · exact .inr ⟨hname, hrest⟩

/-! ## What pieces of a text show -/

/-- A piece of a text shows the placeholders of some names, whatever stands behind it. -/
def Shows (piece : List Char) (names : List String) : Prop :=
  ∀ rest, mentions (piece ++ rest) = names ++ mentions rest

theorem Shows.append {s t : List Char} {names more : List String} (hs : Shows s names)
    (ht : Shows t more) : Shows (s ++ t) (names ++ more) := by
  intro rest
  rw [List.append_assoc, hs, ht, List.append_assoc]

/-- A piece that opens no placeholder shows none, unless it opens one with what stands behind it. -/
theorem mentions_append_cons {s : List Char} (h : ¬ opening <:+: s) {c : Char} (hc : c ≠ '\x7b')
    (rest : List Char) : mentions (s ++ c :: rest) = mentions (c :: rest) := by
  induction s with
  | nil => rfl
  | cons d s ih =>
    have hs : ¬ opening <:+: s := fun hs => h (hs.trans (List.suffix_cons d s).isInfix)
    have hnone : nameAhead? (d :: (s ++ c :: rest)) = none := by
      by_cases hd : d = '$'
      · subst hd
        refine nameAhead?_dollar ?_
        cases s with
        | nil => simpa using hc
        | cons e s =>
          simp only [List.cons_append, List.head?_cons, ne_eq, Option.some.injEq]
          rintro rfl
          exact h (List.prefix_append opening s).isInfix
      · exact nameAhead?_of_ne hd _
    rw [List.cons_append, mentions, hnone, ih hs]
    rfl

theorem shows_of_notMem {s : List Char} (h : '$' ∉ s) : Shows s [] := by
  intro rest
  induction s with
  | nil => rfl
  | cons c s ih =>
    have hc : c ≠ '$' := Ne.symm (List.ne_of_not_mem_cons h)
    rw [List.cons_append, mentions, nameAhead?_of_ne hc, ih (List.not_mem_of_not_mem_cons h)]
    rfl

theorem opening_of_append {s t : List Char} (hs : '$' ∉ s) (h : opening <:+: s ++ t) :
    opening <:+: t := by
  induction s with
  | nil => exact h
  | cons c s ih =>
    rcases List.infix_cons_iff.mp h with ⟨after, hahead⟩ | hrest
    · obtain ⟨rfl, -⟩ := List.cons.inj hahead
      exact absurd List.mem_cons_self hs
    · exact ih (List.not_mem_of_not_mem_cons hs) hrest

/-- Escapes open no placeholder. -/
theorem opening_of_escaped {s : List Char} (h : opening <:+: s.flatMap Json.escapedChar) :
    opening <:+: s := by
  induction s with
  | nil => exact h
  | cons c s ih =>
    rw [List.flatMap_cons] at h
    rcases escapedChar_eq c with hself | ⟨-, hescape⟩
    · rw [hself, List.singleton_append] at h
      rcases List.infix_cons_iff.mp h with ⟨after, hahead⟩ | hrest
      · obtain ⟨rfl, hnext⟩ := List.cons.inj hahead
        cases s with
        | nil => cases hnext
        | cons d s =>
          have hhead : (Json.escapedChar d ++ s.flatMap Json.escapedChar).head? = some '\x7b' := by
            rw [← List.flatMap_cons, ← hnext]
            rfl
          rcases escapedChar_eq d with hself | ⟨hslash, -⟩
          · obtain rfl : d = '\x7b' := by simpa [hself] using hhead
            exact (List.prefix_append opening s).isInfix
          · simp [List.head?_append, hslash] at hhead
      · exact (ih hrest).trans (List.suffix_cons c s).isInfix
    · exact (ih (opening_of_append hescape h)).trans (List.suffix_cons c s).isInfix

/-- A text in quotes that opens no placeholder shows none. -/
theorem shows_quoted {s : String} (h : ¬ opening <:+: s.toList) :
    Shows (Json.quoted false s) [] := by
  intro rest
  have hbody := mentions_append_cons (fun hbody => h (opening_of_escaped hbody))
    (c := '"') (by decide) rest
  have hlist : Json.quoted false s ++ rest =
      '"' :: (s.toList.flatMap Json.escapedChar ++ '"' :: rest) := by
    simp [Json.quoted]
  rw [hlist, mentions, nameAhead?_of_ne (by decide), hbody, mentions, nameAhead?_of_ne (by decide)]
  rfl

/-! ## Pieces of the text of a tree -/

/-- A name of letters and digits, as a counter issues them. -/
structure IsDrawn (name : String) : Prop where
  ne_nil : name.toList ≠ []
  isAlphanum : ∀ c ∈ name.toList, c.isAlphanum = true

/-- A reading of pieces of a text by which names add up: a piece without dollar signs has none, and
the placeholder of a name has this one. -/
structure Adds (Has : List Char → List String → Prop) : Prop where
  bare : ∀ s, '$' ∉ s → Has s []
  append : ∀ s names t more, Has s names → Has t more → Has (s ++ t) (names ++ more)
  placeholder : ∀ name, IsDrawn name → Has (placeholder name).toList [name]

theorem isNameChar_of_isAlphanum {c : Char} (h : c.isAlphanum = true) : isNameChar c = true := by
  rw [isNameChar, Bool.and_eq_true, bne_iff_ne, bne_iff_ne]
  constructor
  · rintro rfl
    cases h
  · rintro rfl
    cases h

theorem IsDrawn.isName {name : String} (h : IsDrawn name) : IsName name :=
  ⟨h.ne_nil, fun c hc => isNameChar_of_isAlphanum (h.isAlphanum c hc)⟩

theorem shows_placeholder {name : String} (h : IsDrawn name) :
    Shows (placeholder name).toList [name] := by
  intro rest
  have hahead := nameAhead?_placeholder h.isName rest
  have hbehind : Shows ('\x7b' :: (name.toList ++ ['\x7d'])) [] := by
    refine shows_of_notMem fun hmem => ?_
    simp only [List.mem_cons, List.mem_append, List.not_mem_nil, or_false] at hmem
    rcases hmem with hbrace | hname | hbrace
    · cases hbrace
    · cases h.isAlphanum '$' hname
    · cases hbrace
  rw [toList_placeholder, List.cons_append] at hahead ⊢
  rw [mentions, hahead, hbehind rest]
  rfl

theorem adds_shows : Adds Shows where
  bare _ := shows_of_notMem
  append _ _ _ _ := Shows.append
  placeholder _ := shows_placeholder

/-- A piece of a text shows the placeholders of some names at least. -/
def ShowsSome (piece : List Char) (names : List String) : Prop :=
  ∀ rest, (names ++ mentions rest).Sublist (mentions (piece ++ rest))

/-- What stands behind a piece is shown whatever the piece holds. -/
theorem showsSome_nil (s : List Char) : ShowsSome s [] := by
  intro rest
  induction s with
  | nil => exact List.Sublist.refl _
  | cons c s ih => exact ih.trans (List.sublist_append_right _ _)

theorem Shows.showsSome {s : List Char} {names : List String} (h : Shows s names) :
    ShowsSome s names := fun rest => by rw [h rest]

theorem adds_showsSome : Adds ShowsSome where
  bare s _ := showsSome_nil s
  append s names t more hs ht rest := by
    have hrest := hs (t ++ rest)
    rw [List.append_assoc, List.append_assoc]
    exact ((ht rest).append_left names).trans hrest
  placeholder _ h := (shows_placeholder h).showsSome

theorem dollar_notMem_digits (n : Nat) : '$' ∉ Nat.toDigits 10 n := fun h =>
  Bool.noConfusion (Nat.isDigit_of_mem_toDigits (by omega) (by omega) h)

section Trees

variable {Has : List Char → List String → Prop} {style : Json.Style}

theorem Adds.nil (hHas : Adds Has) : Has [] [] := hHas.bare [] List.not_mem_nil

/-- Pieces without names can be put around any other piece. -/
theorem Adds.around (hHas : Adds Has) {before piece behind : List Char} {names : List String}
    (hbefore : Has before []) (hpiece : Has piece names) (hbehind : Has behind []) :
    Has (before ++ piece ++ behind) names := by
  have h := hHas.append _ _ _ _ (hHas.append _ _ _ _ hbefore hpiece) hbehind
  rwa [List.nil_append, List.append_nil] at h

theorem Adds.bracket (hHas : Adds Has) {c : Char} (hc : c ≠ '$') (depth : Nat) :
    Has (c :: Json.lineBreak style depth) [] := by
  refine hHas.bare _ fun h => ?_
  rcases List.mem_cons.mp h with h | h
  · exact hc h.symm
  · exact dollar_notMem_lineBreak style depth h

/-- The text of a tree has some names, however deep it stands. -/
def Carries (Has : List Char → List String → Prop) (style : Json.Style) (v : Value)
    (names : List String) : Prop :=
  ∀ depth, Has (Json.render style depth v) names

/-- The text of an entry has its names behind the key. -/
structure EntryCarries (Has : List Char → List String → Prop) (style : Json.Style)
    (entry : Atom × Value) (names : List String) : Prop where
  key : Has (Json.renderKey style entry.1) []
  value : Carries Has style entry.2 names

theorem has_items (hHas : Adds Has) {items : List Value} {names : List (List String)}
    (h : List.Forall₂ (Carries Has style) items names) (depth : Nat) :
    Has (Json.renderItems style depth items) names.flatten := by
  induction h with
  | nil => exact hHas.nil
  | cons hv _ ih =>
    have hseparator := hHas.bare _ (dollar_notMem_separator style depth)
    rw [Json.renderItems, List.flatten_cons]
    exact hHas.append _ _ _ _ (hHas.append _ [] _ _ hseparator (hv depth)) ih

theorem carries_list (hHas : Adds Has) {items : List Value} {names : List (List String)}
    (h : List.Forall₂ (Carries Has style) items names) :
    Carries Has style (.list items) names.flatten := by
  intro depth
  cases h with
  | nil => exact hHas.bare ['[', ']'] (by decide)
  | cons hv hrest =>
    have hopen : Has ('[' :: Json.lineBreak style (depth + 1)) [] :=
      hHas.bracket (by decide) (depth + 1)
    have hbody := hHas.append _ _ _ _ (hv (depth + 1)) (has_items hHas hrest (depth + 1))
    have hbreak := hHas.bare _ (dollar_notMem_lineBreak style depth)
    have hclose := hHas.append _ _ _ _ hbreak (hHas.bare [']'] (by decide))
    have h := hHas.around hopen hbody hclose
    rw [Json.render, List.flatten_cons]
    simpa only [List.append_assoc] using h

theorem has_entries (hHas : Adds Has) {entries : Entries} {names : List (List String)}
    (h : List.Forall₂ (EntryCarries Has style) entries names) (depth : Nat) :
    Has (Json.renderEntries style depth entries) names.flatten := by
  induction h with
  | nil => exact hHas.nil
  | cons he _ ih =>
    have hseparator := hHas.bare _ (dollar_notMem_separator style depth)
    have hcolon := hHas.bare _ (dollar_notMem_colon style)
    have hkey := hHas.around hseparator he.key hcolon
    rw [Json.renderEntries, List.flatten_cons]
    exact hHas.append _ _ _ _ (hHas.append _ [] _ _ hkey (he.value depth)) ih

theorem carries_map (hHas : Adds Has) {entries : Entries} {names : List (List String)}
    (h : List.Forall₂ (EntryCarries Has style) entries names) :
    Carries Has style (.map entries) names.flatten := by
  intro depth
  cases h with
  | nil => exact hHas.bare ['\x7b', '\x7d'] (by decide)
  | cons he hrest =>
    have hopen : Has ('\x7b' :: Json.lineBreak style (depth + 1)) [] :=
      hHas.bracket (by decide) (depth + 1)
    have hcolon := hHas.bare _ (dollar_notMem_colon style)
    have hkey := hHas.around hopen he.key hcolon
    have hbody := hHas.append _ _ _ _ (he.value (depth + 1)) (has_entries hHas hrest (depth + 1))
    have hbreak := hHas.bare _ (dollar_notMem_lineBreak style depth)
    have hclose := hHas.append _ _ _ _ hbreak (hHas.bare ['\x7d'] (by decide))
    have h := hHas.around hkey hbody hclose
    rw [Json.render, List.flatten_cons]
    simpa only [List.append_assoc] using h

theorem has_quotedPlaceholder (hHas : Adds Has) {name : String} (h : IsDrawn name) :
    Has (Json.quoted false (placeholder name)) [name] := by
  have hquote : Has ['"'] [] := hHas.bare _ (by decide)
  rw [quoted_of_needsNoEscape (needsNoEscape_placeholder h.isAlphanum)]
  exact hHas.around hquote (hHas.placeholder name h) hquote

theorem dollar_notMem_positional (n : Nat) (e : Int) :
    '$' ∉ (Binary64.positional n e).toList := by
  have hdigits : '$' ∉ Nat.toDigits 10 n := dollar_notMem_digits n
  have hpadded (k : Nat) : '$' ∉ List.replicate k '0' ++ Nat.toDigits 10 n := by
    simp [List.mem_replicate, hdigits]
  unfold Binary64.positional
  split
  · simp [List.mem_replicate, hdigits]
  · simp only [String.toList_append, String.toList_ofList, List.mem_append, not_or]
    refine ⟨⟨fun h => hpadded _ (List.mem_of_mem_take h), by decide⟩,
      fun h => hpadded _ (List.mem_of_mem_drop h)⟩

theorem dollar_notMem_exponential (n : Nat) (e : Int) :
    '$' ∉ (Binary64.exponential n e).toList := by
  have hpower (k : Nat) : '$' ∉ if (Nat.toDigits 10 k).length < 2 then '0' :: Nat.toDigits 10 k
      else Nat.toDigits 10 k := by
    split
    · exact fun h => dollar_notMem_digits k (List.mem_of_ne_of_mem (by decide) h)
    · exact dollar_notMem_digits k
  have hdigits := dollar_notMem_digits n
  simp only [Binary64.exponential, String.toList_append, String.toList_ofList, List.mem_append,
    not_or]
  refine ⟨⟨?_, ?_⟩, hpower _⟩
  · split
    · decide
    · rename_i hd
      simpa [hd] using hdigits
    · rename_i hd
      rw [hd, List.mem_cons, not_or] at hdigits
      simp [hdigits]
  · split <;> decide

theorem dollar_notMem_float (x : Binary64) : '$' ∉ (x.text Json.floatLayout).toList := by
  have hsign (negative : Bool) : '$' ∉ (if negative then "-" else "").toList := by
    cases negative <;> decide
  unfold Binary64.text
  split
  · decide
  · simp only [String.toList_append, List.mem_append, not_or]
    exact ⟨hsign _, by decide⟩
  · simp only [String.toList_append, List.mem_append, not_or]
    refine ⟨hsign _, ?_⟩
    split
    · decide
    · split
      · exact dollar_notMem_positional _ _
      · exact dollar_notMem_exponential _ _

/-- What stands for an atom that is no text has no dollar sign. -/
theorem dollar_notMem_bareAtom {a : Atom} (h : a.texts = []) : '$' ∉ Json.bareAtom a := by
  cases a with
  | null => exact (by decide : '$' ∉ "null".toList)
  | bool b => cases b <;> decide
  | int i => exact dollar_notMem_integer i
  | float x => exact dollar_notMem_float x
  | str s => cases h
  | bytes data => exact List.not_mem_nil
  | time t => exact List.not_mem_nil

theorem has_atom (hHas : Adds Has) (hstyle : style.asciiOnly = false) {a : Atom}
    (hfree : ∀ t ∈ a.texts, Has (Json.quoted false t) []) : Has (Json.renderAtom style a) [] := by
  by_cases ha : a.texts = []
  · cases a with
    | str s => cases ha
    | _ => exact hHas.bare _ (dollar_notMem_bareAtom ha)
  · cases a with
    | str s =>
      rw [Json.renderAtom, hstyle]
      exact hfree s List.mem_cons_self
    | _ => exact absurd rfl ha

theorem has_key (hHas : Adds Has) (hstyle : style.asciiOnly = false) {k : Atom}
    (hfree : ∀ t ∈ k.texts, Has (Json.quoted false t) []) : Has (Json.renderKey style k) [] := by
  have hquote : Has ['"'] [] := hHas.bare _ (by decide)
  by_cases hk : k.texts = []
  · have hbare := hHas.around hquote (hHas.bare _ (dollar_notMem_bareAtom hk)) hquote
    cases k with
    | str s => cases hk
    | _ => exact hbare
  · cases k with
    | str s =>
      rw [Json.renderKey, hstyle]
      exact hfree s List.mem_cons_self
    | _ => exact absurd rfl hk

mutual

/-- The text of a value has no names if no text and no key in it has any. -/
theorem carries_nil (hHas : Adds Has) (hstyle : style.asciiOnly = false) : (v : Value) →
    (∀ t ∈ allTexts v, Has (Json.quoted false t) []) → Carries Has style v []
  | .atom _, hfree => fun _ => has_atom hHas hstyle hfree
  | .set _, _ | .again _, _ => fun _ => hHas.nil
  | .anchored _ v, hfree => carries_nil hHas hstyle v hfree
  | .list items, hfree => by
    obtain ⟨parts, hitems, hparts⟩ := carries_nilItems hHas hstyle items hfree
    rw [← hparts]
    exact carries_list hHas hitems
  | .tuple items, hfree => by
    obtain ⟨parts, hitems, hparts⟩ := carries_nilItems hHas hstyle items hfree
    have hlist := carries_list hHas hitems
    rw [hparts] at hlist
    intro depth
    cases items with
    | nil => exact hlist depth
    | cons v rest => exact hlist depth
  | .map entries, hfree => by
    obtain ⟨parts, hentries, hparts⟩ := carries_nilEntries hHas hstyle entries hfree
    rw [← hparts]
    exact carries_map hHas hentries

theorem carries_nilItems (hHas : Adds Has) (hstyle : style.asciiOnly = false) :
    (items : List Value) → (∀ t ∈ allTextsOfItems items, Has (Json.quoted false t) []) →
    ∃ parts, List.Forall₂ (Carries Has style) items parts ∧ parts.flatten = []
  | [], _ => ⟨[], .nil, rfl⟩
  | v :: rest, hfree => by
    rw [allTextsOfItems, List.forall_mem_append] at hfree
    have hv := carries_nil hHas hstyle v hfree.1
    obtain ⟨parts, hrest, hparts⟩ := carries_nilItems hHas hstyle rest hfree.2
    exact ⟨[] :: parts, .cons hv hrest, hparts⟩

theorem carries_nilEntries (hHas : Adds Has) (hstyle : style.asciiOnly = false) :
    (entries : Entries) → (∀ t ∈ allTextsOfEntries entries, Has (Json.quoted false t) []) →
    ∃ parts, List.Forall₂ (EntryCarries Has style) entries parts ∧ parts.flatten = []
  | [], _ => ⟨[], .nil, rfl⟩
  | (k, v) :: rest, hfree => by
    rw [allTextsOfEntries, List.forall_mem_append, List.forall_mem_append] at hfree
    have hk := has_key hHas hstyle hfree.1.1
    have hv := carries_nil hHas hstyle v hfree.1.2
    obtain ⟨parts, hrest, hparts⟩ := carries_nilEntries hHas hstyle rest hfree.2
    exact ⟨[] :: parts, .cons ⟨hk, hv⟩ hrest, hparts⟩

end

mutual

/-- The text of a value with placeholders has the names of the placeholders, in their order, if none
of its own texts has any. -/
theorem carries_fill (hHas : Adds Has) (hstyle : style.asciiOnly = false) : (v : Value) →
    (names : List String) → names.length = (outermost v).length →
    (∀ name ∈ names, IsDrawn name) → (∀ t ∈ ownTexts v, Has (Json.quoted false t) []) →
    Carries Has style (fill v (placeholders names)) names
  | .atom _, names, hlength, _, hfree | .tuple _, names, hlength, _, hfree
  | .set _, names, hlength, _, hfree | .anchored .., names, hlength, _, hfree
  | .again _, names, hlength, _, hfree => by
    obtain rfl := List.length_eq_zero_iff.mp hlength
    exact carries_nil hHas hstyle _ hfree
  | .list items, names, hlength, hnames, hfree => by
    obtain ⟨parts, hitems, rfl⟩ :=
      carries_fillItems hHas hstyle items names hlength hnames hfree
    rw [fill]
    exact carries_list hHas hitems
  | .map entries, names, hlength, hnames, hfree => by
    rw [outermost] at hlength
    rw [ownTexts] at hfree
    rw [fill]
    by_cases h : isIntrinsic (.map entries) = true
    · rw [if_pos h] at hlength
      obtain ⟨name, rfl⟩ := List.length_eq_one_iff.mp hlength
      rw [if_pos h]
      intro depth
      change Has (Json.quoted style.asciiOnly (placeholder name)) [name]
      rw [hstyle]
      exact has_quotedPlaceholder hHas (hnames name List.mem_cons_self)
    · rw [if_neg h] at hlength hfree
      obtain ⟨parts, hentries, rfl⟩ :=
        carries_fillEntries hHas hstyle entries names hlength hnames hfree
      rw [if_neg h]
      exact carries_map hHas hentries

theorem carries_fillItems (hHas : Adds Has) (hstyle : style.asciiOnly = false) :
    (items : List Value) → (names : List String) →
    names.length = (outermostItems items).length → (∀ name ∈ names, IsDrawn name) →
    (∀ t ∈ ownTextsOfItems items, Has (Json.quoted false t) []) →
    ∃ parts, List.Forall₂ (Carries Has style) (fillItems items (placeholders names)) parts ∧
      parts.flatten = names
  | [], names, hlength, _, _ => by
    obtain rfl := List.length_eq_zero_iff.mp hlength
    exact ⟨[], .nil, rfl⟩
  | v :: rest, names, hlength, hnames, hfree => by
    rw [outermostItems, List.length_append] at hlength
    rw [ownTextsOfItems, List.forall_mem_append] at hfree
    have hv := carries_fill hHas hstyle v (names.take (outermost v).length) (by simp; omega)
      (fun name hname => hnames name (List.mem_of_mem_take hname)) hfree.1
    obtain ⟨parts, hrest, hparts⟩ := carries_fillItems hHas hstyle rest
      (names.drop (outermost v).length) (by simp; omega)
      (fun name hname => hnames name (List.mem_of_mem_drop hname)) hfree.2
    rw [placeholders, List.map_take] at hv
    rw [placeholders, List.map_drop] at hrest
    refine ⟨_ :: parts, .cons hv hrest, ?_⟩
    rw [List.flatten_cons, hparts, List.take_append_drop]

theorem carries_fillEntries (hHas : Adds Has) (hstyle : style.asciiOnly = false) :
    (entries : Entries) → (names : List String) →
    names.length = (outermostEntries entries).length → (∀ name ∈ names, IsDrawn name) →
    (∀ t ∈ ownTextsOfEntries entries, Has (Json.quoted false t) []) →
    ∃ parts, List.Forall₂ (EntryCarries Has style)
      (fillEntries entries (placeholders names)) parts ∧ parts.flatten = names
  | [], names, hlength, _, _ => by
    obtain rfl := List.length_eq_zero_iff.mp hlength
    exact ⟨[], .nil, rfl⟩
  | (k, v) :: rest, names, hlength, hnames, hfree => by
    rw [outermostEntries, List.length_append] at hlength
    rw [ownTextsOfEntries, List.forall_mem_append, List.forall_mem_append] at hfree
    have hk := has_key hHas hstyle hfree.1.1
    have hv := carries_fill hHas hstyle v (names.take (outermost v).length) (by simp; omega)
      (fun name hname => hnames name (List.mem_of_mem_take hname)) hfree.1.2
    obtain ⟨parts, hrest, hparts⟩ := carries_fillEntries hHas hstyle rest
      (names.drop (outermost v).length) (by simp; omega)
      (fun name hname => hnames name (List.mem_of_mem_drop hname)) hfree.2
    rw [placeholders, List.map_take] at hv
    rw [placeholders, List.map_drop] at hrest
    refine ⟨_ :: parts, .cons ⟨hk, hv⟩ hrest, ?_⟩
    rw [List.flatten_cons, hparts, List.take_append_drop]

end

end Trees

end Substitution

namespace DefinitionString

open FlowTemplate.Computation Intrinsic Substitution

/-- The text and the parameters that a counter's names give for a definition. -/
theorem eq_of_build {style : Json.Style} {resolve : Value → Value} {c c' : Counter}
    (hhead : ∀ x ∈ c.head.toList, x.isAlphanum = true) {entries parameters : Entries}
    {text : String} (hbuild : (build style Counter.next resolve (.map entries)).run c =
      (.ok (.substitution text parameters), c')) :
    ∃ names, names.length = (outermost (.map entries)).length ∧ names.Nodup ∧
      (∀ name ∈ names, IsDrawn name) ∧ text = textWith style (.map entries) names ∧
      parameters = parametersWith resolve (.map entries) names := by
  obtain ⟨names, hissues, hlength, hparameters, htext⟩ := exists_names_of_build c.isFresh_next hbuild
  have htext := htext fun s h => by cases h
  refine ⟨names, hlength, c.isFresh_next names c' hissues, fun name hname => ?_, htext, hparameters⟩
  constructor
  · exact Counter.ne_nil_of_issues hissues name hname
  · exact Counter.isAlphanum_of_issues hhead hissues name hname

/-- Every parameter of a definition string has a placeholder in the text. If no text and no key of
the definition opens a placeholder, the text has no other placeholders, and one for each parameter. -/
theorem mentions_build (indent : Option Int) (resolve : Value → Value) {c c' : Counter}
    (hhead : ∀ x ∈ c.head.toList, x.isAlphanum = true) {entries parameters : Entries}
    {text : String} (hbuild : (build (.indented indent) Counter.next resolve (.map entries)).run c =
      (.ok (.substitution text parameters), c')) :
    (∀ name, parameters.contains name = true → name ∈ mentions text.toList) ∧
    ((∀ t ∈ ownTexts (.map entries), ¬ opening <:+: t.toList) →
      (∀ name, IsName name ∧ (placeholder name).toList <:+: text.toList ↔
        parameters.contains name = true) ∧
      ∀ name, parameters.contains name = true → (mentions text.toList).count name = 1) := by
  obtain ⟨names, hlength, hnodup, hnames, rfl, rfl⟩ := eq_of_build hhead hbuild
  have hcontains := contains_parametersWith resolve hlength
  have hstyle : (Json.Style.indented indent).asciiOnly = false := rfl
  constructor
  · intro name hname
    have hsome := carries_fill adds_showsSome hstyle (.map entries) names hlength hnames
      (fun t _ => showsSome_nil (Json.quoted false t)) 0 []
    rw [mentions, List.append_nil, List.append_nil] at hsome
    rw [textWith, String.toList_ofList]
    exact hsome.subset ((hcontains name).mp hname)
  · intro hfree
    have hall : mentions (textWith (.indented indent) (.map entries) names).toList = names := by
      have hshows := carries_fill adds_shows hstyle (.map entries) names hlength hnames
        (fun t ht => shows_quoted (hfree t ht)) 0 []
      rw [mentions, List.append_nil, List.append_nil] at hshows
      rw [textWith, String.toList_ofList, hshows]
    constructor
    · intro name
      rw [← mem_mentions_iff, hall, hcontains]
    · intro name hname
      rw [hall]
      exact List.count_eq_one_of_mem hnodup ((hcontains name).mp hname)

/-- A text beside a reference may hold a dollar sign, a brace, and more. -/
theorem mentions_build_reference :
    ∃ text parameters c',
      (build (.indented (some 2)) Counter.next id
          (.map [(.str "A", .single "Ref" (.str "X")), (.str "B", .str "$ \x7bY\x7d")])).run
          (.create 10 Counter.defaultHead) = (.ok (.substitution text parameters), c') ∧
      (mentions text.toList).count "smParam001" = 1 ∧
      ¬ (IsName "Y" ∧ (placeholder "Y").toList <:+: text.toList) := by
  have hplain : (Value.map [(.str "A", .single "Ref" (.str "X")),
      (.str "B", .str "$ \x7bY\x7d")]).isPlain = true := by decide
  have hhead : ∀ x ∈ (Counter.create 10 Counter.defaultHead).head.toList, x.isAlphanum = true :=
    List.all_eq_true.mp (by decide +kernel)
  have hfree : ∀ t ∈ ["A", "B", "$ \x7bY\x7d"], ¬ opening <:+: t.toList := by
    intro t ht
    simp only [List.mem_cons, List.not_mem_nil, or_false] at ht
    rcases ht with rfl | rfl | rfl <;> simp [opening, List.infix_cons_iff]
  have hbuild := run_build (.indented (some 2)) Counter.next id hplain
    (.create 10 Counter.defaultHead)
  rw [Counter.run_draws_next, if_pos (by decide +kernel)] at hbuild
  refine ⟨_, _, _, hbuild, ?_⟩
  obtain ⟨-, hexact⟩ := mentions_build (some 2) id hhead hbuild
  obtain ⟨hnames, hcount⟩ := hexact hfree
  constructor
  · exact hcount "smParam001" (by decide +kernel)
  · intro hY
    have hcontains := (hnames "Y").mp hY
    revert hcontains
    decide +kernel

/-- The text of a definition whose own texts look like placeholders. -/
theorem mentions_build_ownTexts :
    ∃ text parameters c',
      (build (.indented (some 2)) Counter.next id
          (.map [(.str "A", .single "Ref" (.str "X")), (.str "B", .str "$\x7bsmParam001\x7d"),
            (.str "C", .str "$\x7bY\x7d")])).run
          (.create 10 Counter.defaultHead) = (.ok (.substitution text parameters), c') ∧
      mentions text.toList = ["smParam001", "smParam001", "Y"] ∧
      parameters.contains "smParam001" = true ∧ parameters.contains "Y" = false := by
  have hplain : (Value.map [(.str "A", .single "Ref" (.str "X")),
      (.str "B", .str "$\x7bsmParam001\x7d"), (.str "C", .str "$\x7bY\x7d")]).isPlain = true := by
    decide
  have hbuild := run_build (.indented (some 2)) Counter.next id hplain
    (.create 10 Counter.defaultHead)
  rw [Counter.run_draws_next, if_pos (by decide +kernel)] at hbuild
  refine ⟨_, _, _, hbuild, ?_, ?_, ?_⟩
  · decide +kernel
  · decide +kernel
  · decide +kernel

end DefinitionString

end FlowTemplate
