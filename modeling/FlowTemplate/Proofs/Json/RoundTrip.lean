import FlowTemplate.Proofs.Document.Plain
import FlowTemplate.Proofs.Document.Position
import FlowTemplate.Proofs.Json.Printed
/-!
# Reading back JSON text

What is printed of a plain value, in any style, writes the value, keys and items in their order. The
texts in it have to be printable in the style, which asks for something in ASCII only.
-/

namespace FlowTemplate.Json

variable {style : Style}

/-! ## Separators -/

theorem blanks_lineBreak (style : Style) (depth : Nat) : Blanks (lineBreak style depth) := by
  intro c hc
  unfold lineBreak at hc
  split at hc
  · cases hc
  · rcases List.mem_cons.mp hc with rfl | hc
    · rfl
    · rw [List.eq_of_mem_replicate hc]; rfl

/-- A separator is a comma and blanks. -/
theorem separator_eq (style : Style) (depth : Nat) :
    ∃ blanks, separator style depth = ',' :: blanks ∧ Blanks blanks := by
  unfold separator
  split
  · split
    · exact ⟨[], rfl, blanks_nil⟩
    · exact ⟨[' '], rfl, by simp [Blanks, isBlank]⟩
  · exact ⟨lineBreak style depth, rfl, blanks_lineBreak style depth⟩

/-- What stands between a key and its value is a colon and blanks. -/
theorem colon_eq (style : Style) : ∃ blanks, colon style = ':' :: blanks ∧ Blanks blanks := by
  unfold colon
  split
  · exact ⟨[], rfl, blanks_nil⟩
  · exact ⟨[' '], rfl, by simp [Blanks, isBlank]⟩

/-! ## Values with printable texts -/

/-- The key of the entry is a text that can be printed. -/
def HasPrintableKey (style : Style) (entry : Atom × Value) : Prop :=
  ∃ s, entry.1 = .str s ∧ IsPrintable style s

/-- What holds of scalars and of printable texts, and of a list or a mapping with printable keys if
it holds of the parts, holds of every plain value whose texts are printable. -/
theorem printable_induction {P : Value → Prop} (null : P .null) (bool : ∀ b, P (.bool b))
    (int : ∀ i, P (.int i)) (text : ∀ s, IsPrintable style s → P (.str s))
    (list : ∀ items : List Value, (∀ v ∈ items, P v) → P (.list items))
    (map : ∀ entries : Entries, entries.areDistinct = true →
      (∀ entry ∈ entries, HasPrintableKey style entry ∧ P entry.2) → P (.map entries))
    {v : Value} (h : v.isPlain = true)
    (hprintable : ∀ s ∈ Intrinsic.allTexts v, IsPrintable style s) : P v := by
  induction v, h using Value.plain_induction with
  | null => exact null
  | bool b => exact bool b
  | int i => exact int i
  | str s => exact text s (hprintable s List.mem_cons_self)
  | list items h ih =>
    exact list items fun v hv => ih v hv fun s hs =>
      hprintable s (Intrinsic.mem_allTexts_list.mpr ⟨v, hv, hs⟩)
  | map entries h ih =>
    obtain ⟨hdistinct, -⟩ := (Value.isPlain_map entries).mp h
    refine map entries hdistinct fun entry he => ?_
    have hentry {s : String} (hs : s ∈ entry.1.texts ∨ s ∈ Intrinsic.allTexts entry.2) :
        IsPrintable style s := hprintable s (Intrinsic.mem_allTexts_map.mpr ⟨entry, he, hs⟩)
    obtain ⟨s, hs⟩ := (Entries.areDistinct_iff.mp hdistinct).1 entry.1 (List.mem_map_of_mem he)
    refine ⟨⟨s, hs, hentry (.inl ?_)⟩, ih entry he fun s hs => hentry (.inr hs)⟩
    rw [hs]
    exact List.mem_cons_self

/-! ## Values -/

/-- The printed text of the first value writes the second one, at any depth. -/
def IsWritten (style : Style) (v w : Value) : Prop :=
  ∀ depth, Writes (render style depth v) (.value w)

theorem isWritten_scalar {s : List Char} {a b : Atom} (h : Scalar s b)
    (hrender : ∀ depth, render style depth (.atom a) = s) : IsWritten style (.atom a) (.atom b) :=
  fun depth => hrender depth ▸ .scalar h

theorem isWritten_word (word : String) {a : Atom} (h : (word, a) ∈ words)
    (hrender : ∀ depth, render style depth (.atom a) = word.toList := by exact fun _ => rfl) :
    IsWritten style (.atom a) (.atom a) :=
  isWritten_scalar (.word h) hrender

theorem isWritten_text {s : String} (h : IsPrintable style s) :
    IsWritten style (.str s) (.str s) := by
  intro depth
  obtain ⟨raw, hquoted, hbody⟩ := exists_body_of_isPrintable h
  rw [render, renderAtom, hquoted]
  have htext := Writes.text hbody
  rwa [String.ofList_toList] at htext

/-- Items are written up to the bracket that closes their list. -/
theorem writes_items (depth : Nat) {v w : Value} {items written : List Value} {close : List Char}
    (h : List.Forall₂ (IsWritten style) (v :: items) (w :: written)) (hclose : Blanks close) :
    Writes (render style depth v ++ (renderItems style depth items ++ (close ++ [']'])))
      (.items (w :: written)) := by
  induction items generalizing v w written with
  | nil =>
    obtain ⟨hv, hitems⟩ := List.forall₂_cons.mp h
    cases hitems
    exact .lastItem (hv depth) hclose
  | cons next items ih =>
    obtain ⟨hv, hitems⟩ := List.forall₂_cons.mp h
    obtain ⟨x, written, hnext, hmore, rfl⟩ := List.forall₂_cons_left_iff.mp hitems
    obtain ⟨blanks, hsep, hblanks⟩ := separator_eq style depth
    have hitem := Writes.item (hv depth) blanks_nil hblanks (ih (.cons hnext hmore))
    simpa [renderItems, hsep] using hitem

/-- The text of an entry. -/
def renderMember (style : Style) (depth : Nat) (entry : Atom × Value) : List Char :=
  renderKey style entry.1 ++ (colon style ++ render style depth entry.2)

/-- The printed text of the first entry writes the second one. -/
structure IsEntryWritten (style : Style) (entry written : Atom × Value) : Prop where
  key : ∃ s raw, written.1 = .str s ∧ renderKey style entry.1 = '"' :: raw ∧ Body raw s.toList
  value : IsWritten style entry.2 written.2

theorem isEntryWritten_of_printable {entry : Atom × Value} (hkey : HasPrintableKey style entry)
    (hv : IsWritten style entry.2 entry.2) : IsEntryWritten style entry entry := by
  obtain ⟨k, v⟩ := entry
  obtain ⟨s, rfl, hs⟩ := hkey
  obtain ⟨raw, hquoted, hbody⟩ := exists_body_of_isPrintable hs
  exact ⟨⟨s, raw, rfl, hquoted, hbody⟩, hv⟩

theorem writes_member {entry written : Atom × Value} (h : IsEntryWritten style entry written)
    (depth : Nat) : Writes (renderMember style depth entry) (.member written) := by
  obtain ⟨k, v⟩ := written
  obtain ⟨⟨s, raw, rfl, hquoted, hbody⟩, hv⟩ := h
  obtain ⟨blanks, hcolon, hblanks⟩ := colon_eq style
  have hmember := Writes.member hbody blanks_nil hblanks (hv depth)
  rw [String.ofList_toList] at hmember
  simpa [renderMember, hquoted, hcolon] using hmember

/-- Members are written up to the brace that closes their mapping. -/
theorem writes_members (depth : Nat) {entry first : Atom × Value} {entries written : Entries}
    {close : List Char}
    (h : List.Forall₂ (IsEntryWritten style) (entry :: entries) (first :: written))
    (hclose : Blanks close) : Writes (renderMember style depth entry ++
      (renderEntries style depth entries ++ (close ++ ['\x7d']))) (.members (first :: written)) := by
  induction entries generalizing entry first written with
  | nil =>
    obtain ⟨hentry, hentries⟩ := List.forall₂_cons.mp h
    cases hentries
    exact .lastMember (writes_member hentry depth) hclose
  | cons next entries ih =>
    obtain ⟨hentry, hentries⟩ := List.forall₂_cons.mp h
    obtain ⟨second, written, hnext, hmore, rfl⟩ := List.forall₂_cons_left_iff.mp hentries
    obtain ⟨blanks, hsep, hblanks⟩ := separator_eq style depth
    have hmembers :=
      Writes.moreMembers (writes_member hentry depth) blanks_nil hblanks (ih (.cons hnext hmore))
    simpa [renderEntries, renderMember, hsep] using hmembers

theorem isWritten_list {items written : List Value}
    (h : List.Forall₂ (IsWritten style) items written) :
    IsWritten style (.list items) (.list written) := by
  intro depth
  cases h with
  | nil => exact .noItems blanks_nil
  | cons hv hitems =>
    have hlist := Writes.list (blanks_lineBreak style (depth + 1))
      (writes_items (depth + 1) (.cons hv hitems) (blanks_lineBreak style depth))
    simpa [render] using hlist

/-- A tuple is printed like the list of its items. -/
theorem isWritten_tuple {items : List Value} {w : Value} (h : IsWritten style (.list items) w) :
    IsWritten style (.tuple items) w := by
  intro depth
  have hlist := h depth
  cases items with
  | nil => exact hlist
  | cons v items => simpa only [render] using hlist

theorem isWritten_map {entries written : Entries}
    (h : List.Forall₂ (IsEntryWritten style) entries written) :
    IsWritten style (.map entries) (.map (Entries.ofPairs written)) := by
  intro depth
  cases h with
  | nil => exact .noMembers blanks_nil
  | cons hentry hentries =>
    have hmap := Writes.map (blanks_lineBreak style (depth + 1))
      (writes_members (depth + 1) (.cons hentry hentries) (blanks_lineBreak style depth))
    simpa [render, renderMember] using hmap

theorem isWritten_plain {v : Value} (h : v.isPlain = true)
    (hprintable : ∀ s ∈ Intrinsic.allTexts v, IsPrintable style s) : IsWritten style v v := by
  refine printable_induction (P := fun v => IsWritten style v v)
    (isWritten_word "null" (by simp [words])) (fun b => ?_)
    (fun i => isWritten_scalar (scalar_integer i) fun _ => rfl) (fun _ => isWritten_text)
    (fun items ih => isWritten_list (List.forall₂_same.mpr ih))
    (fun entries hdistinct ih => ?_) h hprintable
  · cases b with
    | false => exact isWritten_word "false" (by simp [words])
    | true => exact isWritten_word "true" (by simp [words])
  · have hmap := isWritten_map (List.forall₂_same.mpr fun entry hentry =>
      isEntryWritten_of_printable (ih entry hentry).1 (ih entry hentry).2)
    rwa [Entries.ofPairs_of_areDistinct hdistinct] at hmap

/-! ## Whole texts -/

/-- The text of a plain value is read back as the value, if its texts are printable. -/
theorem parse_render_of_isPrintable {v : Value} (h : v.isPlain = true)
    (hprintable : ∀ s ∈ Intrinsic.allTexts v, IsPrintable style s) :
    parse (String.ofList (render style 0 v)) = .ok v := by
  refine (parse_eq_ok_iff _ v).mpr ⟨[], render style 0 v, [], ?_, blanks_nil, blanks_nil, ?_⟩
  · rw [String.toList_ofList, List.append_nil, List.nil_append]
  · exact isWritten_plain h hprintable 0

/-- Where characters are printed as they are, every text is printable. -/
theorem isPrintable_of_wide (hstyle : style.asciiOnly = false) (s : String) :
    IsPrintable style s := by
  intro h
  rw [hstyle] at h
  cases h

theorem parse_render (hstyle : style.asciiOnly = false) {v : Value} (h : v.isPlain = true) :
    parse (String.ofList (render style 0 v)) = .ok v :=
  parse_render_of_isPrintable h fun s _ => isPrintable_of_wide hstyle s

end FlowTemplate.Json
